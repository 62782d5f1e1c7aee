import Tributary.Distinct

/-!
# Schedules

Nodes are numbered from zero, and each has a list of nodes that it needs. A schedule puts every node
after all that it needs; among those that are ready the lowest number goes first. Needs outside of the
numbering are ignored. When no schedule exists, the nodes left over are those that reach a cycle.

* `Schedule.Waiting` : how many needs of a node are open, and which nodes wait for it;
* `Schedule.drain` : the loop that takes the lowest ready node and releases those that wait for it;
* `Schedule.solve` : a schedule of all nodes, or the nodes that are left over.
-/

namespace Tributary.Schedule

abbrev Needs := List (List Nat)

def needsOf (needs : Needs) (i : Nat) : List Nat :=
  ((needs[i]?).getD []).filter (· < needs.length)

/-- For each node, how many of its needs are open and which nodes wait for it. -/
structure Waiting where
  pending : List Nat
  dependents : List (List Nat)

def Waiting.link (w : Waiting) (node need : Nat) : Waiting :=
  { pending := w.pending.modify node (· + 1), dependents := w.dependents.modify need (· ++ [node]) }

def Waiting.linkAll (needs : Needs) (w : Waiting) (node : Nat) : Waiting :=
  (needsOf needs node).foldl (fun w need => w.link node need) w

def Waiting.empty (n : Nat) : Waiting := { pending := List.replicate n 0, dependents := List.replicate n [] }

/-- Every need is open at first. -/
def Waiting.ofNeeds (needs : Needs) : Waiting :=
  (List.range needs.length).foldl (Waiting.linkAll needs) (.empty needs.length)

/-- The counts of open needs, and the nodes without any that are still to come, in increasing order. -/
structure State where
  pending : List Nat
  ready : List Nat

/-- One need less of a node is open. A count that is zero already cannot go down. -/
def State.release (s : State) (node : Nat) : Option State :=
  match s.pending[node]? with
  | some (k + 1) =>
    some {
      pending := s.pending.set node k
      ready := if k = 0 then Sorted.insert compare node s.ready else s.ready }
  | _ => none

/-- Takes up to `n` nodes, each time the lowest that is ready, and goes on until none is. -/
def drain (dependents : List (List Nat)) : Nat → State → List Nat → Option (List Nat)
  | _, ⟨_, []⟩, order => some order
  | 0, ⟨_, _ :: _⟩, _ => none
  | n + 1, ⟨pending, node :: ready⟩, order => do
    let waiting ← dependents[node]?
    let s ← waiting.foldlM State.release ⟨pending, ready⟩
    drain dependents n s (order ++ [node])

/-- The nodes that can be scheduled, in order. -/
def walk (needs : Needs) : Option (List Nat) :=
  let w := Waiting.ofNeeds needs
  let ready := (List.range needs.length).filter fun i => w.pending[i]? == some 0
  drain w.dependents needs.length ⟨w.pending, ready⟩ []

/-- A schedule of all nodes, or the nodes that cannot be scheduled. -/
inductive Outcome where
  | order (nodes : List Nat)
  | cycle (nodes : List Nat)
deriving DecidableEq, Repr

/-- The schedule of all nodes if there is one. -/
def solve (needs : Needs) : Outcome :=
  match walk needs with
  | some order =>
    if order.length = needs.length then .order order
    else .cycle ((List.range needs.length).filter fun i => !order.contains i)
  -- Not reached: no count goes below zero, and `needs.length` rounds are enough.
  | none => .cycle []

end Tributary.Schedule
