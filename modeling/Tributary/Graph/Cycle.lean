import Tributary.Schedule

/-!
# Cycles

Nodes that lead to each other form a component. Of each component with a cycle one shortest cycle is
reported, from its lowest node on.

* `Cycle.Walk` : what the depth-first walk in search of components keeps; `Cycle.visit` : the walk from a node;
* `Cycle.components?` : the components of some nodes, by one walk;
* `Cycle.search?` : the breadth-first search for a way back to a node, `Cycle.trail` : the way that it took;
* `Cycle.shortest?` : a shortest cycle of a component;
* `Cycle.all` : one cycle for each component that has one.
-/

namespace Tributary.Cycle

open Schedule

/-! ## Components -/

/-- What the walk keeps. Of several entries of one node in a table the first counts. -/
structure Walk where
  /-- The nodes met so far, numbered in the order in which they were met. -/
  index : List (Nat × Nat) := []
  /-- For each of them, the lowest number that is known to be in its component. -/
  lowlink : List (Nat × Nat) := []
  /-- The nodes that are in no component yet, the latest first. -/
  stack : List Nat := []
  onStack : List Nat := []
  components : List (List Nat) := []

namespace Walk

def enter (w : Walk) (node : Nat) : Walk :=
  { w with
    index := (node, w.index.length) :: w.index
    lowlink := (node, w.index.length) :: w.lowlink
    stack := node :: w.stack
    onStack := node :: w.onStack }

/-- Lowers the link of a node to a number, if it is higher. -/
def lower (w : Walk) (node number : Nat) : Option Walk := do
  let low ← w.lowlink.lookup node
  some { w with lowlink := (node, min low number) :: w.lowlink }

def look (members : List Nat) (visit : Nat → Walk → Option Walk) (node : Nat) (w : Walk) (next : Nat) : Option Walk :=
  if !members.contains next then some w
  else if (w.index.lookup next).isNone then do
    let w ← visit next w
    let low ← w.lowlink.lookup next
    w.lower node low
  else if w.onStack.contains next then do
    let number ← w.index.lookup next
    w.lower node number
  else some w

/-- Takes nodes off the stack and into a component, up to a node. -/
def unwind (node : Nat) (component : List Nat) : List Nat → List Nat → List Nat × List Nat × List Nat
  | [], onStack => ([], onStack, component)
  | member :: stack, onStack =>
    let onStack := onStack.filter (· != member)
    let component := component ++ [member]
    if member = node then (stack, onStack, component) else unwind node component stack onStack

/-- The nodes on the stack, down to this one, are a component. -/
def close (w : Walk) (node : Nat) : Walk :=
  let (stack, onStack, component) := unwind node [] w.stack w.onStack
  let component := Sorted.arrange (fun a b => decide (a ≤ b)) component
  { w with stack, onStack, components := w.components ++ [component] }

end Walk

/-- Walks on from a node that has not been met, among some nodes and up to `n` nodes deep. -/
def visit (needs : Needs) (members : List Nat) : Nat → Nat → Walk → Option Walk
  | 0, _, _ => none
  | n + 1, node, w => do
    let nexts ← needs[node]?
    let w ← nexts.foldlM (Walk.look members (visit needs members n) node) (w.enter node)
    let low ← w.lowlink.lookup node
    let number ← w.index.lookup node
    if low = number then some (w.close node) else some w

/-- The components of some nodes, by their lowest nodes. -/
def components? (needs : Needs) (nodes : List Nat) : Option (List (List Nat)) := do
  let w ← nodes.foldlM (fun w node =>
    if (w.index.lookup node).isNone then visit needs nodes nodes.length node w else some w) {}
  some (Sorted.arrange Sorted.lexLe w.components)

/-! ## Shortest cycles -/

/-- Where a node was come upon, for each node that the search has seen, and the nodes still to look at. -/
structure Search where
  previous : List (Nat × Nat) := []
  queue : List Nat

/-- Looks at what a node leads to, up to the start; the flag says whether that was met. -/
def scan (members : List Nat) (start node : Nat) : List Nat → Search → Bool × Search
  | [], s => (false, s)
  | next :: nexts, s =>
    if !members.contains next then scan members start node nexts s
    else if next = start then (true, s)
    else if (s.previous.lookup next).isNone then
      scan members start node nexts { previous := (next, node) :: s.previous, queue := s.queue ++ [next] }
    else scan members start node nexts s

/-- The first node that leads back to the start, among some nodes, with where nodes were come upon. -/
def search? (needs : Needs) (members : List Nat) (start : Nat) : Nat → Search → Option (Nat × List (Nat × Nat))
  | _, ⟨_, []⟩ => none
  | 0, ⟨_, _ :: _⟩ => none
  | n + 1, ⟨previous, node :: queue⟩ =>
    match scan members start node ((needs[node]?).getD []) ⟨previous, queue⟩ with
    | (true, s) => some (node, s.previous)
    | (false, s) => search? needs members start n s

/-- The nodes from a node back to the start, each where the one before was come upon. -/
def trail (previous : List (Nat × Nat)) (start : Nat) : Nat → Nat → List Nat
  | 0, node => [node]
  | n + 1, node =>
    if node = start then [node]
    else
      match previous.lookup node with
      | some before => node :: trail previous start n before
      | none => [node]

/-- A shortest cycle through a node that stays in a component. -/
def through? (needs : Needs) (component : List Nat) (start : Nat) : Option (List Nat) :=
  (search? needs component start component.length { queue := [start] }).map fun found =>
    (trail found.2 start found.2.length found.1).reverse

/-- The first of the shortest lists. -/
def shorter (best : Option (List Nat)) (found : List Nat) : Option (List Nat) :=
  match best with
  | some b => if found.length < b.length then some found else some b
  | none => some found

/-- A shortest cycle of a component, from its lowest node on. -/
def shortest? (needs : Needs) (component : List Nat) : Option (List Nat) :=
  (component.filterMap (through? needs component)).foldl shorter none

/-- One cycle for each component that has one. -/
def all (needs : Needs) : List (List Nat) :=
  match solve needs with
  | .order _ => []
  | .cycle nodes => ((components? needs nodes).getD []).filterMap (shortest? needs)

end Tributary.Cycle
