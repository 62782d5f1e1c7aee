import Mathlib.Data.List.Induction
import Mathlib.Data.List.Sort
import Tributary.Proofs.Graph.Components
import Tributary.Proofs.Graph.Search
import Tributary.Proofs.Schedule.Loop
import Tributary.Rules

/-!
# Cycles of a graph

* `Mutual needs i j` : nodes that lead to each other; `IsComponent` : all nodes that do, in increasing order;
* `steps_inside` : a way between two nodes of a component stays in it;
* `mem_components` : the walk finds the components of the nodes that no schedule has;
* `IsBest`, `isBest_foldl_shorter` : the shortest of lists, that of the lowest node;
* `IsShortestCycle` : a shortest cycle of a component, from its lowest node on;
* `shortest?_eq_some`, `shortest?_isSome` : such a cycle is found where there is a cycle, and only there;
* `cycleRule_exact` : what is reported of the cycles of a model.
-/

namespace Tributary.Cycle

open Schedule Relation

/-! ## Components -/

def Mutual (needs : Needs) (i j : Nat) : Prop := ReflTransGen (Leads needs) i j ∧ ReflTransGen (Leads needs) j i

/-- A strongly connected component: all nodes that lead to each other, in increasing order. -/
structure IsComponent (needs : Needs) (c : List Nat) : Prop where
  ne_nil : c ≠ []
  sorted : c.Pairwise (· < ·)
  lt : ∀ i ∈ c, i < needs.length
  mem_iff : ∀ i ∈ c, ∀ j, j ∈ c ↔ Mutual needs i j

/-- A component has a cycle: it has two or more nodes, or one that leads to itself. -/
def IsCyclic (needs : Needs) (c : List Nat) : Prop := 2 ≤ c.length ∨ ∃ i, c = [i] ∧ Leads needs i i

section Components
variable {needs : Needs} {i j k : Nat} {c c' : List Nat}

theorem Mutual.refl (needs : Needs) (i : Nat) : Mutual needs i i := ⟨.refl, .refl⟩

theorem Mutual.symm (h : Mutual needs i j) : Mutual needs j i := ⟨h.2, h.1⟩

theorem Mutual.trans (hij : Mutual needs i j) (hjk : Mutual needs j k) : Mutual needs i k :=
  ⟨hij.1.trans hjk.1, hjk.2.trans hij.2⟩

/-- Nodes that lead to each other are left over together. -/
theorem Mutual.mem_stuck (h : Mutual needs i j) (hi : i ∈ stuck needs) : j ∈ stuck needs := by
  rw [Schedule.mem_stuck] at hi ⊢
  exact ⟨reflTransGen_lt h.1 hi.1, fun hj => hi.2 (mem_scheduled_of_reach hj h.2)⟩

/-- A node is in one component only. -/
theorem IsComponent.eq (h : IsComponent needs c) (h' : IsComponent needs c') (hi : i ∈ c) (hi' : i ∈ c') : c = c' :=
  h.sorted.eq_of_mem_iff h'.sorted fun j => (h.mem_iff i hi j).trans (h'.mem_iff i hi' j).symm

end Components

/-! ## Ways in a component -/

def inside (needs : Needs) (c : List Nat) (i : Nat) : List Nat := (needsOf needs i).filter c.contains

section Inside
variable {needs : Needs} {c l : List Nat} {a b k : Nat}

theorem mem_inside : b ∈ inside needs c a ↔ Leads needs a b ∧ b ∈ c := by
  rw [inside, List.mem_filter, List.contains_iff_mem]
  rfl

/-- Nodes within the numbering are looked up among all that a node names. -/
theorem filter_contains_eq_inside (hc : ∀ i ∈ c, i < needs.length) (a : Nat) :
    ((needs[a]?).getD []).filter c.contains = inside needs c a := by
  rw [inside, needsOf, List.filter_filter]
  refine List.filter_congr fun b _ => ?_
  by_cases hb : b ∈ c
  · simp [hb, hc b hb]
  · simp [hb]

/-- A way from a node that can be continued back to it stays among the nodes that lead to it and back. -/
theorem steps_inside (hc : ∀ d, Mutual needs a d → d ∈ c) (h : Steps (needsOf needs) a k b)
    (hback : ReflTransGen (Leads needs) b a) : Steps (inside needs c) a k b := by
  induction h with
  | zero => exact .zero
  | @succ k b d hb hd ih =>
    have hto : ReflTransGen (Leads needs) a d := reflTransGen_iff_steps.mpr ⟨k + 1, hb.succ hd⟩
    exact (ih (.head hd hback)).succ (mem_inside.mpr ⟨hd, hc d ⟨hto, hback⟩⟩)

theorem Reaches.of_inside (h : Reaches (inside needs c) a b) : ReflTransGen (Leads needs) a b :=
  ReflTransGen.mono (fun _ _ hstep => (mem_inside.mp hstep).1) a b h

theorem reaches_inside (hc : ∀ d, Mutual needs a d → d ∈ c) (h : Mutual needs a b) : Reaches (inside needs c) a b := by
  obtain ⟨k, hk⟩ := reflTransGen_iff_steps.mp h.1
  exact reflTransGen_iff_steps.mpr ⟨k, steps_inside hc hk h.2⟩

theorem mem_of_steps_inside (h : Steps (inside needs c) a k b) (ha : a ∈ c) : b ∈ c := by
  cases h with
  | zero => exact ha
  | succ _ hb => exact (mem_inside.mp hb).2

/-- In a component that has a cycle every node has a way back to itself. -/
theorem IsCyclic.exists_steps (h : IsCyclic needs c) (hc : IsComponent needs c) (ha : a ∈ c) :
    ∃ k, 0 < k ∧ Steps (needsOf needs) a k a := by
  rcases h with hlen | ⟨i, rfl, hi⟩
  · obtain ⟨b, hb, hne⟩ : ∃ b ∈ c, b ≠ a := by
      by_contra hall
      have hsub : c ⊆ [a] := fun b hb => by
        by_contra hba
        exact hall ⟨b, hb, by simpa using hba⟩
      have hnodup : c.Nodup := hc.sorted.imp Nat.ne_of_lt
      have := (hnodup.subperm hsub).length_le
      rw [List.length_singleton] at this
      omega
    obtain ⟨hab, hba⟩ := (hc.mem_iff a ha b).mp hb
    obtain ⟨k, hk⟩ := reflTransGen_iff_steps.mp hab
    obtain ⟨m, hm⟩ := reflTransGen_iff_steps.mp hba
    refine ⟨k + m, ?_, hk.trans hm⟩
    by_contra hzero
    obtain rfl : k = 0 := by omega
    cases hk
    exact hne rfl
  · obtain rfl := List.mem_singleton.mp ha
    exact ⟨1, by omega, .of_mem hi⟩

/-- A way back that stays in a component makes it one with a cycle. -/
theorem isCyclic_of_steps (hc : IsComponent needs c) (ha : a ∈ c) (hk : 0 < k)
    (h : Steps (inside needs c) a k a) : IsCyclic needs c := by
  by_cases hlen : 2 ≤ c.length
  · exact .inl hlen
  · have hpos : 0 < c.length := List.length_pos_of_mem ha
    obtain ⟨i, rfl⟩ := List.length_eq_one_iff.mp (show c.length = 1 by omega)
    refine .inr ⟨i, rfl, ?_⟩
    cases h with
    | zero => omega
    | succ hb hba =>
      obtain rfl := List.mem_singleton.mp (mem_of_steps_inside hb ha)
      obtain rfl := List.mem_singleton.mp ha
      exact (mem_inside.mp hba).1

theorem Closed.of_inside (h : Closed (inside needs c) l) : Closed (needsOf needs) l := by
  cases l with
  | nil => exact h
  | cons a l => exact List.IsChain.imp (fun _ _ hxy => (mem_inside.mp hxy).1) h

theorem Closed.ne_nil {next : Nat → List Nat} (h : Closed next l) : l ≠ [] := by
  rintro rfl
  exact h

theorem Closed.subset (h : Closed (inside needs c) l) : ∀ x ∈ l, x ∈ c := by
  intro x hx
  have hpos : 0 < l.length := List.length_pos_of_mem hx
  cases hk : l.length with
  | zero => omega
  | succ k =>
    have hsteps := h.steps hx
    rw [hk] at hsteps
    cases hsteps with
    | succ _ hb => exact (mem_inside.mp hb).2

end Inside

/-! ## The components of the nodes that are left over -/

/-- What the walk over the nodes that no schedule has finds. -/
def components (needs : Needs) : List (List Nat) := (components? needs (stuck needs)).getD []

section Found
variable {needs : Needs} {c : List Nat}

theorem lt_of_mem_stuck {i : Nat} (hi : i ∈ stuck needs) : i < needs.length := (Schedule.mem_stuck.mp hi).1

theorem IsClass.isComponent (h : IsClass (inside needs (stuck needs)) c) (hc : ∀ i ∈ c, i ∈ stuck needs) :
    IsComponent needs c where
  ne_nil := h.ne_nil
  sorted := h.sorted
  lt i hi := lt_of_mem_stuck (hc i hi)
  mem_iff i hi j := by
    rw [h.mem_iff i hi]
    constructor
    · rintro ⟨hij, hji⟩
      exact ⟨hij.of_inside, hji.of_inside⟩
    · intro hij
      have hj := hij.mem_stuck (hc i hi)
      exact ⟨reaches_inside (fun d hd => hd.mem_stuck (hc i hi)) hij,
        reaches_inside (fun d hd => hd.mem_stuck hj) hij.symm⟩

theorem components_spec (needs : Needs) :
    (∀ c ∈ components needs, IsComponent needs c ∧ ∀ i ∈ c, i ∈ stuck needs) ∧
      (∀ i ∈ stuck needs, ∃ c ∈ components needs, i ∈ c) ∧
      (components needs).Pairwise fun c c' => ∃ i j, c.head? = some i ∧ c'.head? = some j ∧ i < j := by
  have hlt : ∀ i ∈ stuck needs, i < needs.length := fun i hi => lt_of_mem_stuck hi
  obtain ⟨cs, hcs, hclass, hall, hsorted⟩ := components_exact hlt (filter_contains_eq_inside hlt)
  rw [components, hcs]
  exact ⟨fun c hc => ⟨(hclass c hc).1.isComponent (hclass c hc).2, (hclass c hc).2⟩, hall, hsorted⟩

theorem mem_components : c ∈ components needs ↔ IsComponent needs c ∧ ∃ i ∈ c, i ∈ stuck needs := by
  obtain ⟨hcomponent, hall, -⟩ := components_spec needs
  constructor
  · intro hc
    obtain ⟨hc, hstuck⟩ := hcomponent c hc
    obtain ⟨i, hi⟩ := List.exists_mem_of_ne_nil c hc.ne_nil
    exact ⟨hc, i, hi, hstuck i hi⟩
  · rintro ⟨hc, i, hic, hi⟩
    obtain ⟨c', hc', hic'⟩ := hall i hi
    rwa [hc.eq (hcomponent c' hc').1 hic hic']

end Found

/-! ## The shortest cycle of a component -/

/-- The shortest of the lists that nodes give; of several, that of the lowest node. -/
def IsBest (f : Nat → Option (List Nat)) (nodes : List Nat) : Option (List Nat) → Prop
  | none => ∀ i ∈ nodes, f i = none
  | some best => ∃ i ∈ nodes, f i = some best ∧
      ∀ j ∈ nodes, ∀ l, f j = some l → best.length ≤ l.length ∧ (j < i → best.length < l.length)

section Best
variable {f : Nat → Option (List Nat)} {nodes : List Nat} {best : Option (List Nat)} {a : Nat}

theorem IsBest.skip (h : IsBest f nodes best) (ha : f a = none) : IsBest f (nodes ++ [a]) best := by
  cases best with
  | none =>
    rw [IsBest, List.forall_mem_append, List.forall_mem_singleton]
    exact ⟨h, ha⟩
  | some best =>
    obtain ⟨i, hi, hfi, hleast⟩ := h
    refine ⟨i, List.mem_append_left _ hi, hfi, ?_⟩
    rw [List.forall_mem_append, List.forall_mem_singleton]
    refine ⟨hleast, fun l hl => ?_⟩
    rw [ha] at hl
    cases hl

theorem IsBest.add (h : IsBest f nodes best) (hlt : ∀ j ∈ nodes, j < a) {found : List Nat} (ha : f a = some found) :
    IsBest f (nodes ++ [a]) (shorter best found) := by
  have hown : ∀ l, f a = some l → l = found := fun l hl => Option.some.inj (hl.symm.trans ha)
  cases best with
  | none =>
    refine ⟨a, by simp, ha, ?_⟩
    rw [List.forall_mem_append, List.forall_mem_singleton]
    refine ⟨fun j hj l hl => ?_, fun l hl => ?_⟩
    · rw [h j hj] at hl
      cases hl
    · obtain rfl := hown l hl
      exact ⟨Nat.le_refl _, fun hself => absurd hself (Nat.lt_irrefl a)⟩
  | some best =>
    obtain ⟨i, hi, hfi, hleast⟩ := h
    by_cases hshort : found.length < best.length
    · rw [shorter, if_pos hshort]
      refine ⟨a, by simp, ha, ?_⟩
      rw [List.forall_mem_append, List.forall_mem_singleton]
      refine ⟨fun j hj l hl => ?_, fun l hl => ?_⟩
      · have := (hleast j hj l hl).1
        exact ⟨by omega, fun _ => by omega⟩
      · obtain rfl := hown l hl
        exact ⟨Nat.le_refl _, fun hself => absurd hself (Nat.lt_irrefl a)⟩
    · rw [shorter, if_neg hshort]
      refine ⟨i, List.mem_append_left _ hi, hfi, ?_⟩
      rw [List.forall_mem_append, List.forall_mem_singleton]
      refine ⟨hleast, fun l hl => ?_⟩
      obtain rfl := hown l hl
      have hia := hlt i hi
      exact ⟨by omega, fun hai => by omega⟩

theorem isBest_foldl_shorter (f : Nat → Option (List Nat)) (hsorted : nodes.Pairwise (· < ·)) :
    IsBest f nodes ((nodes.filterMap f).foldl shorter none) := by
  induction nodes using List.reverseRecOn with
  | nil => exact fun i hi => by cases hi
  | append_singleton nodes a ih =>
    obtain ⟨hnodes, -, hlt⟩ := List.pairwise_append.mp hsorted
    have ih := ih hnodes
    rw [List.filterMap_append, List.foldl_append]
    cases ha : f a with
    | none =>
      rw [show [a].filterMap f = [] by simp [ha], List.foldl_nil]
      exact ih.skip ha
    | some found =>
      rw [show [a].filterMap f = [found] by simp [ha], List.foldl_cons, List.foldl_nil]
      exact ih.add (fun j hj => hlt j hj a (List.mem_singleton_self a)) ha

end Best

/-- A cycle of a component that meets no node twice, is no longer than any other, and starts at its lowest node. -/
structure IsShortestCycle (needs : Needs) (c cycle : List Nat) : Prop where
  closed : Closed (needsOf needs) cycle
  nodup : cycle.Nodup
  subset : ∀ i ∈ cycle, i ∈ c
  least : ∀ l, Closed (needsOf needs) l → (∀ i ∈ l, i ∈ c) → cycle.length ≤ l.length
  lowest : ∀ start ∈ cycle.head?, ∀ i ∈ cycle, start ≤ i

section Shortest
variable {needs : Needs} {c cycle : List Nat} {a : Nat}

theorem IsComponent.isFound (hc : IsComponent needs c) (ha : a ∈ c) :
    IsFound (inside needs c) a (search? needs c a c.length { queue := [a] }) :=
  isFound_search (filter_contains_eq_inside hc.lt) ha

theorem through?_eq_some (hc : IsComponent needs c) (ha : a ∈ c) (h : through? needs c a = some cycle) :
    Shortest (inside needs c) a cycle := by
  obtain ⟨found, hfound, rfl⟩ := Option.map_eq_some_iff.mp h
  have hshort := hc.isFound ha
  rwa [hfound] at hshort

theorem through?_isSome (hc : IsComponent needs c) (ha : a ∈ c) {k : Nat} (hk : 0 < k)
    (h : Steps (needsOf needs) a k a) : ∃ cycle, through? needs c a = some cycle := by
  have hfound := hc.isFound ha
  cases hsearch : search? needs c a c.length { queue := [a] } with
  | some found => exact ⟨_, by rw [through?, hsearch]; rfl⟩
  | none =>
    rw [hsearch] at hfound
    exact absurd (steps_inside (fun d => (hc.mem_iff a ha d).mpr) h .refl) (hfound k hk)

/-- Every cycle through a node is at least as long as the one that is found for it. -/
theorem Shortest.length_le (h : Shortest (inside needs c) a cycle) (hc : IsComponent needs c) (ha : a ∈ c)
    {l : List Nat} (hl : Closed (needsOf needs) l) (hal : a ∈ l) : cycle.length ≤ l.length :=
  h.least l.length (List.length_pos_of_mem hal) (steps_inside (fun d => (hc.mem_iff a ha d).mpr) (hl.steps hal) .refl)

theorem shortest?_eq_some (hc : IsComponent needs c) (h : shortest? needs c = some cycle) :
    IsCyclic needs c ∧ IsShortestCycle needs c cycle := by
  have hbest := isBest_foldl_shorter (through? needs c) hc.sorted
  rw [show (c.filterMap (through? needs c)).foldl shorter none = some cycle from h] at hbest
  obtain ⟨a, ha, hfound, hleast⟩ := hbest
  have hshort := through?_eq_some hc ha hfound
  have hpos : 0 < cycle.length := List.length_pos_of_ne_nil hshort.closed.ne_nil
  have hmem : a ∈ cycle := List.mem_of_head? hshort.head
  have hclosed := hshort.closed.of_inside
  -- A cycle through a node of the component leads back to it, so one was found from that node too.
  have hother : ∀ l x, Closed (needsOf needs) l → x ∈ l → x ∈ c →
      ∃ found, through? needs c x = some found ∧ found.length ≤ l.length := by
    intro l x hl hxl hxc
    obtain ⟨found, hfound⟩ := through?_isSome hc hxc (List.length_pos_of_mem hxl) (hl.steps hxl)
    exact ⟨found, hfound, (through?_eq_some hc hxc hfound).length_le hc hxc hl hxl⟩
  refine ⟨isCyclic_of_steps hc ha hpos (hshort.closed.steps hmem), hclosed, hshort.nodup,
    hshort.closed.subset, fun l hl hlc => ?_, fun start hstart i hi => ?_⟩
  · obtain ⟨x, hx⟩ := List.exists_mem_of_ne_nil l hl.ne_nil
    obtain ⟨found, hfound, hle⟩ := hother l x hl hx (hlc x hx)
    exact Nat.le_trans (hleast x (hlc x hx) found hfound).1 hle
  · obtain rfl : a = start := Option.some.inj (hshort.head.symm.trans hstart)
    by_contra hlt
    have hic := hshort.closed.subset i hi
    obtain ⟨found, hfound, hle⟩ := hother cycle i hclosed hi hic
    have := (hleast i hic found hfound).2 (by omega)
    omega

theorem shortest?_isSome (hc : IsComponent needs c) (hcyclic : IsCyclic needs c) :
    ∃ cycle, shortest? needs c = some cycle := by
  have hbest := isBest_foldl_shorter (through? needs c) hc.sorted
  cases h : shortest? needs c with
  | some cycle => exact ⟨cycle, rfl⟩
  | none =>
    rw [show (c.filterMap (through? needs c)).foldl shorter none = none from h] at hbest
    obtain ⟨a, ha⟩ := List.exists_mem_of_ne_nil c hc.ne_nil
    obtain ⟨k, hk, hback⟩ := hcyclic.exists_steps hc ha
    obtain ⟨cycle, hfound⟩ := through?_isSome hc ha hk hback
    rw [hbest a ha] at hfound
    cases hfound

/-- The nodes of a component with a cycle are left over by every schedule. -/
theorem IsCyclic.mem_stuck (h : IsCyclic needs c) (hc : IsComponent needs c) (ha : a ∈ c) : a ∈ stuck needs := by
  obtain ⟨k, hk, hback⟩ := h.exists_steps hc ha
  have hcycle : TransGen (Leads needs) a a := by
    cases hback with
    | zero => omega
    | succ hb hba => exact .tail' (reflTransGen_iff_steps.mpr ⟨_, hb⟩) hba
  exact Schedule.mem_stuck.mpr ⟨hc.lt a ha, not_mem_scheduled_of_cycle hcycle⟩

end Shortest

/-- The components that have a cycle, each with the cycle that is reported of it. -/
def reported (needs : Needs) : List (List Nat × List Nat) :=
  (components needs).filterMap fun c => (shortest? needs c).map fun cycle => (c, cycle)

section Reported
variable {needs : Needs} {c : List Nat}

theorem all_eq_filterMap (needs : Needs) : all needs = (components needs).filterMap (shortest? needs) := by
  rw [all, solve_eq]
  by_cases hlen : (scheduled needs).length = needs.length
  · -- Where all nodes have a schedule, none is in a component.
    have hnone : components needs = [] := by
      refine List.eq_nil_iff_forall_not_mem.mpr fun c hc => ?_
      obtain ⟨-, i, -, hi⟩ := mem_components.mp hc
      obtain ⟨hlt, hnot⟩ := Schedule.mem_stuck.mp hi
      have hperm := (scheduled_isPartial needs).perm_range (by simp [hlen])
      exact hnot (hperm.mem_iff.mpr (List.mem_range.mpr hlt))
    rw [if_pos hlen, hnone]
    rfl
  · rw [if_neg hlen]
    rfl

theorem all_eq_map_reported (needs : Needs) : all needs = (reported needs).map Prod.snd := by
  rw [all_eq_filterMap, reported, List.map_filterMap]
  refine List.filterMap_congr fun c _ => ?_
  cases shortest? needs c <;> rfl

theorem mem_reported {p : List Nat × List Nat} :
    p ∈ reported needs ↔ p.1 ∈ components needs ∧ shortest? needs p.1 = some p.2 := by
  rw [reported, List.mem_filterMap]
  constructor
  · rintro ⟨c, hc, hp⟩
    obtain ⟨cycle, hcycle, rfl⟩ := Option.map_eq_some_iff.mp hp
    exact ⟨hc, hcycle⟩
  · rintro ⟨hc, hcycle⟩
    exact ⟨p.1, hc, by rw [hcycle]; rfl⟩

theorem mem_reported_fst : c ∈ (reported needs).map Prod.fst ↔ IsComponent needs c ∧ IsCyclic needs c := by
  constructor
  · intro hmem
    obtain ⟨p, hp, rfl⟩ := List.mem_map.mp hmem
    obtain ⟨hcomp, hcycle⟩ := mem_reported.mp hp
    have hc := (mem_components.mp hcomp).1
    exact ⟨hc, (shortest?_eq_some hc hcycle).1⟩
  · rintro ⟨hc, hcyclic⟩
    obtain ⟨cycle, hcycle⟩ := shortest?_isSome hc hcyclic
    obtain ⟨a, ha⟩ := List.exists_mem_of_ne_nil c hc.ne_nil
    have hcomp := mem_components.mpr ⟨hc, a, ha, hcyclic.mem_stuck hc ha⟩
    exact List.mem_map.mpr ⟨(c, cycle), mem_reported.mpr ⟨hcomp, hcycle⟩, rfl⟩

theorem reported_sorted (needs : Needs) :
    (reported needs).Pairwise fun p q => ∃ i j, p.1.head? = some i ∧ q.1.head? = some j ∧ i < j := by
  refine (components_spec needs).2.2.filterMap _ fun c c' hlt p hp q hq => ?_
  obtain ⟨cycle, -, rfl⟩ := Option.map_eq_some_iff.mp hp
  obtain ⟨cycle', -, rfl⟩ := Option.map_eq_some_iff.mp hq
  exact hlt

end Reported

/-- What is reported of the cycles of a model: one problem for each component that has a cycle and none else, by the
lowest nodes of the components, with a shortest cycle of the component from its lowest node on. -/
theorem cycleRule_exact {ε : Type} (m : Model ε) (needs : Needs) :
    ∃ found : List (List Nat × List Nat),
      m.cycleRule needs = (found.map fun p =>
        { problem := .dependencyCycle (p.2.map m.nameOf)
          entity := (p.2.head?.bind fun i => m.entities[i]?).map Entity.name
          span := (p.2.head?.bind fun i => m.entities[i]?).bind Entity.span }) ∧
      (∀ c, c ∈ found.map Prod.fst ↔ IsComponent needs c ∧ IsCyclic needs c) ∧
      (found.Pairwise fun p q => ∃ i j, p.1.head? = some i ∧ q.1.head? = some j ∧ i < j) ∧
      ∀ p ∈ found, IsShortestCycle needs p.1 p.2 := by
  refine ⟨reported needs, ?_, fun c => mem_reported_fst, reported_sorted needs, fun p hp => ?_⟩
  · rw [Model.cycleRule, all_eq_map_reported, List.map_map]
    rfl
  · obtain ⟨hcomp, hcycle⟩ := mem_reported.mp hp
    exact (shortest?_eq_some (mem_components.mp hcomp).1 hcycle).2

-- Of three nodes in a circle two also lead to each other; the fourth node is on no cycle, the fifth leads to itself.
example : all [[1], [2], [0, 1], [4], [4, 0], [3]] = [[1, 2], [4]] := by decide

end Tributary.Cycle
