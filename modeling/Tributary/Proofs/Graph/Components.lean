import Mathlib.Data.List.Perm.Subperm
import Mathlib.Logic.Relation
import Tributary.Graph.Cycle
import Tributary.Proofs.Distinct

/-!
# The walk in search of components

The walk numbers the nodes that it meets and keeps those on a stack that are in no component yet. It is followed here
with the path of the nodes whose walk has not ended, as a parameter that the walk itself does not keep.

* `Reaches next a b` : there is a way; `IsClass next c` : all nodes that reach each other, in increasing order;
* `Good next members w path` : what holds between any two steps of the walk; `Good.enter`, `Good.lower` : that it does;
* `Extends w v new` : what was known stays known, and `new` are put on the stack;
* `Visited` : what the walk from a node has done; `Round` : what it has done after some of the nodes that it leads to;
* `Round.look` : looking at one more of these; `Round.isClass` : the nodes that are taken off are a component;
* `Round.close`, `Round.leave` : the end of the walk from a node; `Good.visit` : the walk from a node;
* `components_exact` : the components that are found are all there are, by their lowest nodes.
-/

namespace Tributary.Cycle

open Schedule Relation

def Reaches (next : Nat → List Nat) : Nat → Nat → Prop := ReflTransGen fun a b => b ∈ next a

/-- All nodes that reach each other, in increasing order. -/
structure IsClass (next : Nat → List Nat) (c : List Nat) : Prop where
  ne_nil : c ≠ []
  sorted : c.Pairwise (· < ·)
  mem_iff : ∀ i ∈ c, ∀ j, j ∈ c ↔ Reaches next i j ∧ Reaches next j i

/-- From some nodes that only lead to each other no other node is reached. -/
theorem Reaches.mem_of_closed {next : Nat → List Nat} {s : Nat → Prop} (hs : ∀ a, s a → ∀ b ∈ next a, s b) {a b : Nat}
    (h : Reaches next a b) (ha : s a) : s b := by
  induction h with
  | refl => exact ha
  | tail _ hstep ih => exact hs _ ih _ hstep

theorem mem_arrange {l : List Nat} {x : Nat} : x ∈ Sorted.arrange (fun a b => decide (a ≤ b)) l ↔ x ∈ l := by
  rw [Sorted.arrange_eq_insertionSort (· ≤ ·), List.mem_insertionSort]

/-! ## What the walk knows -/

namespace Walk

def met (w : Walk) : List Nat := w.index.map Prod.fst

def number (w : Walk) (x : Nat) : Nat := (w.index.lookup x).getD 0

def low (w : Walk) (x : Nat) : Nat := (w.lowlink.lookup x).getD 0

def settled (w : Walk) : List Nat := w.components.flatten

theorem lookup_index {w : Walk} {x : Nat} (h : x ∈ w.met) : w.index.lookup x = some (w.number x) := by
  obtain ⟨n, hn⟩ := Option.isSome_iff_exists.mp (lookup_isSome.mpr h)
  rw [number, hn]
  rfl

theorem lookup_index_isNone {w : Walk} {x : Nat} : (w.index.lookup x).isNone = true ↔ x ∉ w.met := by
  rw [met, ← lookup_isSome, Option.isNone_iff_eq_none, Option.not_isSome_iff_eq_none]

theorem lookup_lowlink {w : Walk} {x : Nat} (h : (w.lowlink.lookup x).isSome = true) :
    w.lowlink.lookup x = some (w.low x) := by
  obtain ⟨n, hn⟩ := Option.isSome_iff_exists.mp h
  rw [low, hn]
  rfl

def relink (w : Walk) (x n : Nat) : Walk := { w with lowlink := (x, n) :: w.lowlink }

theorem lower_eq {w : Walk} {x : Nat} (h : (w.lowlink.lookup x).isSome = true) (n : Nat) :
    w.lower x n = some (w.relink x (min (w.low x) n)) := by
  rw [lower, lookup_lowlink h]
  rfl

theorem low_relink_self (w : Walk) (x n : Nat) : (w.relink x n).low x = n := by
  simp [low, relink]

theorem low_relink_of_ne {w : Walk} {x y n : Nat} (h : y ≠ x) : (w.relink x n).low y = w.low y := by
  simp [low, relink, List.lookup_cons, beq_eq_false_iff_ne.mpr h]

theorem number_enter_self (w : Walk) (x : Nat) : (w.enter x).number x = w.index.length := by
  simp [number, enter]

theorem low_enter_self (w : Walk) (x : Nat) : (w.enter x).low x = w.index.length := by
  simp [low, enter]

theorem number_enter_of_ne {w : Walk} {x y : Nat} (h : y ≠ x) : (w.enter x).number y = w.number y := by
  simp [number, enter, List.lookup_cons, beq_eq_false_iff_ne.mpr h]

theorem low_enter_of_ne {w : Walk} {x y : Nat} (h : y ≠ x) : (w.enter x).low y = w.low y := by
  simp [low, enter, List.lookup_cons, beq_eq_false_iff_ne.mpr h]

theorem unwind_append {node : Nat} {new : List Nat} (hnot : node ∉ new) (component rest onStack : List Nat) :
    ∃ onStack', unwind node component (new ++ node :: rest) onStack
        = (rest, onStack', component ++ (new ++ [node])) ∧
      ∀ x, x ∈ onStack' ↔ x ∈ onStack ∧ x ∉ new ++ [node] := by
  induction new generalizing component onStack with
  | nil =>
    refine ⟨onStack.filter (· != node), ?_, fun x => ?_⟩
    · rw [List.nil_append, unwind, if_pos rfl]
      rfl
    · simp
  | cons a new ih =>
    obtain ⟨hne, hnot⟩ := not_or.mp (List.mem_cons.not.mp hnot)
    obtain ⟨onStack', heq, hmem⟩ := ih hnot (component ++ [a]) (onStack.filter (· != a))
    refine ⟨onStack', ?_, fun x => ?_⟩
    · rw [List.cons_append, unwind, if_neg (Ne.symm hne), heq, List.append_assoc]
      rfl
    · rw [hmem, List.mem_filter, List.cons_append, List.mem_cons, bne_iff_ne]
      tauto

theorem exists_close {w : Walk} {node : Nat} {new rest : List Nat} (hstack : w.stack = new ++ node :: rest)
    (hnot : node ∉ new) :
    ∃ onStack, w.close node =
        { w with
          stack := rest
          onStack := onStack
          components := w.components ++ [Sorted.arrange (fun a b => decide (a ≤ b)) (new ++ [node])] } ∧
      ∀ x, x ∈ onStack ↔ x ∈ w.onStack ∧ x ∉ new ++ [node] := by
  obtain ⟨onStack, hunwind, hmem⟩ := unwind_append hnot [] rest w.onStack
  refine ⟨onStack, ?_, hmem⟩
  rw [close, hstack, hunwind]
  rfl

end Walk

/-- What holds between any two steps of the walk. The path has the nodes whose walk has not ended: every node of the
stack reaches the nodes above it, and a node of the path no higher than itself. -/
structure Good (next : Nat → List Nat) (members : List Nat) (w : Walk) (path : List Nat) : Prop where
  onStack : ∀ x, x ∈ w.onStack ↔ x ∈ w.stack
  linked : ∀ x ∈ w.met, (w.lowlink.lookup x).isSome = true
  met_nodup : w.met.Nodup
  met_mem : ∀ x ∈ w.met, x ∈ members
  number_lt : ∀ x ∈ w.met, w.number x < w.index.length
  stack_met : ∀ x ∈ w.stack, x ∈ w.met
  sorted : w.stack.Pairwise fun a b => w.number b < w.number a
  path_stack : ∀ x ∈ path, x ∈ w.stack
  looked : ∀ x ∈ w.met, x ∉ path → ∀ y ∈ next x, y ∈ w.met
  up : ∀ x ∈ w.stack, ∀ y ∈ w.stack, w.number x ≤ w.number y → Reaches next x y
  down : ∀ x ∈ w.stack, ∃ y ∈ path, w.number y ≤ w.number x ∧ Reaches next x y
  settled : ∀ x, x ∈ w.settled ↔ x ∈ w.met ∧ x ∉ w.stack
  closed : ∀ x ∈ w.settled, ∀ y ∈ next x, y ∈ w.settled
  classes : ∀ c ∈ w.components, IsClass next c
  disjoint : w.components.Pairwise List.Disjoint

/-- What was known stays known, and some nodes are put on the stack. -/
structure Extends (w v : Walk) (new : List Nat) : Prop where
  stack : v.stack = new ++ w.stack
  length : w.index.length ≤ v.index.length
  met : ∀ x ∈ w.met, x ∈ v.met
  number : ∀ x ∈ w.met, v.number x = w.number x
  low : ∀ x ∈ w.met, v.low x = w.low x

theorem Extends.trans {w v u : Walk} {new new' : List Nat} (h : Extends w v new) (h' : Extends v u new') :
    Extends w u (new' ++ new) where
  stack := by rw [h'.stack, h.stack, List.append_assoc]
  length := Nat.le_trans h.length h'.length
  met x hx := h'.met x (h.met x hx)
  number x hx := (h'.number x (h.met x hx)).trans (h.number x hx)
  low x hx := (h'.low x (h.met x hx)).trans (h.low x hx)

/-- The link of a node that was not met before may change. -/
theorem Extends.relink {w v : Walk} {new : List Nat} (h : Extends w v new) {x : Nat} (hx : x ∉ w.met) (n : Nat) :
    Extends w (v.relink x n) new :=
  { h with
    low := fun y hy => by
      have hne : y ≠ x := fun heq => hx (heq ▸ hy)
      rw [Walk.low_relink_of_ne hne, h.low y hy] }

section Good
variable {next : Nat → List Nat} {members path : List Nat} {w v : Walk} {x : Nat}

theorem Good.initial : Good next members {} [] := by
  constructor <;> simp [Walk.met, Walk.settled]

theorem Good.relink (h : Good next members w path) (x n : Nat) : Good next members (w.relink x n) path :=
  { h with
    linked := fun y hy => by
      by_cases hxy : y = x
      · simp [Walk.relink, hxy]
      · simpa [Walk.relink, List.lookup_cons, beq_eq_false_iff_ne.mpr hxy] using h.linked y hy }

theorem Good.length_lt (h : Good next members w path) (hx : x ∈ members) (hnot : x ∉ w.met) :
    w.index.length < members.length := by
  have hsub : x :: w.met ⊆ members := List.cons_subset.mpr ⟨hx, fun y hy => h.met_mem y hy⟩
  have hle := ((List.nodup_cons.mpr ⟨hnot, h.met_nodup⟩).subperm hsub).length_le
  rwa [List.length_cons, Walk.met, List.length_map] at hle

theorem Good.enter (h : Good next members w path) (hx : x ∈ members) (hnot : x ∉ w.met)
    (hpath : ∀ g ∈ path, Reaches next g x) : Good next members (w.enter x) (x :: path) := by
  have hne : ∀ y ∈ w.met, y ≠ x := fun y hy heq => hnot (heq ▸ hy)
  have hnumber : ∀ y ∈ w.met, (w.enter x).number y = w.number y := fun y hy => Walk.number_enter_of_ne (hne y hy)
  have hself := Walk.number_enter_self w x
  refine ⟨fun y => ?_, fun y hy => ?_, List.nodup_cons.mpr ⟨hnot, h.met_nodup⟩, List.forall_mem_cons.mpr ⟨hx, h.met_mem⟩,
    List.forall_mem_cons.mpr ⟨?_, fun y hy => ?_⟩, List.forall_mem_cons.mpr ⟨List.mem_cons_self, fun y hy => ?_⟩,
    List.pairwise_cons.mpr ⟨fun y hy => ?_, ?_⟩, List.forall_mem_cons.mpr ⟨List.mem_cons_self, fun y hy => ?_⟩,
    List.forall_mem_cons.mpr ⟨fun hno => absurd List.mem_cons_self hno, fun y hy hypath z hz => ?_⟩,
    fun y hy z hz hle => ?_, fun y hy => ?_, fun y => ?_, h.closed, h.classes, h.disjoint⟩
  · show y ∈ x :: w.onStack ↔ y ∈ x :: w.stack
    rw [List.mem_cons, List.mem_cons, h.onStack]
  · by_cases hxy : y = x
    · simp [Walk.enter, hxy]
    · have hy := (List.mem_cons.mp hy).resolve_left hxy
      simpa [Walk.enter, List.lookup_cons, beq_eq_false_iff_ne.mpr hxy] using h.linked y hy
  · rw [hself]
    exact Nat.lt_succ_self _
  · rw [hnumber y hy]
    exact Nat.lt_succ_of_lt (h.number_lt y hy)
  · exact List.mem_cons_of_mem _ (h.stack_met y hy)
  · rw [hself, hnumber y (h.stack_met y hy)]
    exact h.number_lt y (h.stack_met y hy)
  · refine h.sorted.imp_of_mem fun ha hb hab => ?_
    rwa [hnumber _ (h.stack_met _ ha), hnumber _ (h.stack_met _ hb)]
  · exact List.mem_cons_of_mem _ (h.path_stack y hy)
  · exact List.mem_cons_of_mem _ (h.looked y hy (fun hno => hypath (List.mem_cons_of_mem _ hno)) z hz)
  · rcases List.mem_cons.mp hz with rfl | hz
    · rcases List.mem_cons.mp hy with rfl | hy
      · exact .refl
      · -- A node of the stack reaches the path, and the path reaches the node that is entered.
        obtain ⟨g, hg, -, hyg⟩ := h.down y hy
        exact hyg.trans (hpath g hg)
    · have hzlt := h.number_lt z (h.stack_met z hz)
      rw [hnumber z (h.stack_met z hz)] at hle
      rcases List.mem_cons.mp hy with rfl | hy
      · rw [hself] at hle
        omega
      · rw [hnumber y (h.stack_met y hy)] at hle
        exact h.up y hy z hz hle
  · rcases List.mem_cons.mp hy with rfl | hy
    · exact ⟨y, List.mem_cons_self, Nat.le_refl _, .refl⟩
    · obtain ⟨g, hg, hle, hyg⟩ := h.down y hy
      refine ⟨g, List.mem_cons_of_mem _ hg, ?_, hyg⟩
      rwa [hnumber g (h.stack_met g (h.path_stack g hg)), hnumber y (h.stack_met y hy)]
  · show y ∈ w.settled ↔ y ∈ x :: w.met ∧ y ∉ x :: w.stack
    rw [h.settled, List.mem_cons, List.mem_cons]
    constructor
    · rintro ⟨hy, hystack⟩
      exact ⟨.inr hy, not_or.mpr ⟨hne y hy, hystack⟩⟩
    · rintro ⟨hy, hystack⟩
      obtain ⟨hyx, hystack⟩ := not_or.mp hystack
      exact ⟨hy.resolve_left hyx, hystack⟩

theorem Extends.enter (hnot : x ∉ w.met) : Extends w (w.enter x) [x] where
  stack := rfl
  length := Nat.le_succ _
  met _ hy := List.mem_cons_of_mem _ hy
  number _ hy := Walk.number_enter_of_ne fun heq => hnot (heq ▸ hy)
  low _ hy := Walk.low_enter_of_ne fun heq => hnot (heq ▸ hy)

end Good

/-! ## The walk from a node -/

/-- What the walk from a node that was not met has done. The link of the node tells how low it reaches, unless the node
has got into a component. -/
structure Visited (next : Nat → List Nat) (members : List Nat) (w : Walk) (path : List Nat) (x : Nat) (v : Walk)
    (new : List Nat) : Prop where
  good : Good next members v path
  grown : Extends w v new
  met : x ∈ v.met
  number : v.number x = w.index.length
  low : v.low x = v.number x ∨ ∃ y ∈ v.stack, v.number y = v.low x ∧ Reaches next x y
  cross : ∀ a ∈ new, ∀ b ∈ next a, b ∈ w.stack → v.low x ≤ v.number b

/-- What the walk from a node has done when it has looked at some of the nodes that it leads to. -/
structure Round (next : Nat → List Nat) (members : List Nat) (w : Walk) (path : List Nat) (x : Nat) (done : List Nat)
    (v : Walk) (new : List Nat) : Prop where
  good : Good next members v (x :: path)
  grown : Extends w v (new ++ [x])
  number : v.number x = w.index.length
  low_le : v.low x ≤ v.number x
  low : ∃ y ∈ v.stack, v.number y = v.low x ∧ Reaches next x y
  met : ∀ y ∈ done, y ∈ members → y ∈ v.met
  cross : ∀ a ∈ new, ∀ b ∈ next a, b ∈ w.stack → v.low x ≤ v.number b
  crossed : ∀ b ∈ done, b ∈ w.stack → v.low x ≤ v.number b

section Round
variable {next : Nat → List Nat} {members path done new : List Nat} {w v : Walk} {x b : Nat}

theorem Round.initial (h : Good next members w path) (hx : x ∈ members) (hnot : x ∉ w.met)
    (hpath : ∀ g ∈ path, Reaches next g x) : Round next members w path x [] (w.enter x) [] where
  good := h.enter hx hnot hpath
  grown := .enter hnot
  number := Walk.number_enter_self w x
  low_le := by rw [Walk.low_enter_self, Walk.number_enter_self]
  low := ⟨x, List.mem_cons_self, by rw [Walk.low_enter_self, Walk.number_enter_self], .refl⟩
  met := by simp
  cross := by simp
  crossed := by simp

theorem Round.mem_stack (h : Round next members w path x done v new) : x ∈ v.stack :=
  h.good.path_stack x List.mem_cons_self

theorem Round.mem_met (h : Round next members w path x done v new) : x ∈ v.met := h.good.stack_met x h.mem_stack

theorem Round.stack_subset (h : Round next members w path x done v new) : ∀ y ∈ w.stack, y ∈ v.stack := by
  intro y hy
  rw [h.grown.stack]
  exact List.mem_append_right _ hy

/-- The link is lowered to a number that the node reaches down to, or not at all. -/
theorem Round.lower {n : Nat} (h : Round next members w path x done v new) (hnot : x ∉ w.met)
    (hn : v.low x ≤ n ∨ ∃ y ∈ v.stack, v.number y = n ∧ Reaches next x y) :
    Round next members w path x done (v.relink x (min (v.low x) n)) new where
  good := h.good.relink x _
  grown := h.grown.relink hnot _
  number := h.number
  low_le := by
    rw [Walk.low_relink_self]
    exact Nat.le_trans (Nat.min_le_left _ _) h.low_le
  low := by
    rw [Walk.low_relink_self]
    by_cases hle : v.low x ≤ n
    · rw [Nat.min_eq_left hle]
      exact h.low
    · rw [Nat.min_eq_right (by omega)]
      exact hn.resolve_left hle
  met := h.met
  cross a ha b hb hbw := by
    rw [Walk.low_relink_self]
    exact Nat.le_trans (Nat.min_le_left _ _) (h.cross a ha b hb hbw)
  crossed b hb hbw := by
    rw [Walk.low_relink_self]
    exact Nat.le_trans (Nat.min_le_left _ _) (h.crossed b hb hbw)

/-- One more node has been looked at. -/
theorem Round.snoc (h : Round next members w path x done v new) (hmet : b ∈ members → b ∈ v.met)
    (hcross : b ∈ w.stack → v.low x ≤ v.number b) : Round next members w path x (done ++ [b]) v new :=
  { h with
    met := List.forall_mem_append.mpr ⟨h.met, List.forall_mem_singleton.mpr hmet⟩
    crossed := List.forall_mem_append.mpr ⟨h.crossed, List.forall_mem_singleton.mpr hcross⟩ }

/-- The walk from one of the nodes that the node leads to, before its link is taken over. -/
theorem Round.visited {u : Walk} {new' : List Nat} (h : Round next members w path x done v new) (hnot : x ∉ w.met)
    (hu : Visited next members v (x :: path) b u new') (hstep : b ∈ next x) :
    Round next members w path x done (u.relink x (min (u.low x) (u.low b))) (new' ++ new) := by
  have hnumber : u.number x = v.number x := hu.grown.number x h.mem_met
  have hlow : u.low x = v.low x := hu.grown.low x h.mem_met
  have hold : ∀ y ∈ w.stack, u.number y = v.number y :=
    fun y hy => hu.grown.number y (h.good.stack_met y (h.stack_subset y hy))
  have hstack : ∀ y ∈ v.stack, y ∈ u.stack := by
    intro y hy
    rw [hu.grown.stack]
    exact List.mem_append_right _ hy
  have hgrown : Extends w u (new' ++ new ++ [x]) := by
    rw [List.append_assoc]
    exact h.grown.trans hu.grown
  refine ⟨hu.good.relink x _, hgrown.relink hnot _, hnumber.trans h.number, ?_, ?_, fun y hy hym => ?_,
    fun a ha c hc hcw => ?_, fun c hc hcw => ?_⟩
  · rw [Walk.low_relink_self, hlow]
    show _ ≤ u.number x
    rw [hnumber]
    exact Nat.le_trans (Nat.min_le_left _ _) h.low_le
  · rw [Walk.low_relink_self, hlow]
    obtain ⟨y, hy, hyn, hxy⟩ := h.low
    by_cases hle : v.low x ≤ u.low b
    · rw [Nat.min_eq_left hle]
      exact ⟨y, hstack y hy, (hu.grown.number y (h.good.stack_met y hy)).trans hyn, hxy⟩
    · rw [Nat.min_eq_right (by omega)]
      rcases hu.low with hself | ⟨z, hz, hzn, hbz⟩
      · -- A node that has got into a component has a higher number than any node before it.
        have hlt := h.good.number_lt x h.mem_met
        have := h.low_le
        rw [hself, hu.number] at hle
        omega
      · exact ⟨z, hz, hzn, .head hstep hbz⟩
  · exact hu.grown.met y (h.met y hy hym)
  · rw [Walk.low_relink_self, hlow]
    show _ ≤ u.number c
    rcases List.mem_append.mp ha with ha | ha
    · exact Nat.le_trans (Nat.min_le_right _ _) (hu.cross a ha c hc (h.stack_subset c hcw))
    · rw [hold c hcw]
      exact Nat.le_trans (Nat.min_le_left _ _) (h.cross a ha c hc hcw)
  · rw [Walk.low_relink_self, hlow]
    show _ ≤ u.number c
    rw [hold c hcw]
    exact Nat.le_trans (Nat.min_le_left _ _) (h.crossed c hc hcw)

/-- The walk from a node that was not met does what it should, when it may go so many nodes deep. -/
def Visits (next : Nat → List Nat) (members : List Nat) (n : Nat) (visit : Nat → Walk → Option Walk) : Prop :=
  ∀ x w path, Good next members w path → x ∈ members → x ∉ w.met → (∀ g ∈ path, Reaches next g x) →
    members.length ≤ n + w.index.length → ∃ v new, visit x w = some v ∧ Visited next members w path x v new

theorem Round.look {n : Nat} {visit : Nat → Walk → Option Walk} (hvisit : Visits next members n visit)
    (h : Round next members w path x done v new) (hnot : x ∉ w.met) (hpath : ∀ g ∈ path, Reaches next g x)
    (hstep : b ∈ members → b ∈ next x) (hn : members.length ≤ n + v.index.length) :
    ∃ u new', Walk.look members visit x v b = some u ∧ v.index.length ≤ u.index.length ∧
      Round next members w path x (done ++ [b]) u new' := by
  by_cases hb : b ∈ members
  · rw [Walk.look, if_neg (by simpa using hb)]
    by_cases hmet : b ∈ v.met
    · rw [if_neg (by rw [Walk.lookup_index_isNone]; exact not_not.mpr hmet)]
      by_cases hstack : b ∈ v.stack
      · rw [if_pos (by rwa [List.contains_iff_mem, h.good.onStack]), Walk.lookup_index hmet, Option.bind_eq_bind,
          Option.bind_some, Walk.lower_eq (h.good.linked x h.mem_met)]
        have hround := h.lower hnot (.inr ⟨b, hstack, rfl, .single (hstep hb)⟩)
        refine ⟨_, new, rfl, Nat.le_refl _, hround.snoc (fun _ => hmet) fun _ => ?_⟩
        rw [Walk.low_relink_self]
        exact Nat.min_le_right _ _
      · rw [if_neg (by rwa [List.contains_iff_mem, h.good.onStack])]
        exact ⟨v, new, rfl, Nat.le_refl _, h.snoc (fun _ => hmet) fun hbw => absurd (h.stack_subset b hbw) hstack⟩
    · rw [if_pos (Walk.lookup_index_isNone.mpr hmet)]
      have hreach : ∀ g ∈ x :: path, Reaches next g b := by
        refine List.forall_mem_cons.mpr ⟨.single (hstep hb), fun g hg => ?_⟩
        exact (hpath g hg).tail (hstep hb)
      obtain ⟨u, new', hu, hvisited⟩ := hvisit b v (x :: path) h.good hb hmet hreach hn
      have hlinked := hvisited.good.linked
      rw [hu, Option.bind_eq_bind, Option.bind_some, Walk.lookup_lowlink (hlinked b hvisited.met), Option.bind_eq_bind,
        Option.bind_some, Walk.lower_eq (hlinked x (hvisited.grown.met x h.mem_met))]
      refine ⟨_, _, rfl, hvisited.grown.length, (h.visited hnot hvisited (hstep hb)).snoc (fun _ => hvisited.met) ?_⟩
      exact fun hbw => absurd (h.good.stack_met b (h.stack_subset b hbw)) hmet
  · rw [Walk.look, if_pos (by simpa using hb)]
    refine ⟨v, new, rfl, Nat.le_refl _, h.snoc (fun hb' => absurd hb' hb) fun hbw => ?_⟩
    exact absurd (h.good.met_mem b (h.good.stack_met b (h.stack_subset b hbw))) hb

theorem Round.foldlM {n : Nat} {visit : Nat → Walk → Option Walk} (hvisit : Visits next members n visit)
    (hnot : x ∉ w.met) (hpath : ∀ g ∈ path, Reaches next g x) {rest : List Nat}
    (hstep : ∀ b ∈ rest, b ∈ members → b ∈ next x) (h : Round next members w path x done v new)
    (hn : members.length ≤ n + v.index.length) :
    ∃ u new', rest.foldlM (Walk.look members visit x) v = some u ∧
      Round next members w path x (done ++ rest) u new' := by
  induction rest generalizing done v new with
  | nil => exact ⟨v, new, rfl, by rwa [List.append_nil]⟩
  | cons b rest ih =>
    obtain ⟨hb, hrest⟩ := List.forall_mem_cons.mp hstep
    obtain ⟨u, new', hu, hlen, hround⟩ := h.look hvisit hnot hpath hb hn
    rw [List.foldlM_cons, hu, Option.bind_eq_bind, Option.bind_some]
    rw [List.append_cons]
    exact ih hrest hround (by omega)

/-! ## The end of the walk from a node -/

section Ended
variable (hw : Good next members w path) (h : Round next members w path x done v new)
include h

theorem Round.number_lt : ∀ y ∈ w.stack, v.number y < v.number x := by
  have hsorted := h.good.sorted
  rw [h.grown.stack, List.append_assoc, List.pairwise_append] at hsorted
  exact (List.pairwise_cons.mp hsorted.2.1).1

theorem Round.lt_number : ∀ y ∈ new, v.number x < v.number y := by
  intro y hy
  have hsorted := h.good.sorted
  rw [h.grown.stack, List.append_assoc, List.pairwise_append] at hsorted
  exact hsorted.2.2 y hy x List.mem_cons_self

theorem Round.le_number : ∀ y ∈ new ++ [x], v.number x ≤ v.number y := by
  rw [List.forall_mem_append, List.forall_mem_singleton]
  exact ⟨fun y hy => Nat.le_of_lt (h.lt_number y hy), Nat.le_refl _⟩

theorem Round.mem_stack_iff {y : Nat} : y ∈ v.stack ↔ y ∈ new ++ [x] ∨ y ∈ w.stack := by
  rw [h.grown.stack, List.mem_append]

theorem Round.not_mem_of_mem_stack {y : Nat} (hy : y ∈ w.stack) : y ∉ new ++ [x] := by
  intro hmem
  have hlt := h.number_lt y hy
  have hle := h.le_number y hmem
  omega

include hw

theorem Round.path_lt : ∀ y ∈ path, v.number y < v.number x := fun y hy => h.number_lt y (hw.path_stack y hy)

theorem Round.not_mem_path {y : Nat} (hy : y ∈ new) : y ∉ x :: path := by
  have hlt := h.lt_number y hy
  rw [List.mem_cons, not_or]
  refine ⟨fun heq => ?_, fun hp => ?_⟩
  · rw [heq] at hlt
    exact Nat.lt_irrefl _ hlt
  · have := h.path_lt hw y hp
    omega

variable (hnext : ∀ a, ∀ b ∈ next a, b ∈ members) (hdone : ∀ b ∈ next x, b ∈ done)
include hnext hdone

/-- All that the node and those above it lead to has been met. -/
theorem Round.next_met : ∀ y ∈ new ++ [x], ∀ z ∈ next y, z ∈ v.met := by
  rw [List.forall_mem_append, List.forall_mem_singleton]
  refine ⟨fun y hy z hz => ?_, fun z hz => h.met z (hdone z hz) (hnext x z hz)⟩
  have hstack : y ∈ v.stack := h.mem_stack_iff.mpr (.inl (List.mem_append_left _ hy))
  exact h.good.looked y (h.good.stack_met y hstack) (h.not_mem_path hw hy) z hz

theorem Round.looked : ∀ y ∈ v.met, y ∉ path → ∀ z ∈ next y, z ∈ v.met := by
  intro y hy hyp z hz
  by_cases hyx : y = x
  · exact h.next_met hw hnext hdone y (by simp [hyx]) z hz
  · exact h.good.looked y hy (by simp [hyx, hyp]) z hz

/-- When the node does not reach below itself, only nodes above it and nodes in components are reached. -/
theorem Round.mem_of_reaches (hlow : v.low x = v.number x) {a b : Nat} (ha : a ∈ new ++ [x] ∨ a ∈ v.settled)
    (hab : Reaches next a b) : b ∈ new ++ [x] ∨ b ∈ v.settled := by
  refine hab.mem_of_closed (s := fun y => y ∈ new ++ [x] ∨ y ∈ v.settled) (fun y hy z hz => ?_) ha
  rcases hy with hy | hy
  · by_cases hstack : z ∈ v.stack
    · refine .inl ((h.mem_stack_iff.mp hstack).resolve_right fun hzw => ?_)
      have hlt := h.number_lt z hzw
      have hle : v.low x ≤ v.number z := by
        rcases List.mem_append.mp hy with hy | hy
        · exact h.cross y hy z hz hzw
        · obtain rfl := List.mem_singleton.mp hy
          exact h.crossed z (hdone z hz) hzw
      omega
    · exact .inr ((h.good.settled z).mpr ⟨h.next_met hw hnext hdone y hy z hz, hstack⟩)
  · exact .inr (h.good.closed y hy z hz)

theorem Round.reaches_self (hlow : v.low x = v.number x) :
    ∀ y ∈ new ++ [x], Reaches next x y ∧ Reaches next y x := by
  intro y hy
  have hstack : y ∈ v.stack := h.mem_stack_iff.mpr (.inl hy)
  refine ⟨h.good.up x h.mem_stack y hstack (h.le_number y hy), ?_⟩
  obtain ⟨g, hg, -, hyg⟩ := h.good.down y hstack
  rcases List.mem_cons.mp hg with rfl | hg
  · exact hyg
  · -- A node of the path below is not reached from here.
    have hlt := h.path_lt hw g hg
    rcases h.mem_of_reaches hw hnext hdone hlow (.inl hy) hyg with hmem | hmem
    · have := h.le_number g hmem
      omega
    · exact absurd (h.stack_subset g (hw.path_stack g hg)) ((h.good.settled g).mp hmem).2

theorem Round.isClass (hlow : v.low x = v.number x) :
    IsClass next (Sorted.arrange (fun a b => decide (a ≤ b)) (new ++ [x])) := by
  have hself := h.reaches_self hw hnext hdone hlow
  refine ⟨List.ne_nil_of_mem (mem_arrange.mpr (by simp : x ∈ new ++ [x])), ?_, fun i hi j => ?_⟩
  · have hnodup : (new ++ [x]).Nodup := by
      have hsorted := h.good.sorted
      rw [h.grown.stack] at hsorted
      exact (List.pairwise_append.mp hsorted).1.imp fun hlt heq => by rw [heq] at hlt; exact Nat.lt_irrefl _ hlt
    rw [Sorted.arrange_eq_insertionSort (· ≤ ·)]
    have hle := List.pairwise_insertionSort (· ≤ ·) (new ++ [x])
    have hne := (List.perm_insertionSort (· ≤ ·) (new ++ [x])).nodup_iff.mpr hnodup
    exact hle.imp₂ (fun _ _ hle hne => Nat.lt_of_le_of_ne hle hne) hne
  · rw [mem_arrange] at hi ⊢
    constructor
    · intro hj
      exact ⟨(hself i hi).2.trans (hself j hj).1, (hself j hj).2.trans (hself i hi).1⟩
    · rintro ⟨hij, hji⟩
      refine (h.mem_of_reaches hw hnext hdone hlow (.inl hi) hij).resolve_right fun hj => ?_
      have hi' : i ∈ v.settled := hji.mem_of_closed h.good.closed hj
      exact ((h.good.settled i).mp hi').2 (h.mem_stack_iff.mpr (.inl hi))

/-- What holds once the nodes above, with the node itself, are a component. -/
theorem Round.good_close (hlow : v.low x = v.number x) {onStack : List Nat}
    (hon : ∀ y, y ∈ onStack ↔ y ∈ v.onStack ∧ y ∉ new ++ [x]) :
    Good next members
      { v with
        stack := w.stack
        onStack := onStack
        components := v.components ++ [Sorted.arrange (fun a b => decide (a ≤ b)) (new ++ [x])] } path := by
  have hsettled : ∀ y, y ∈ (v.components ++ [Sorted.arrange (fun a b => decide (a ≤ b)) (new ++ [x])]).flatten ↔
      y ∈ v.settled ∨ y ∈ new ++ [x] := by
    intro y
    rw [List.flatten_append, List.flatten_singleton, List.mem_append, mem_arrange]
    rfl
  have hlooked := h.looked hw hnext hdone
  exact
    { h.good with
      onStack := fun y => by
        rw [hon, h.good.onStack, h.mem_stack_iff]
        exact ⟨fun hy => hy.1.resolve_left hy.2, fun hy => ⟨.inr hy, h.not_mem_of_mem_stack hy⟩⟩
      stack_met := fun y hy => h.good.stack_met y (h.stack_subset y hy)
      sorted := by
        have hsorted := h.good.sorted
        rw [h.grown.stack] at hsorted
        exact (List.pairwise_append.mp hsorted).2.1
      path_stack := hw.path_stack
      looked := hlooked
      up := fun y hy z hz => h.good.up y (h.stack_subset y hy) z (h.stack_subset z hz)
      down := fun y hy => by
        obtain ⟨g, hg, hle, hyg⟩ := h.good.down y (h.stack_subset y hy)
        refine ⟨g, (List.mem_cons.mp hg).resolve_left fun heq => ?_, hle, hyg⟩
        have hlt := h.number_lt y hy
        rw [heq] at hle
        omega
      settled := fun y => by
        refine (hsettled y).trans ?_
        rw [h.good.settled, h.mem_stack_iff]
        constructor
        · rintro (⟨hy, hys⟩ | hy)
          · exact ⟨hy, fun hyw => hys (.inr hyw)⟩
          · exact ⟨h.good.stack_met y (h.mem_stack_iff.mpr (.inl hy)), fun hyw => h.not_mem_of_mem_stack hyw hy⟩
        · rintro ⟨hy, hyw⟩
          by_cases hyn : y ∈ new ++ [x]
          · exact .inr hyn
          · exact .inl ⟨hy, not_or.mpr ⟨hyn, hyw⟩⟩
      closed := fun y hy z hz =>
        (hsettled z).mpr (h.mem_of_reaches hw hnext hdone hlow ((hsettled y).mp hy).symm (.single hz)).symm
      classes := List.forall_mem_append.mpr
        ⟨h.good.classes, List.forall_mem_singleton.mpr (h.isClass hw hnext hdone hlow)⟩
      disjoint := by
        refine List.pairwise_append.mpr ⟨h.good.disjoint, List.pairwise_singleton _ _, fun c hc c' hc' y hy hy' => ?_⟩
        rw [List.mem_singleton.mp hc', mem_arrange] at hy'
        have hys := (h.good.settled y).mp (List.mem_flatten.mpr ⟨c, hc, hy⟩)
        exact hys.2 (h.mem_stack_iff.mpr (.inl hy')) }

/-- The node is the lowest of its component: the component is complete. -/
theorem Round.close (hlow : v.low x = v.number x) : Visited next members w path x (v.close x) [] := by
  have hstack : v.stack = new ++ x :: w.stack := by rw [h.grown.stack, List.append_assoc, List.singleton_append]
  have hnot : x ∉ new := fun hmem => Nat.lt_irrefl _ (h.lt_number x hmem)
  obtain ⟨onStack, hclose, hon⟩ := Walk.exists_close hstack hnot
  rw [hclose]
  exact
    { good := h.good_close hw hnext hdone hlow hon
      grown := { h.grown with stack := rfl }
      met := h.mem_met
      number := h.number
      low := .inl hlow
      cross := by simp }

/-- The node reaches below itself: it stays on the stack. -/
theorem Round.leave (hlow : v.low x ≠ v.number x) : Visited next members w path x v (new ++ [x]) where
  good :=
    { h.good with
      path_stack := fun y hy => h.good.path_stack y (List.mem_cons_of_mem _ hy)
      looked := h.looked hw hnext hdone
      down := fun y hy => by
        obtain ⟨g, hg, hle, hyg⟩ := h.good.down y hy
        rcases List.mem_cons.mp hg with rfl | hg
        · -- The node that it reaches below reaches a lower node of the path in turn.
          obtain ⟨z, hz, hzn, hgz⟩ := h.low
          obtain ⟨g', hg', hle', hzg'⟩ := h.good.down z hz
          have := h.low_le
          refine ⟨g', (List.mem_cons.mp hg').resolve_left fun heq => ?_, by omega, hyg.trans (hgz.trans hzg')⟩
          rw [heq] at hle'
          omega
        · exact ⟨g, hg, hle, hyg⟩ }
  grown := h.grown
  met := h.mem_met
  number := h.number
  low := .inr h.low
  cross := by
    rw [List.forall_mem_append, List.forall_mem_singleton]
    exact ⟨h.cross, fun b hb hbw => h.crossed b (hdone b hb) hbw⟩

end Ended

end Round

section Visit
variable {needs : Needs} {members : List Nat} {next : Nat → List Nat}
  (hmembers : ∀ i ∈ members, i < needs.length) (hnext : ∀ a, ((needs[a]?).getD []).filter members.contains = next a)
include hmembers hnext

theorem visits_visit (n : Nat) : Visits next members n (visit needs members n) := by
  have hmem : ∀ a, ∀ b ∈ next a, b ∈ members := by
    intro a b hb
    rw [← hnext, List.mem_filter, List.contains_iff_mem] at hb
    exact hb.2
  induction n with
  | zero =>
    intro x w path h hx hnot hpath hn
    have := h.length_lt hx hnot
    omega
  | succ n ih =>
    intro x w path h hx hnot hpath hn
    obtain ⟨own, hown⟩ : ∃ own, needs[x]? = some own := ⟨_, List.getElem?_eq_getElem (hmembers x hx)⟩
    have hnexts : ∀ b, b ∈ next x ↔ b ∈ own ∧ b ∈ members := by
      intro b
      rw [← hnext, hown, List.mem_filter, List.contains_iff_mem]
      rfl
    have hstep : ∀ b ∈ own, b ∈ members → b ∈ next x := fun b hb hbm => (hnexts b).mpr ⟨hb, hbm⟩
    obtain ⟨v, new, hfold, hround⟩ := (Round.initial h hx hnot hpath).foldlM ih hnot hpath hstep
      (show members.length ≤ n + (w.index.length + 1) by omega)
    have hdone : ∀ b ∈ next x, b ∈ [] ++ own := fun b hb => ((hnexts b).mp hb).1
    rw [visit, hown]
    simp only [Option.bind_eq_bind, Option.bind_some]
    rw [hfold, Option.bind_some, Walk.lookup_lowlink (hround.good.linked x hround.mem_met), Option.bind_some,
      Walk.lookup_index hround.mem_met, Option.bind_some]
    by_cases hlow : v.low x = v.number x
    · rw [if_pos hlow]
      exact ⟨_, _, rfl, hround.close h hmem hdone hlow⟩
    · rw [if_neg hlow]
      exact ⟨_, _, rfl, hround.leave h hmem hdone hlow⟩

/-- The walk from each node that was not met. Between these walks the stack is empty. -/
theorem Good.foldlM_visit {w : Walk} (h : Good next members w []) {nodes : List Nat}
    (hnodes : ∀ i ∈ nodes, i ∈ members) :
    ∃ v, nodes.foldlM (fun w node => if (w.index.lookup node).isNone then visit needs members members.length node w
        else some w) w = some v ∧ Good next members v [] ∧ (∀ i ∈ w.met, i ∈ v.met) ∧ ∀ i ∈ nodes, i ∈ v.met := by
  induction nodes generalizing w with
  | nil => exact ⟨w, rfl, h, fun _ hi => hi, by simp⟩
  | cons x nodes ih =>
    obtain ⟨hx, hnodes⟩ := List.forall_mem_cons.mp hnodes
    rw [List.foldlM_cons]
    by_cases hmet : x ∈ w.met
    · rw [if_neg (by rw [Walk.lookup_index_isNone]; exact not_not.mpr hmet), Option.bind_eq_bind, Option.bind_some]
      obtain ⟨v, hv, hgood, hkeep, hall⟩ := ih h hnodes
      exact ⟨v, hv, hgood, hkeep, List.forall_mem_cons.mpr ⟨hkeep x hmet, hall⟩⟩
    · obtain ⟨u, new, hu, hvisited⟩ := visits_visit hmembers hnext members.length x w [] h hx hmet (by simp) (by omega)
      rw [if_pos (Walk.lookup_index_isNone.mpr hmet), hu, Option.bind_eq_bind, Option.bind_some]
      obtain ⟨v, hv, hgood, hkeep, hall⟩ := ih hvisited.good hnodes
      exact ⟨v, hv, hgood, fun i hi => hkeep i (hvisited.grown.met i hi),
        List.forall_mem_cons.mpr ⟨hkeep x hvisited.met, hall⟩⟩

/-- The components of some nodes are found: all nodes are in one, and they are listed by their lowest nodes. -/
theorem components_exact :
    ∃ cs, components? needs members = some cs ∧ (∀ c ∈ cs, IsClass next c ∧ ∀ i ∈ c, i ∈ members) ∧
      (∀ i ∈ members, ∃ c ∈ cs, i ∈ c) ∧
      cs.Pairwise fun c c' => ∃ i j, c.head? = some i ∧ c'.head? = some j ∧ i < j := by
  obtain ⟨v, hv, hgood, -, hall⟩ :=
    (Good.initial : Good next members {} []).foldlM_visit hmembers hnext fun i hi => hi
  have hstack : v.stack = [] := by
    refine List.eq_nil_iff_forall_not_mem.mpr fun y hy => ?_
    obtain ⟨g, hg, -⟩ := hgood.down y hy
    cases hg
  refine ⟨Sorted.arrange Sorted.lexLe v.components, ?_, ?_, ?_, ?_⟩
  · rw [components?, hv]
    rfl
  all_goals rw [Sorted.arrange_lexLe]
  · intro c hc
    rw [List.mem_insertionSort] at hc
    refine ⟨hgood.classes c hc, fun i hi => ?_⟩
    exact hgood.met_mem i ((hgood.settled i).mp (List.mem_flatten.mpr ⟨c, hc, hi⟩)).1
  · intro i hi
    obtain ⟨c, hc, hic⟩ := List.mem_flatten.mp ((hgood.settled i).mpr ⟨hall i hi, by simp [hstack]⟩)
    exact ⟨c, (List.mem_insertionSort _).mpr hc, hic⟩
  · have hle := List.pairwise_insertionSort (Sorted.lexLe · · = true) v.components
    have hdisjoint : (v.components.insertionSort (Sorted.lexLe · · = true)).Pairwise List.Disjoint :=
      ((List.perm_insertionSort _ v.components).pairwise_iff List.disjoint_comm.mp).mpr hgood.disjoint
    refine (hle.and hdisjoint).imp_of_mem fun {c c'} hc hc' hcc' => ?_
    rw [List.mem_insertionSort] at hc hc'
    obtain ⟨i, l, rfl⟩ := List.exists_cons_of_ne_nil (hgood.classes c hc).ne_nil
    obtain ⟨j, l', rfl⟩ := List.exists_cons_of_ne_nil (hgood.classes c' hc').ne_nil
    refine ⟨i, j, rfl, rfl, ?_⟩
    have hne : i ≠ j := fun heq => hcc'.2 List.mem_cons_self (heq ▸ List.mem_cons_self)
    exact Nat.lt_of_le_of_ne (Sorted.le_of_lexLe hcc'.1) hne

end Visit

end Tributary.Cycle
