import Mathlib.Data.List.Chain
import Tributary.Graph.Cycle
import Tributary.Proofs.Graph.Reach

/-!
# The search for a way back

The search takes nodes off a queue one by one and notes for each node where it was come upon. It is followed here
generation by generation: while the nodes of one generation are taken off, those of the next are put behind them.

* `Way next start v before` : the nodes of a way from the start to `v`, the latest first;
* `Closed next l` : each node of `l` leads to the next, and the last to the first;
* `Closed.steps` : a closed way leads back to each of its nodes;
* `Frontier` : the ways to the nodes of the latest generation, when none leads back so far; `Frontier.step` : the next;
* `Traced previous start v before` : going back from `v` by what was noted; `Traced.trail` : the trail is this way;
* `scan_of_mem`, `scan_of_notMem` : what looking at the nodes that a node leads to does;
* `Sweep` : what the search keeps while it takes off a generation; `Sweep.turn`, `Sweep.look` : that it does;
* `isFound_search` : what is found is a shortest way back, and nothing is found only if there is none.
-/

namespace Tributary.Cycle

inductive Way (next : Nat → List Nat) (start : Nat) : Nat → List Nat → Prop where
  | start : Way next start start []
  | step {v before w} (h : Way next start v before) (hw : w ∈ next v) : Way next start w (v :: before)

/-- Each node leads to the next, and the last one to the first. -/
def Closed (next : Nat → List Nat) : List Nat → Prop
  | [] => False
  | a :: l => List.IsChain (fun x y => y ∈ next x) (a :: (l ++ [a]))

section Walks
variable {next : Nat → List Nat} {start v : Nat} {before : List Nat}

/-- A way in the order of its steps. -/
theorem Way.chain (h : Way next start v before) :
    ∃ l, (v :: before).reverse = start :: l ∧
      ∀ w ∈ next v, List.IsChain (fun x y => y ∈ next x) (start :: (l ++ [w])) := by
  induction h with
  | start => exact ⟨[], rfl, fun w hw => by simpa using hw⟩
  | @step v before w h hw ih =>
    obtain ⟨l, hl, hchain⟩ := ih
    refine ⟨l ++ [w], by rw [List.reverse_cons, hl]; rfl, fun u hu => ?_⟩
    rw [List.append_assoc]
    exact List.isChain_cons_append_cons_cons.mpr ⟨hchain w hw, hu, .singleton u⟩

theorem Way.closed (h : Way next start v before) (hv : start ∈ next v) : Closed next (v :: before).reverse := by
  obtain ⟨l, hl, hchain⟩ := h.chain
  rw [hl]
  exact hchain start hv

theorem steps_of_chain {a b : Nat} {l : List Nat} (h : List.IsChain (fun x y => y ∈ next x) (a :: (l ++ [b]))) :
    Steps next a (l.length + 1) b := by
  induction l generalizing a with
  | nil => exact .of_mem (by simpa using h)
  | cons c l ih =>
    rw [List.cons_append, List.isChain_cons_cons] at h
    have := (Steps.of_mem h.1).trans (ih h.2)
    rwa [Nat.add_comm] at this

/-- From each of its nodes a closed way leads around and back. -/
theorem Closed.steps {l : List Nat} (h : Closed next l) {x : Nat} (hx : x ∈ l) : Steps next x l.length x := by
  cases l with
  | nil => cases hx
  | cons a l =>
    rcases List.mem_cons.mp hx with rfl | hx
    · exact steps_of_chain h
    · obtain ⟨l₁, l₂, rfl⟩ := List.append_of_mem hx
      have h' : List.IsChain (fun x y => y ∈ next x) (a :: (l₁ ++ x :: (l₂ ++ [a]))) := by
        simpa [Closed] using h
      obtain ⟨hto, hback⟩ := List.isChain_cons_split.mp h'
      have := (steps_of_chain hback).trans (steps_of_chain hto)
      rwa [show l₂.length + 1 + (l₁.length + 1) = (a :: (l₁ ++ x :: l₂)).length by simp; omega] at this

end Walks

/-! ## Generations of ways -/

/-- What is kept from one generation to the next: the ways to the latest nodes, when no way leads back so far. -/
structure Frontier (next : Nat → List Nat) (start k : Nat) (seen : List Nat) (ways : List (Nat × List Nat)) :
    Prop where
  level : Level next start k seen (ways.map Prod.fst)
  way : ∀ w ∈ ways, Way next start w.1 w.2
  length : ∀ w ∈ ways, w.2.length = k
  nodup : ∀ w ∈ ways, (w.1 :: w.2).Nodup
  mem_seen : ∀ w ∈ ways, ∀ x ∈ w.1 :: w.2, x ∈ seen
  unclosed : ∀ l, 0 < l → l ≤ k → ¬ Steps next start l start

/-- A closed way from a node that meets no node twice and is no longer than any way back to it. -/
structure Shortest (next : Nat → List Nat) (start : Nat) (cycle : List Nat) : Prop where
  closed : Closed next cycle
  nodup : cycle.Nodup
  head : cycle.head? = some start
  least : ∀ l, 0 < l → Steps next start l start → cycle.length ≤ l

def Longer (next : Nat → List Nat) (ways : List (Nat × List Nat)) (u : Nat × List Nat) : Prop :=
  ∃ w ∈ ways, u.1 ∈ next w.1 ∧ u.2 = w.1 :: w.2

section Frontier
variable {next : Nat → List Nat} {start k : Nat} {seen : List Nat} {ways fresh : List (Nat × List Nat)}

theorem Frontier.initial : Frontier next start 0 [start] [(start, [])] where
  level := Level.initial
  way w hw := by
    obtain rfl := List.mem_singleton.mp hw
    exact .start
  length w hw := by
    obtain rfl := List.mem_singleton.mp hw
    rfl
  nodup w hw := by
    obtain rfl := List.mem_singleton.mp hw
    exact List.nodup_singleton _
  mem_seen w hw := by
    obtain rfl := List.mem_singleton.mp hw
    exact fun x hx => hx
  unclosed l hpos hl := by omega

theorem Frontier.unclosed_succ (h : Frontier next start k seen ways) (hnone : ∀ w ∈ ways, start ∉ next w.1) (l : Nat)
    (hpos : 0 < l) (hl : l ≤ k + 1) : ¬ Steps next start l start := by
  intro hback
  by_cases hle : l ≤ k
  · exact h.unclosed l hpos hle hback
  · obtain rfl : l = k + 1 := by omega
    cases hback with
    | @succ _ v _ hv hclose =>
      -- The last node before the start is of the latest generation, or there was a shorter way back.
      have hlatest : v ∈ ways.map Prod.fst := by
        refine (h.level.latest_iff v).mpr ⟨hv, fun l hl hvl => ?_⟩
        exact h.unclosed (l + 1) (by omega) (by omega) (hvl.succ hclose)
      obtain ⟨w, hw, rfl⟩ := List.mem_map.mp hlatest
      exact hnone w hw hclose

/-- The longer ways to the nodes that were not seen yet, one to each, are the next generation. -/
theorem Frontier.step (h : Frontier next start k seen ways) (hnone : ∀ w ∈ ways, start ∉ next w.1)
    (hnodup : (fresh.map Prod.fst).Nodup) (hnew : ∀ u ∈ fresh, u.1 ∉ seen ∧ Longer next ways u)
    (hall : ∀ w ∈ ways, ∀ b ∈ next w.1, b ∈ seen ∨ b ∈ fresh.map Prod.fst) :
    Frontier next start (k + 1) (seen ++ fresh.map Prod.fst) fresh where
  level := by
    refine h.level.step hnodup fun b => ⟨fun hb => ?_, fun ⟨hb, a, ha, hab⟩ => ?_⟩
    · obtain ⟨u, hu, rfl⟩ := List.mem_map.mp hb
      obtain ⟨hu, w, hw, hstep, -⟩ := hnew u hu
      exact ⟨hu, w.1, List.mem_map_of_mem hw, hstep⟩
    · obtain ⟨w, hw, rfl⟩ := List.mem_map.mp ha
      exact (hall w hw b hab).resolve_left hb
  way u hu := by
    obtain ⟨-, w, hw, hstep, heq⟩ := hnew u hu
    rw [heq]
    exact (h.way w hw).step hstep
  length u hu := by
    obtain ⟨-, w, hw, -, heq⟩ := hnew u hu
    rw [heq, List.length_cons, h.length w hw]
  nodup u hu := by
    obtain ⟨hunseen, w, hw, -, heq⟩ := hnew u hu
    rw [heq, List.nodup_cons]
    exact ⟨fun hmem => hunseen (h.mem_seen w hw _ hmem), h.nodup w hw⟩
  mem_seen u hu x hx := by
    obtain ⟨-, w, hw, -, heq⟩ := hnew u hu
    rw [heq] at hx
    rcases List.mem_cons.mp hx with rfl | hx
    · exact List.mem_append_right _ (List.mem_map_of_mem hu)
    · exact List.mem_append_left _ (h.mem_seen w hw x hx)
  unclosed := h.unclosed_succ hnone

/-- A way of the latest generation that leads back is a shortest way back. -/
theorem Frontier.shortest (h : Frontier next start k seen ways) {w : Nat × List Nat} (hw : w ∈ ways)
    (hclose : start ∈ next w.1) : Shortest next start (w.1 :: w.2).reverse := by
  obtain ⟨l, hl, -⟩ := (h.way w hw).chain
  refine ⟨(h.way w hw).closed hclose, List.nodup_reverse.mpr (h.nodup w hw), by rw [hl]; rfl, fun l hpos hback => ?_⟩
  by_contra hlt
  rw [List.length_reverse, List.length_cons, h.length w hw] at hlt
  exact h.unclosed l hpos (by omega) hback

/-- When no node is left to go on from, there is no way back. -/
theorem Frontier.not_steps (h : Frontier next start k seen []) {l : Nat} (hpos : 0 < l) : ¬ Steps next start l start := by
  intro hback
  cases hback with
  | zero => omega
  | succ hv hclose =>
    obtain ⟨l, hl, hv⟩ := h.level.exists_lt hv
    exact h.unclosed (l + 1) (by omega) (by omega) (hv.succ hclose)

end Frontier

/-! ## Going back by what was noted -/

/-- Where nodes were come upon, from a node back to the start. -/
inductive Traced (previous : List (Nat × Nat)) (start : Nat) : Nat → List Nat → Prop where
  | start : Traced previous start start []
  | step {v before w} (h : Traced previous start v before) (hne : w ≠ start) (hw : previous.lookup w = some v) :
    Traced previous start w (v :: before)

def Keeps (previous previous' : List (Nat × Nat)) : Prop :=
  ∀ x v, previous.lookup x = some v → previous'.lookup x = some v

section Traced
variable {previous previous' : List (Nat × Nat)} {start v : Nat} {before : List Nat}

theorem Traced.mono (h : Traced previous start v before) (hkeep : Keeps previous previous') :
    Traced previous' start v before := by
  induction h with
  | start => exact .start
  | step _ hne hw ih => exact ih.step hne (hkeep _ _ hw)

theorem Traced.trail_eq (h : Traced previous start v before) {n : Nat} (hn : before.length ≤ n) :
    Cycle.trail previous start n v = v :: before := by
  induction h generalizing n with
  | start => cases n <;> simp [Cycle.trail]
  | step _ hne hw ih =>
    cases n with
    | zero => simp at hn
    | succ n =>
      rw [List.length_cons] at hn
      rw [Cycle.trail, if_neg hne, hw]
      exact congrArg _ (ih (Nat.le_of_succ_le_succ hn))

theorem Traced.mem_keys (h : Traced previous start v before) :
    ∀ x ∈ v :: before, x ≠ start → x ∈ previous.map Prod.fst := by
  induction h with
  | start => simp
  | step _ hne hw ih =>
    intro x hx hxs
    rcases List.mem_cons.mp hx with rfl | hx
    · exact lookup_isSome.mp (by rw [hw]; rfl)
    · exact ih x hx hxs

theorem Traced.start_mem (h : Traced previous start v before) : start ∈ v :: before := by
  induction h with
  | start => exact List.mem_cons_self
  | step _ _ _ ih => exact List.mem_cons_of_mem _ ih

/-- The trail is long enough, as nodes do not come again on it. -/
theorem Traced.trail (h : Traced previous start v before) (hnodup : (v :: before).Nodup) :
    Cycle.trail previous start previous.length v = v :: before := by
  refine h.trail_eq ?_
  have hsub : (v :: before).erase start ⊆ previous.map Prod.fst := by
    intro x hx
    obtain ⟨hne, hx⟩ := (hnodup.mem_erase_iff).mp hx
    exact h.mem_keys x hx hne
  have hle := ((hnodup.erase start).subperm hsub).length_le
  rw [List.length_erase_of_mem h.start_mem, List.length_map] at hle
  simpa using hle

end Traced

/-! ## Looking at what a node leads to -/

section Scan
variable {members : List Nat} {start node : Nat} {nexts : List Nat} {s : Search}

/-- Only nodes that are members are looked at. -/
theorem scan_filter (members nexts : List Nat) (start node : Nat) (s : Search) :
    scan members start node nexts s = scan members start node (nexts.filter members.contains) s := by
  induction nexts generalizing s with
  | nil => rfl
  | cons next nexts ih =>
    by_cases hmem : members.contains next = true
    · rw [List.filter_cons_of_pos hmem, scan, scan]
      simp only [ih]
    · rw [List.filter_cons_of_neg hmem, scan, if_pos (by simpa using hmem), ih]

theorem lookup_cons_of_isNone {previous : List (Nat × Nat)} {next : Nat} (hnone : (previous.lookup next).isNone = true) :
    Keeps previous ((next, node) :: previous) := by
  intro x v hx
  rw [List.lookup_cons]
  split
  · next heq =>
    rw [beq_iff_eq.mp heq, Option.isNone_iff_eq_none.mp hnone] at hx
    cases hx
  · exact hx

/-- If the start is among the nodes that the node leads to, it is met. -/
theorem scan_of_mem (hsub : ∀ x ∈ nexts, x ∈ members) (hmem : start ∈ nexts) :
    ∃ t, scan members start node nexts s = (true, t) ∧ Keeps s.previous t.previous := by
  induction nexts generalizing s with
  | nil => cases hmem
  | cons next nexts ih =>
    obtain ⟨hnext, hsub⟩ := List.forall_mem_cons.mp hsub
    rw [scan, if_neg (by simpa using hnext)]
    by_cases hstart : next = start
    · exact ⟨s, if_pos hstart, fun _ _ h => h⟩
    · rw [if_neg hstart]
      have hmem := (List.mem_cons.mp hmem).resolve_left (Ne.symm hstart)
      split
      · next hnone =>
        obtain ⟨t, ht, hkeep⟩ := ih (s := ⟨(next, node) :: s.previous, s.queue ++ [next]⟩) hsub hmem
        exact ⟨t, ht, fun x v hx => hkeep x v (lookup_cons_of_isNone hnone x v hx)⟩
      · exact ih hsub hmem

/-- Else every node that was not come upon before is put at the end of the queue, once, and the node is noted for it. -/
theorem scan_of_notMem (hsub : ∀ x ∈ nexts, x ∈ members) (hnot : start ∉ nexts) :
    ∃ fresh previous, scan members start node nexts s = (false, ⟨previous, s.queue ++ fresh⟩) ∧ fresh.Nodup ∧
      (∀ b, b ∈ fresh ↔ b ∈ nexts ∧ s.previous.lookup b = none) ∧ Keeps s.previous previous ∧
      (∀ b ∈ fresh, previous.lookup b = some node) ∧
      ∀ b, (previous.lookup b).isSome = true → b ∈ fresh ∨ (s.previous.lookup b).isSome = true := by
  induction nexts generalizing s with
  | nil => exact ⟨[], s.previous, by simp [scan], List.nodup_nil, by simp, fun _ _ h => h, by simp, fun _ h => .inr h⟩
  | cons next nexts ih =>
    obtain ⟨hnext, hsub⟩ := List.forall_mem_cons.mp hsub
    obtain ⟨hstart, hnot⟩ := not_or.mp (List.mem_cons.not.mp hnot)
    rw [scan, if_neg (by simpa using hnext), if_neg (Ne.symm hstart)]
    split
    · next hnone =>
      obtain ⟨fresh, previous, hscan, hnodup, hfresh, hkeep, hnoted, honly⟩ :=
        ih (s := ⟨(next, node) :: s.previous, s.queue ++ [next]⟩) hsub hnot
      have hkeep' : Keeps s.previous ((next, node) :: s.previous) := lookup_cons_of_isNone hnone
      have hself : ((next, node) :: s.previous).lookup next = some node := List.lookup_cons_self
      have hother : ∀ b, b ≠ next → ((next, node) :: s.previous).lookup b = s.previous.lookup b := by
        intro b hb
        rw [List.lookup_cons, beq_eq_false_iff_ne.mpr hb]
      have hnext' : next ∉ fresh := by
        rw [hfresh, hself]
        simp
      refine ⟨next :: fresh, previous, ?_, List.nodup_cons.mpr ⟨hnext', hnodup⟩, fun b => ?_,
        fun x v hx => hkeep x v (hkeep' x v hx), fun b hb => ?_, fun b hb => ?_⟩
      · rw [hscan, List.append_assoc]
        rfl
      · by_cases hb : b = next
        · subst hb
          simp [Option.isNone_iff_eq_none.mp hnone]
        · simp [hb, hfresh, hother b hb]
      · rcases List.mem_cons.mp hb with rfl | hb
        · exact hkeep _ _ hself
        · exact hnoted b hb
      · by_cases hb' : b = next
        · exact .inl (List.mem_cons.mpr (.inl hb'))
        · rcases honly b hb with hb | hb
          · exact .inl (List.mem_cons_of_mem _ hb)
          · exact .inr (hother b hb' ▸ hb)
    · next hsome =>
      obtain ⟨fresh, previous, hscan, hnodup, hfresh, hrest⟩ := ih (s := s) hsub hnot
      refine ⟨fresh, previous, hscan, hnodup, fun b => ?_, hrest⟩
      rw [hfresh, List.mem_cons]
      refine and_congr_left fun hb => ⟨.inr, fun h => h.resolve_left ?_⟩
      rintro rfl
      exact hsome (Option.isNone_iff_eq_none.mpr hb)

end Scan

/-! ## The search -/

/-- What the search keeps while it takes off a generation `ways`: `left` of them are still in the queue, and `fresh` are
the ways of the next generation that have been found so far. -/
structure Sweep (next : Nat → List Nat) (start k : Nat) (seen : List Nat) (ways left fresh : List (Nat × List Nat))
    (previous : List (Nat × Nat)) : Prop where
  frontier : Frontier next start k seen ways
  taken : ∃ taken, ways = taken ++ left ∧
    ∀ w ∈ taken, start ∉ next w.1 ∧ ∀ b ∈ next w.1, b ∈ seen ∨ b ∈ fresh.map Prod.fst
  noted : ∀ b, (previous.lookup b).isSome = true ↔ b ≠ start ∧ (b ∈ seen ∨ b ∈ fresh.map Prod.fst)
  nodup : (fresh.map Prod.fst).Nodup
  news : ∀ u ∈ fresh, u.1 ∉ seen ∧ Longer next ways u
  traced : ∀ u ∈ ways ++ fresh, Traced previous start u.1 u.2

section Sweep
variable {next : Nat → List Nat} {start k : Nat} {seen : List Nat} {ways left fresh : List (Nat × List Nat)}
  {previous : List (Nat × Nat)}

theorem Sweep.initial : Sweep next start 0 [start] [(start, [])] [(start, [])] [] [] where
  frontier := .initial
  taken := ⟨[], rfl, by simp⟩
  noted b := by simp
  nodup := List.nodup_nil
  news := by simp
  traced u hu := by
    obtain rfl := List.mem_singleton.mp hu
    exact .start

/-- When a generation has been taken off, the next one is complete. -/
theorem Sweep.turn (h : Sweep next start k seen ways [] fresh previous) :
    Sweep next start (k + 1) (seen ++ fresh.map Prod.fst) fresh fresh [] previous where
  frontier := by
    obtain ⟨taken, heq, htaken⟩ := h.taken
    rw [List.append_nil] at heq
    subst heq
    exact h.frontier.step (fun w hw => (htaken w hw).1) h.nodup h.news fun w hw => (htaken w hw).2
  taken := ⟨[], rfl, by simp⟩
  noted b := by
    rw [h.noted]
    simp
  nodup := List.nodup_nil
  news := by simp
  traced u hu := h.traced u (List.mem_append_right _ (by simpa using hu))

theorem Sweep.head_mem {w : Nat × List Nat} (h : Sweep next start k seen ways (w :: left) fresh previous) : w ∈ ways := by
  obtain ⟨taken, rfl, -⟩ := h.taken
  simp

/-- A node that nothing is noted for was neither seen nor found, unless it is the start. -/
theorem Sweep.notMem_of_lookup {b : Nat} (h : Sweep next start k seen ways left fresh previous) (hne : b ≠ start)
    (hnone : previous.lookup b = none) : b ∉ seen ∧ b ∉ fresh.map Prod.fst := by
  have hunnoted : ¬ (b ≠ start ∧ (b ∈ seen ∨ b ∈ fresh.map Prod.fst)) := by
    rw [← h.noted, hnone]
    simp
  exact ⟨fun hb => hunnoted ⟨hne, .inl hb⟩, fun hb => hunnoted ⟨hne, .inr hb⟩⟩

/-- A way is taken off that does not lead back: the nodes that it leads to and that are new are found. -/
theorem Sweep.look {w : Nat × List Nat} {found : List Nat} {previous' : List (Nat × Nat)}
    (h : Sweep next start k seen ways (w :: left) fresh previous) (hnot : start ∉ next w.1) (hnodup : found.Nodup)
    (hfound : ∀ b, b ∈ found ↔ b ∈ next w.1 ∧ previous.lookup b = none) (hkeep : Keeps previous previous')
    (hnoted : ∀ b ∈ found, previous'.lookup b = some w.1)
    (honly : ∀ b, (previous'.lookup b).isSome = true → b ∈ found ∨ (previous.lookup b).isSome = true) :
    Sweep next start k seen ways left (fresh ++ found.map fun b => (b, w.1 :: w.2)) previous' := by
  have hw := h.head_mem
  have hkeys : (fresh ++ found.map fun b => (b, w.1 :: w.2)).map Prod.fst = fresh.map Prod.fst ++ found := by
    simp [List.map_map, Function.comp_def]
  have hnew : ∀ b ∈ found, b ≠ start ∧ b ∉ seen ∧ b ∉ fresh.map Prod.fst := by
    intro b hb
    obtain ⟨hstep, hnone⟩ := (hfound b).mp hb
    have hne : b ≠ start := fun heq => hnot (heq ▸ hstep)
    exact ⟨hne, h.notMem_of_lookup hne hnone⟩
  refine ⟨h.frontier, ?_, fun b => ?_, ?_, fun u hu => ?_, fun u hu => ?_⟩
  · obtain ⟨taken, heq, htaken⟩ := h.taken
    refine ⟨taken ++ [w], by simpa using heq, ?_⟩
    rw [hkeys, List.forall_mem_append, List.forall_mem_singleton]
    refine ⟨fun w' hw' => ⟨(htaken w' hw').1, fun b hb => ?_⟩, hnot, fun b hb => ?_⟩
    · exact ((htaken w' hw').2 b hb).imp_right (List.mem_append_left _)
    · cases hb' : previous.lookup b with
      | none => exact .inr (List.mem_append_right _ ((hfound b).mpr ⟨hb, hb'⟩))
      | some v =>
        have hsome := ((h.noted b).mp (by rw [hb']; rfl)).2
        exact hsome.imp_right (List.mem_append_left _)
  · rw [hkeys, List.mem_append]
    constructor
    · intro hb
      rcases honly b hb with hb | hb
      · exact ⟨(hnew b hb).1, .inr (.inr hb)⟩
      · obtain ⟨hne, hb⟩ := (h.noted b).mp hb
        exact ⟨hne, hb.imp_right .inl⟩
    · rintro ⟨hne, hb⟩
      have hold : (b ∈ seen ∨ b ∈ fresh.map Prod.fst) → (previous'.lookup b).isSome = true := by
        intro hb
        obtain ⟨v, hv⟩ := Option.isSome_iff_exists.mp ((h.noted b).mpr ⟨hne, hb⟩)
        rw [hkeep b v hv]
        rfl
      rcases hb with hb | hb | hb
      · exact hold (.inl hb)
      · exact hold (.inr hb)
      · rw [hnoted b hb]
        rfl
  · rw [hkeys]
    exact List.nodup_append'.mpr ⟨h.nodup, hnodup, fun b hb hb' => (hnew b hb').2.2 hb⟩
  · rcases List.mem_append.mp hu with hu | hu
    · exact h.news u hu
    · obtain ⟨b, hb, rfl⟩ := List.mem_map.mp hu
      exact ⟨(hnew b hb).2.1, w, hw, ((hfound b).mp hb).1, rfl⟩
  · rcases List.mem_append.mp hu with hu | hu
    · exact (h.traced u (List.mem_append_left _ hu)).mono hkeep
    · rcases List.mem_append.mp hu with hu | hu
      · exact (h.traced u (List.mem_append_right _ hu)).mono hkeep
      · obtain ⟨b, hb, rfl⟩ := List.mem_map.mp hu
        exact ((h.traced w (List.mem_append_left _ hw)).mono hkeep).step (hnew b hb).1 (hnoted b hb)

/-- What a search is right to give: a node that a shortest way back ends at, or nothing when there is no way back. -/
def IsFound (next : Nat → List Nat) (start : Nat) : Option (Nat × List (Nat × Nat)) → Prop
  | some found => Shortest next start (trail found.2 start found.2.length found.1).reverse
  | none => ∀ l, 0 < l → ¬ Steps next start l start

variable {needs : Schedule.Needs} {members : List Nat}

theorem Sweep.length_le (h : Sweep next start k seen ways left fresh previous) (hstart : start ∈ members)
    (hmem : ∀ a, ∀ b ∈ next a, b ∈ members) : seen.length + fresh.length ≤ members.length := by
  have hnodup : (seen ++ fresh.map Prod.fst).Nodup := by
    refine List.nodup_append'.mpr ⟨h.frontier.level.nodup, h.nodup, fun b hb hb' => ?_⟩
    obtain ⟨u, hu, rfl⟩ := List.mem_map.mp hb'
    exact (h.news u hu).1 hb
  have hsub : seen ++ fresh.map Prod.fst ⊆ members := by
    intro b hb
    rcases List.mem_append.mp hb with hb | hb
    · obtain ⟨l, -, hb⟩ := (h.frontier.level.seen_iff b).mp hb
      cases hb with
      | zero => exact hstart
      | succ _ hb => exact hmem _ _ hb
    · obtain ⟨u, hu, rfl⟩ := List.mem_map.mp hb
      obtain ⟨-, w, -, hstep, -⟩ := h.news u hu
      exact hmem _ _ hstep
  have hle := (hnodup.subperm hsub).length_le
  rwa [List.length_append, List.length_map] at hle

/-- Taking off the first node of the queue: it leads back, or the search goes on from there. -/
theorem Sweep.search_succ {w : Nat × List Nat} {n : Nat}
    (hnext : ∀ a, ((needs[a]?).getD []).filter members.contains = next a)
    (h : Sweep next start k seen ways (w :: left) fresh previous)
    (hrest : ∀ fresh' previous', Sweep next start k seen ways left fresh' previous' →
      IsFound next start (search? needs members start n ⟨previous', (left ++ fresh').map Prod.fst⟩)) :
    IsFound next start (search? needs members start (n + 1) ⟨previous, (w :: left ++ fresh).map Prod.fst⟩) := by
  have hsub : ∀ x ∈ next w.1, x ∈ members := by
    intro x hx
    rw [← hnext, List.mem_filter, List.contains_iff_mem] at hx
    exact hx.2
  rw [List.cons_append, List.map_cons, search?, scan_filter, hnext]
  by_cases hclose : start ∈ next w.1
  · obtain ⟨t, hscan, hkeep⟩ :=
      scan_of_mem (s := ⟨previous, (left ++ fresh).map Prod.fst⟩) hsub hclose
    rw [hscan]
    have htraced := (h.traced w (List.mem_append_left _ h.head_mem)).mono hkeep
    have hnodup := h.frontier.nodup w h.head_mem
    show Shortest next start (trail t.previous start t.previous.length w.1).reverse
    rw [htraced.trail hnodup]
    exact h.frontier.shortest h.head_mem hclose
  · obtain ⟨found, previous', hscan, hnodup, hfound, hkeep, hnoted, honly⟩ :=
      scan_of_notMem (s := ⟨previous, (left ++ fresh).map Prod.fst⟩) hsub hclose
    rw [hscan]
    have hqueue : (left ++ fresh).map Prod.fst ++ found
        = (left ++ (fresh ++ found.map fun b => (b, w.1 :: w.2))).map Prod.fst := by
      simp [List.map_map, Function.comp_def]
    show IsFound next start (search? needs members start n ⟨previous', (left ++ fresh).map Prod.fst ++ found⟩)
    rw [hqueue]
    exact hrest _ _ (h.look hclose hnodup hfound hkeep hnoted honly)

/-- The queue is empty before the search has taken off more nodes than there are. -/
theorem Sweep.search {n : Nat} (hnext : ∀ a, ((needs[a]?).getD []).filter members.contains = next a)
    (hstart : start ∈ members) (h : Sweep next start k seen ways left fresh previous)
    (hn : members.length + left.length ≤ n + seen.length) :
    IsFound next start (search? needs members start n ⟨previous, (left ++ fresh).map Prod.fst⟩) := by
  have hmem : ∀ a, ∀ b ∈ next a, b ∈ members := by
    intro a b hb
    rw [← hnext, List.mem_filter, List.contains_iff_mem] at hb
    exact hb.2
  have hdone : ∀ {n k seen ways previous}, Sweep next start k seen ways [] [] previous →
      IsFound next start
        (search? needs members start n ⟨previous, (([] ++ [] : List (Nat × List Nat))).map Prod.fst⟩) := by
    intro n k seen ways previous h
    have hnone : search? needs members start n ⟨previous, []⟩ = none := by cases n <;> rfl
    rw [List.append_nil, List.map_nil, hnone]
    exact fun l hpos => h.turn.frontier.not_steps hpos
  induction n generalizing k seen ways left fresh previous with
  | zero =>
    have hle := h.length_le hstart hmem
    obtain rfl : left = [] := List.eq_nil_of_length_eq_zero (by omega)
    obtain rfl : fresh = [] := List.eq_nil_of_length_eq_zero (by omega)
    exact hdone h
  | succ n ih =>
    cases left with
    | cons w left =>
      refine h.search_succ hnext fun fresh' previous' h' => ih h' ?_
      rw [List.length_cons] at hn
      omega
    | nil =>
      cases fresh with
      | nil => exact hdone h
      | cons u fresh =>
        -- The generation has been taken off: the next one is what is in the queue.
        have hqueue : ([] ++ u :: fresh) = u :: fresh ++ ([] : List (Nat × List Nat)) := by simp
        rw [hqueue]
        refine h.turn.search_succ hnext fun fresh' previous' h' => ih h' ?_
        rw [List.length_append, List.length_map, List.length_cons]
        rw [List.length_nil] at hn
        omega

end Sweep

/-- A search from a node finds a shortest way back to it that stays among some nodes, if there is one. -/
theorem isFound_search {next : Nat → List Nat} {start : Nat} {needs : Schedule.Needs} {members : List Nat}
    (hnext : ∀ a, ((needs[a]?).getD []).filter members.contains = next a) (hstart : start ∈ members) :
    IsFound next start (search? needs members start members.length ⟨[], [start]⟩) :=
  Sweep.initial.search hnext hstart (Nat.le_refl _)

end Tributary.Cycle
