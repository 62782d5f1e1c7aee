import Mathlib.Data.List.Nodup
import Mathlib.Data.List.Perm.Subperm
import Mathlib.Logic.Relation
import Tributary.Proofs.Distinct

/-!
# Reachability by generations

Nodes are numbers, and each leads to a list of others. The nodes that can be reached from one are found generation by
generation; the loops of the graph, of plans and of scopes are shown to find what this finds.

* `reach` : the nodes that can be reached from one, nearest first;
* `Steps next a k b` : node `b` is `k` steps away from `a`, by some way;
* `Level next start k seen latest` : `seen` are the nodes up to `k` steps away, `latest` those that no shorter way
  leads to;
* `Level.initial`, `Level.step` : a generation leads to the next one;
* `steps_short` : among `n` nodes fewer than `n` steps lead anywhere that steps lead;
* `mem_reach` : what is reached from a node; `mem_drop_reach` : without the node itself;
* `reach_sorted` : nearer nodes are reached before others.
-/

namespace Tributary

open Relation

/-- Adds `n` further generations: what the latest lead to and is not there yet. -/
def generations (next : Nat → List Nat) : Nat → List Nat → List Nat → List Nat
  | 0, found, _ => found
  | n + 1, found, latest =>
    let fresh := ((latest.flatMap next).filter fun i => !found.contains i).eraseDups
    generations next n (found ++ fresh) fresh

/-- The nodes that can be reached from one in zero to `n` steps, nearest first. With `n` nodes in all,
these are all that can be reached. -/
def reach (next : Nat → List Nat) (n : Nat) (start : Nat) : List Nat :=
  generations next n [start] [start]

inductive Steps (next : Nat → List Nat) (a : Nat) : Nat → Nat → Prop where
  | zero : Steps next a 0 a
  | succ {k b c} (h : Steps next a k b) (hc : c ∈ next b) : Steps next a (k + 1) c

section Steps
variable {next : Nat → List Nat} {a b c : Nat}

theorem Steps.trans {k l : Nat} (hab : Steps next a k b) (hbc : Steps next b l c) : Steps next a (k + l) c := by
  induction hbc with
  | zero => exact hab
  | succ _ hc ih => exact ih.succ hc

theorem Steps.of_mem (h : b ∈ next a) : Steps next a 1 b := Steps.zero.succ h

theorem Steps.lt {n k : Nat} (hnext : ∀ a, ∀ b ∈ next a, b < n) (ha : a < n) (h : Steps next a k b) : b < n := by
  cases h with
  | zero => exact ha
  | succ _ hc => exact hnext _ _ hc

theorem reflTransGen_iff_steps : ReflTransGen (fun x y => y ∈ next x) a b ↔ ∃ k, Steps next a k b := by
  constructor
  · intro h
    induction h with
    | refl => exact ⟨0, .zero⟩
    | tail _ hc ih =>
      obtain ⟨k, hk⟩ := ih
      exact ⟨k + 1, hk.succ hc⟩
  · rintro ⟨k, h⟩
    induction h with
    | zero => exact .refl
    | succ _ hc ih => exact ih.tail hc

end Steps

/-! ## Generations -/

/-- The nodes up to `k` steps away from the start, and those of them that are no fewer steps away. -/
structure Level (next : Nat → List Nat) (start k : Nat) (seen latest : List Nat) : Prop where
  seen_iff : ∀ b, b ∈ seen ↔ ∃ l ≤ k, Steps next start l b
  latest_iff : ∀ b, b ∈ latest ↔ Steps next start k b ∧ ∀ l < k, ¬ Steps next start l b
  nodup : seen.Nodup
  long : latest ≠ [] → k < seen.length

section Level
variable {next : Nat → List Nat} {start k : Nat} {seen latest fresh : List Nat}

theorem Level.initial : Level next start 0 [start] [start] where
  seen_iff b := by
    constructor
    · intro hb
      obtain rfl := List.mem_singleton.mp hb
      exact ⟨0, Nat.le_refl 0, .zero⟩
    · rintro ⟨l, hl, h⟩
      obtain rfl : l = 0 := by omega
      cases h
      exact List.mem_singleton_self _
  latest_iff b := by
    constructor
    · intro hb
      obtain rfl := List.mem_singleton.mp hb
      exact ⟨.zero, fun l hl => absurd hl (by omega)⟩
    · rintro ⟨h, -⟩
      cases h
      exact List.mem_singleton_self _
  nodup := List.nodup_singleton _
  long _ := by simp

/-- The nodes that the latest lead to, and that were not seen yet, are the next generation. -/
theorem Level.step (h : Level next start k seen latest) (hnodup : fresh.Nodup)
    (hfresh : ∀ b, b ∈ fresh ↔ b ∉ seen ∧ ∃ a ∈ latest, b ∈ next a) :
    Level next start (k + 1) (seen ++ fresh) fresh := by
  have hlatest : ∀ b, b ∈ fresh ↔ Steps next start (k + 1) b ∧ ∀ l < k + 1, ¬ Steps next start l b := by
    intro b
    rw [hfresh, h.seen_iff]
    constructor
    · rintro ⟨hnew, a, ha, hab⟩
      refine ⟨((h.latest_iff a).mp ha).1.succ hab, fun l hl hb => hnew ⟨l, by omega, hb⟩⟩
    · rintro ⟨hb, hshort⟩
      refine ⟨fun ⟨l, hl, hbl⟩ => hshort l (by omega) hbl, ?_⟩
      cases hb with
      | succ ha hab =>
        -- The node before it is no fewer than `k` steps away, or there would be a shorter way.
        exact ⟨_, (h.latest_iff _).mpr ⟨ha, fun l hl hal => hshort (l + 1) (by omega) (hal.succ hab)⟩, hab⟩
  refine ⟨fun b => ?_, hlatest, ?_, fun hne => ?_⟩
  · rw [List.mem_append, h.seen_iff, hlatest]
    constructor
    · rintro (⟨l, hl, hb⟩ | ⟨hb, -⟩)
      · exact ⟨l, by omega, hb⟩
      · exact ⟨k + 1, Nat.le_refl _, hb⟩
    · rintro ⟨l, hl, hb⟩
      by_cases hearlier : ∃ l ≤ k, Steps next start l b
      · exact .inl hearlier
      · have hnone : ∀ l' ≤ k, ¬ Steps next start l' b := fun l' hl' hb' => hearlier ⟨l', hl', hb'⟩
        obtain rfl : l = k + 1 := by
          by_contra hne
          exact hnone l (by omega) hb
        exact .inr ⟨hb, fun l' hl' => hnone l' (by omega)⟩
  · rw [List.nodup_append']
    exact ⟨h.nodup, hnodup, fun b hb hb' => ((hfresh b).mp hb').1 hb⟩
  · obtain ⟨b, hb⟩ := List.exists_mem_of_ne_nil fresh hne
    obtain ⟨-, a, ha, -⟩ := (hfresh b).mp hb
    have hlong := h.long (List.ne_nil_of_mem ha)
    have hpos : 0 < fresh.length := List.length_pos_of_mem hb
    rw [List.length_append]
    omega

/-- With no latest nodes every way is shorter. -/
theorem Level.exists_lt (h : Level next start k seen []) {m b : Nat} (hb : Steps next start m b) :
    ∃ l < k, Steps next start l b := by
  have hshorter : ∀ b, Steps next start k b → ∃ l < k, Steps next start l b := by
    intro b hb
    by_contra hnone
    have hmem := (h.latest_iff b).mpr ⟨hb, fun l hl hbl => hnone ⟨l, hl, hbl⟩⟩
    cases hmem
  induction hb with
  | zero =>
    by_cases hk : 0 < k
    · exact ⟨0, hk, .zero⟩
    · obtain rfl : k = 0 := by omega
      exact hshorter _ .zero
  | succ _ hc ih =>
    obtain ⟨l, hl, hbl⟩ := ih
    by_cases hlt : l + 1 < k
    · exact ⟨l + 1, hlt, hbl.succ hc⟩
    · obtain rfl : k = l + 1 := by omega
      exact hshorter _ (hbl.succ hc)

/-- Among `n` nodes there is no way to a new one after `n` steps. -/
theorem Level.eq_nil {n : Nat} (h : Level next start k seen latest) (hnext : ∀ a, ∀ b ∈ next a, b < n)
    (hstart : start < n) (hk : n ≤ k) : latest = [] := by
  by_contra hne
  have hsub : seen ⊆ List.range n := by
    intro b hb
    obtain ⟨l, -, hbl⟩ := (h.seen_iff b).mp hb
    exact List.mem_range.mpr (hbl.lt hnext hstart)
  have hlen := (h.nodup.subperm hsub).length_le
  have hlong := h.long hne
  rw [List.length_range] at hlen
  omega

/-- The step that `generations` takes. -/
theorem Level.step_fresh (h : Level next start k seen latest) :
    let fresh := ((latest.flatMap next).filter fun i => !seen.contains i).eraseDups
    Level next start (k + 1) (seen ++ fresh) fresh := by
  refine h.step (nodup_eraseDups _) fun b => ?_
  simp [and_comm]

theorem Level.generations (n : Nat) (h : Level next start k seen latest) :
    ∃ latest', Level next start (k + n) (generations next n seen latest) latest' := by
  induction n generalizing k seen latest with
  | zero => exact ⟨latest, h⟩
  | succ n ih =>
    obtain ⟨latest', h'⟩ := ih h.step_fresh
    exact ⟨latest', by rwa [show k + (n + 1) = k + 1 + n by omega]⟩

end Level

section Reach
variable {next : Nat → List Nat} {n start b : Nat}

theorem steps_short (hnext : ∀ a, ∀ b ∈ next a, b < n) (hstart : start < n) {m : Nat}
    (h : Steps next start m b) : ∃ l < n, Steps next start l b := by
  obtain ⟨latest, hlevel⟩ := (Level.initial : Level next start 0 [start] [start]).generations n
  obtain rfl := hlevel.eq_nil hnext hstart (by omega)
  obtain ⟨l, hl, hb⟩ := hlevel.exists_lt h
  exact ⟨l, by omega, hb⟩

/-- Among `n` nodes, what is found in `n` generations is what there is a way to. -/
theorem mem_reach (hnext : ∀ a, ∀ b ∈ next a, b < n) (hstart : start < n) :
    b ∈ reach next n start ↔ ReflTransGen (fun x y => y ∈ next x) start b := by
  obtain ⟨latest, hlevel⟩ := (Level.initial : Level next start 0 [start] [start]).generations n
  rw [reflTransGen_iff_steps, reach, hlevel.seen_iff]
  constructor
  · rintro ⟨l, -, hb⟩
    exact ⟨l, hb⟩
  · rintro ⟨m, hb⟩
    obtain ⟨l, hl, hb⟩ := steps_short hnext hstart hb
    exact ⟨l, by omega, hb⟩

theorem generations_prefix (next : Nat → List Nat) (n : Nat) (seen latest : List Nat) :
    seen <+: generations next n seen latest := by
  induction n generalizing seen latest with
  | zero => exact List.prefix_refl seen
  | succ n ih =>
    rw [generations]
    exact (List.prefix_append seen _).trans (ih _ _)

/-- The start is reached first, and but once. -/
theorem mem_drop_reach : b ∈ (reach next n start).drop 1 ↔ b ∈ reach next n start ∧ b ≠ start := by
  obtain ⟨latest, hlevel⟩ := (Level.initial : Level next start 0 [start] [start]).generations n
  have hnodup : (reach next n start).Nodup := hlevel.nodup
  obtain ⟨rest, hrest⟩ : [start] <+: reach next n start := generations_prefix next n [start] [start]
  rw [← hrest, List.singleton_append] at hnodup ⊢
  have hstart := (List.nodup_cons.mp hnodup).1
  rw [List.drop_one, List.tail_cons, List.mem_cons]
  constructor
  · intro hb
    exact ⟨.inr hb, fun heq => hstart (heq ▸ hb)⟩
  · rintro ⟨rfl | hb, hne⟩
    · exact absurd rfl hne
    · exact hb

/-- Whatever leads to `b` is at least as long as some way to `a`. -/
def Nearer (next : Nat → List Nat) (start a b : Nat) : Prop :=
  ∀ l, Steps next start l b → ∃ k ≤ l, Steps next start k a

/-- A generation comes after all that is nearer. -/
theorem Level.nearer_append {k : Nat} {seen latest fresh : List Nat} (h : Level next start k seen latest)
    (h' : Level next start (k + 1) (seen ++ fresh) fresh) (hsorted : seen.Pairwise (Nearer next start)) :
    (seen ++ fresh).Pairwise (Nearer next start) := by
  have hfar : ∀ b ∈ fresh, ∀ l, Steps next start l b → k + 1 ≤ l := by
    intro b hb l hl
    by_contra hlt
    exact ((h'.latest_iff b).mp hb).2 l (by omega) hl
  rw [List.pairwise_append]
  refine ⟨hsorted, ?_, ?_⟩
  · rw [List.pairwise_iff_forall_sublist]
    intro a b hab l hl
    have ha : a ∈ fresh := hab.subset (by simp)
    have hb : b ∈ fresh := hab.subset (by simp)
    exact ⟨k + 1, hfar b hb l hl, ((h'.latest_iff a).mp ha).1⟩
  · intro a ha b hb l hl
    obtain ⟨j, hj, hja⟩ := (h.seen_iff a).mp ha
    have := hfar b hb l hl
    exact ⟨j, by omega, hja⟩

/-- Nodes are found in the order of their distance. -/
theorem generations_sorted (n : Nat) {k : Nat} {seen latest : List Nat} (h : Level next start k seen latest)
    (hsorted : seen.Pairwise (Nearer next start)) : (generations next n seen latest).Pairwise (Nearer next start) := by
  induction n generalizing k seen latest with
  | zero => exact hsorted
  | succ n ih =>
    rw [generations]
    have h' := h.step_fresh
    exact ih h' (h.nearer_append h' hsorted)

theorem reach_sorted : (reach next n start).Pairwise (Nearer next start) :=
  generations_sorted n Level.initial (List.pairwise_singleton _ _)

end Reach

end Tributary
