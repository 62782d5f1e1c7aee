import Mathlib.Data.List.Nodup
import Mathlib.Data.List.Perm.Subperm
import Mathlib.Logic.Relation
import Tributary.Schedule

/-!
# What a schedule does

The nodes that can be scheduled are said here by looking each time for the lowest node that is ready. The loop that
keeps counts instead is shown to find the same.

* `isReady`, `next?` : nodes that are ready, and the lowest of them; `scheduled` : all that can be scheduled, in order;
* `Leads needs i j` : node `i` needs node `j`, both within the numbering;
* `IsPartial needs done` : `done` is a schedule of some nodes, each after all that it needs;
* `scheduled_isPartial`, `next?_scheduled` : the nodes scheduled are such a schedule, and no node is left ready;
* `not_mem_scheduled_of_cycle`, `mem_scheduled_of_reach` : nodes on a cycle are left over, and whatever a
  scheduled node leads to is scheduled;
* `scheduled_of_backward` : where needs only point backwards the schedule is the numbering itself.
-/

namespace Tributary.Schedule

open Relation

/-- A node is still to come and all that it needs is done. -/
def isReady (needs : Needs) (done : List Nat) (i : Nat) : Bool :=
  !done.contains i && (needsOf needs i).all done.contains

def next? (needs : Needs) (done : List Nat) : Option Nat :=
  (List.range needs.length).find? (isReady needs done)

/-- Schedules up to `n` further nodes, as long as one is ready. -/
def extend (needs : Needs) : Nat → List Nat → List Nat
  | 0, done => done
  | n + 1, done =>
    match next? needs done with
    | some i => extend needs n (done ++ [i])
    | none => done

def scheduled (needs : Needs) : List Nat := extend needs needs.length []

/-- The nodes that cannot be scheduled, in increasing order. -/
def stuck (needs : Needs) : List Nat :=
  (List.range needs.length).filter fun i => !(scheduled needs).contains i

/-- Node `i` needs node `j`, both within the numbering. -/
def Leads (needs : Needs) (i j : Nat) : Prop := j ∈ needsOf needs i

instance (needs : Needs) (i j : Nat) : Decidable (Leads needs i j) :=
  inferInstanceAs (Decidable (j ∈ needsOf needs i))

theorem leads_iff {needs : Needs} {i j : Nat} :
    Leads needs i j ↔ ∃ own, needs[i]? = some own ∧ j ∈ own ∧ j < needs.length := by
  unfold Leads needsOf
  cases needs[i]? <;> simp

theorem Leads.lt_right {needs : Needs} {i j : Nat} (h : Leads needs i j) : j < needs.length := by
  obtain ⟨-, -, -, hj⟩ := leads_iff.mp h
  exact hj

theorem Leads.lt_left {needs : Needs} {i j : Nat} (h : Leads needs i j) : i < needs.length := by
  obtain ⟨own, hi, -⟩ := leads_iff.mp h
  exact (List.getElem?_eq_some_iff.mp hi).1

theorem reflTransGen_lt {needs : Needs} {i j : Nat} (h : ReflTransGen (Leads needs) i j)
    (hi : i < needs.length) : j < needs.length := by
  induction h with
  | refl => exact hi
  | tail _ hbc _ => exact hbc.lt_right

/-! ## One step -/

theorem isReady_iff {needs : Needs} {done : List Nat} {i : Nat} :
    isReady needs done i = true ↔ i ∉ done ∧ ∀ j, Leads needs i j → j ∈ done := by
  simp [isReady, Leads]

theorem next?_eq_some {needs : Needs} {done : List Nat} {i : Nat} (h : next? needs done = some i) :
    i < needs.length ∧ i ∉ done ∧ (∀ j, Leads needs i j → j ∈ done) := by
  obtain ⟨hready, hmem⟩ : isReady needs done i = true ∧ i ∈ List.range needs.length :=
    ⟨List.find?_some h, List.mem_of_find?_eq_some h⟩
  exact ⟨List.mem_range.mp hmem, isReady_iff.mp hready⟩

theorem next?_eq_none {needs : Needs} {done : List Nat} :
    next? needs done = none ↔ ∀ i < needs.length, i ∉ done → ∃ j, Leads needs i j ∧ j ∉ done := by
  rw [next?, List.find?_eq_none]
  constructor
  · intro h i hi hid
    have := h i (List.mem_range.mpr hi)
    rw [isReady_iff] at this
    push Not at this
    exact this hid
  · intro h i hi hready
    obtain ⟨hid, hall⟩ := isReady_iff.mp hready
    obtain ⟨j, hj, hjd⟩ := h i (List.mem_range.mp hi) hid
    exact hjd (hall j hj)

/-! ## Partial schedules -/

/-- A schedule of some nodes, each once and after all that it needs. -/
structure IsPartial (needs : Needs) (done : List Nat) : Prop where
  nodup : done.Nodup
  lt : ∀ i ∈ done, i < needs.length
  closed : ∀ i ∈ done, ∀ j, Leads needs i j → j ∈ done
  before : ∀ i ∈ done, ∀ j, Leads needs i j → done.idxOf j < done.idxOf i

theorem IsPartial.nil (needs : Needs) : IsPartial needs [] :=
  ⟨List.nodup_nil, by simp, by simp, by simp⟩

theorem IsPartial.snoc {needs : Needs} {done : List Nat} (h : IsPartial needs done) {i : Nat}
    (hi : next? needs done = some i) : IsPartial needs (done ++ [i]) := by
  obtain ⟨hlt, hid, hall⟩ := next?_eq_some hi
  refine ⟨?_, ?_, ?_, ?_⟩
  · rw [List.nodup_append]
    exact ⟨h.nodup, List.nodup_singleton i, fun a ha b hb hab => hid (by simp_all)⟩
  · intro k hk
    rcases List.mem_append.mp hk with hk | hk
    · exact h.lt k hk
    · rw [List.mem_singleton.mp hk]; exact hlt
  · intro k hk j hj
    rcases List.mem_append.mp hk with hk | hk
    · exact List.mem_append_left _ (h.closed k hk j hj)
    · rw [List.mem_singleton.mp hk] at hj
      exact List.mem_append_left _ (hall j hj)
  · intro k hk j hj
    rcases List.mem_append.mp hk with hk | hk
    · rw [List.idxOf_append_of_mem hk, List.idxOf_append_of_mem (h.closed k hk j hj)]
      exact h.before k hk j hj
    · rw [List.mem_singleton.mp hk] at hj ⊢
      rw [List.idxOf_append_of_mem (hall j hj), List.idxOf_append_of_notMem hid]
      have := List.idxOf_lt_length_of_mem (hall j hj)
      omega

theorem IsPartial.extend {needs : Needs} (n : Nat) :
    ∀ {done : List Nat}, IsPartial needs done → IsPartial needs (extend needs n done) := by
  induction n with
  | zero => intro done h; exact h
  | succ n ih =>
    intro done h
    rw [Schedule.extend]
    split
    · next i hi => exact ih (h.snoc hi)
    · exact h

/-- A schedule as long as the numbering has every node, and each once. -/
theorem IsPartial.perm_range {needs : Needs} {done : List Nat} (h : IsPartial needs done)
    (hlen : needs.length ≤ done.length) : done.Perm (List.range needs.length) := by
  have hsub : done ⊆ List.range needs.length := fun i hi => List.mem_range.mpr (h.lt i hi)
  exact (List.Nodup.subperm h.nodup hsub).perm_of_length_le (by simpa using hlen)

/-- With as many steps as there are nodes left, no node is ready in the end. -/
theorem next?_extend {needs : Needs} (n : Nat) :
    ∀ {done : List Nat}, IsPartial needs done → needs.length ≤ done.length + n →
      next? needs (extend needs n done) = none := by
  induction n with
  | zero =>
    intro done h hlen
    rw [extend, next?_eq_none]
    intro i hi hid
    exact absurd ((h.perm_range hlen).mem_iff.mpr (List.mem_range.mpr hi)) hid
  | succ n ih =>
    intro done h hlen
    rw [extend]
    split
    · next i hi => exact ih (h.snoc hi) (by simp; omega)
    · next hnone => exact hnone

theorem scheduled_isPartial (needs : Needs) : IsPartial needs (scheduled needs) :=
  (IsPartial.nil needs).extend needs.length

theorem next?_scheduled (needs : Needs) : next? needs (scheduled needs) = none :=
  next?_extend needs.length (IsPartial.nil needs) (by simp)

/-! ## What is scheduled and what is left over -/

theorem mem_stuck {needs : Needs} {i : Nat} : i ∈ stuck needs ↔ i < needs.length ∧ i ∉ scheduled needs := by
  simp [stuck]

theorem stuck_sorted (needs : Needs) : (stuck needs).Pairwise (· < ·) := List.pairwise_lt_range.filter _

theorem mem_scheduled_of_reach {needs : Needs} {i j : Nat} (hi : i ∈ scheduled needs)
    (h : ReflTransGen (Leads needs) i j) : j ∈ scheduled needs := by
  induction h with
  | refl => exact hi
  | tail _ hbc ih => exact (scheduled_isPartial needs).closed _ ih _ hbc

theorem idxOf_scheduled_lt {needs : Needs} {i j : Nat} (hi : i ∈ scheduled needs)
    (h : TransGen (Leads needs) i j) : (scheduled needs).idxOf j < (scheduled needs).idxOf i := by
  induction h with
  | single hb => exact (scheduled_isPartial needs).before i hi _ hb
  | tail hab hbc ih =>
    exact Nat.lt_trans ((scheduled_isPartial needs).before _ (mem_scheduled_of_reach hi hab.to_reflTransGen) _ hbc) ih

theorem not_mem_scheduled_of_cycle {needs : Needs} {i : Nat} (h : TransGen (Leads needs) i i) :
    i ∉ scheduled needs := fun hi => Nat.lt_irrefl _ (idxOf_scheduled_lt hi h)

/-! ## Needs that only point backwards -/

theorem next?_range {needs : Needs} (hback : ∀ i j, Leads needs i j → j < i) {k : Nat}
    (hk : k < needs.length) : next? needs (List.range k) = some k := by
  rw [next?, List.find?_range_eq_some]
  refine ⟨?_, List.mem_range.mpr hk, ?_⟩
  · rw [isReady_iff]
    exact ⟨by simp, fun j hj => List.mem_range.mpr (hback k j hj)⟩
  · intro j hj
    simp [isReady, hj]

theorem extend_range {needs : Needs} (hback : ∀ i j, Leads needs i j → j < i) (n : Nat) :
    ∀ k, k + n = needs.length → extend needs n (List.range k) = List.range needs.length := by
  induction n with
  | zero => intro k hk; rw [extend, ← hk, Nat.add_zero]
  | succ n ih =>
    intro k hk
    rw [extend, next?_range hback (by omega)]
    show extend needs n (List.range k ++ [k]) = _
    rw [← List.range_succ]
    exact ih (k + 1) (by omega)

theorem scheduled_of_backward {needs : Needs} (hback : ∀ i j, Leads needs i j → j < i) :
    scheduled needs = List.range needs.length :=
  extend_range hback needs.length 0 (Nat.zero_add _)

end Tributary.Schedule
