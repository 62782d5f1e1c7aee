import Mathlib.Data.Fintype.EquivFin
import Mathlib.Order.WellFounded
import Tributary.Proofs.Schedule.Loop

/-!
# Orders of nodes

* `IsOrder n r order` : `order` has each of `n` nodes once, and each after all that it is related to;
* `mem_stuck_iff` : the nodes left over are those from which a cycle can be reached;
* `solve_of_acyclic` : without a cycle there is a schedule of all nodes;
* `scheduled_isOrder`, `scheduled_least` : it is an order of the nodes, and no order comes before it;
* `solve_exact` : all outcomes.
-/

namespace Tributary

/-- Each of `n` nodes once, and each after all that it is related to. -/
structure IsOrder (n : Nat) (r : Nat → Nat → Prop) (order : List Nat) : Prop where
  perm : order.Perm (List.range n)
  before : ∀ i j, r i j → order.idxOf j < order.idxOf i

namespace Schedule

open Relation

variable {needs : Needs}

/-! ## Without cycles -/

/-- What is left over needs something that is left over. -/
theorem exists_leads_of_stuck {i : Nat} (hi : i ∈ stuck needs) : ∃ j ∈ stuck needs, Leads needs i j := by
  obtain ⟨hlt, hnot⟩ := mem_stuck.mp hi
  obtain ⟨j, hj, hjnot⟩ := next?_eq_none.mp (next?_scheduled needs) i hlt hnot
  exact ⟨j, mem_stuck.mpr ⟨hj.lt_right, hjnot⟩, hj⟩

/-- Among the nodes that `i` leads to, without a cycle there are no endless ways. -/
theorem wellFounded_of_acyclic {i : Nat} (h : ∀ k, ReflTransGen (Leads needs) i k → ¬ TransGen (Leads needs) k k) :
    WellFounded fun a b : Fin needs.length => ReflTransGen (Leads needs) i b ∧ TransGen (Leads needs) b a := by
  have : IsTrans _ fun a b : Fin needs.length => ReflTransGen (Leads needs) i b ∧ TransGen (Leads needs) b a :=
    ⟨fun _ _ _ hab hbc => ⟨hbc.1, hbc.2.trans hab.2⟩⟩
  have : Std.Irrefl fun a b : Fin needs.length => ReflTransGen (Leads needs) i b ∧ TransGen (Leads needs) b a :=
    ⟨fun a ha => h a ha.1 ha.2⟩
  exact Finite.wellFounded_of_trans_of_irrefl _

/-- From what is left over a cycle can be reached. -/
theorem exists_cycle_of_stuck {i : Nat} (hi : i ∈ stuck needs) :
    ∃ k, ReflTransGen (Leads needs) i k ∧ TransGen (Leads needs) k k := by
  by_contra hnone
  have hacyclic : ∀ k, ReflTransGen (Leads needs) i k → ¬ TransGen (Leads needs) k k :=
    fun k hik hk => hnone ⟨k, hik, hk⟩
  -- One of the nodes left over that `i` leads to would lead to no other of them.
  obtain ⟨low, ⟨hlow, hreach⟩, hmin⟩ := (wellFounded_of_acyclic hacyclic).has_min
    {a | a.val ∈ stuck needs ∧ ReflTransGen (Leads needs) i a} ⟨⟨i, (mem_stuck.mp hi).1⟩, hi, .refl⟩
  obtain ⟨j, hj, hleads⟩ := exists_leads_of_stuck hlow
  exact hmin ⟨j, hleads.lt_right⟩ ⟨hj, hreach.tail hleads⟩ ⟨hreach, .single hleads⟩

theorem mem_stuck_iff {i : Nat} :
    i ∈ stuck needs ↔ ∃ k, ReflTransGen (Leads needs) i k ∧ TransGen (Leads needs) k k := by
  refine ⟨exists_cycle_of_stuck, ?_⟩
  rintro ⟨k, hik, hk⟩
  have hlt : i < needs.length := by
    rcases ReflTransGen.cases_head hik with rfl | ⟨j, hij, -⟩
    · obtain ⟨j, hij, -⟩ := TransGen.head'_iff.mp hk
      exact hij.lt_left
    · exact hij.lt_left
  exact mem_stuck.mpr ⟨hlt, fun hi => not_mem_scheduled_of_cycle hk (mem_scheduled_of_reach hi hik)⟩

theorem scheduled_perm_of_acyclic (h : ∀ k, ¬ TransGen (Leads needs) k k) :
    (scheduled needs).Perm (List.range needs.length) := by
  have hall : ∀ i < needs.length, i ∈ scheduled needs := by
    intro i hi
    by_contra hnot
    obtain ⟨k, -, hk⟩ := exists_cycle_of_stuck (mem_stuck.mpr ⟨hi, hnot⟩)
    exact h k hk
  refine (List.perm_ext_iff_of_nodup (scheduled_isPartial needs).nodup List.nodup_range).mpr fun i => ?_
  rw [List.mem_range]
  exact ⟨(scheduled_isPartial needs).lt i, hall i⟩

theorem solve_of_acyclic (h : ∀ k, ¬ TransGen (Leads needs) k k) : solve needs = .order (scheduled needs) := by
  have hlen := (scheduled_perm_of_acyclic h).length_eq
  rw [List.length_range] at hlen
  rw [solve_eq, if_pos hlen]

theorem scheduled_isOrder (h : ∀ k, ¬ TransGen (Leads needs) k k) :
    IsOrder needs.length (Leads needs) (scheduled needs) := by
  have hperm := scheduled_perm_of_acyclic h
  refine ⟨hperm, fun i j hij => ?_⟩
  exact (scheduled_isPartial needs).before i (hperm.mem_iff.mpr (List.mem_range.mpr hij.lt_left)) j hij

/-! ## The least order -/

theorem extend_prefix (needs : Needs) (n : Nat) (done : List Nat) : done <+: extend needs n done := by
  induction n generalizing done with
  | zero => exact List.prefix_refl done
  | succ n ih =>
    rw [extend]
    split
    · next i _ => exact (List.prefix_append done [i]).trans (ih _)
    · exact List.prefix_refl done

/-- The node that an order has next is ready. -/
theorem isReady_of_isOrder {done rest : List Nat} {a : Nat}
    (h : IsOrder needs.length (Leads needs) (done ++ a :: rest)) : isReady needs done a = true := by
  have hnodup : (done ++ a :: rest).Nodup := h.perm.nodup_iff.mpr List.nodup_range
  have hnot : a ∉ done := fun ha => (List.nodup_append.mp hnodup).2.2 a ha a List.mem_cons_self rfl
  refine isReady_iff.mpr ⟨hnot, fun j hj => ?_⟩
  have hbefore := h.before a j hj
  rw [List.idxOf_append_of_notMem hnot, List.idxOf_cons_self, Nat.add_zero] at hbefore
  by_contra hjnot
  rw [List.idxOf_append_of_notMem hjnot] at hbefore
  omega

/-- Of the nodes that are ready the lowest is next. -/
theorem next?_le {done : List Nat} {a : Nat} (ha : a < needs.length) (hready : isReady needs done a = true) :
    ∃ i, next? needs done = some i ∧ i ≤ a := by
  cases hnext : next? needs done with
  | none =>
    have hnone := List.find?_eq_none.mp hnext a (List.mem_range.mpr ha)
    exact absurd hready hnone
  | some i =>
    refine ⟨i, rfl, ?_⟩
    obtain ⟨-, -, hlow⟩ := List.find?_range_eq_some.mp hnext
    by_contra hlt
    have hnot := hlow a (by omega)
    rw [hready] at hnot
    cases hnot

/-- No order of all nodes that starts as the schedule does comes before it. -/
theorem extend_least (n : Nat) {done rest : List Nat} (hlen : rest.length = n)
    (h : IsOrder needs.length (Leads needs) (done ++ rest)) :
    extend needs n done = done ++ rest ∨ List.Lex (· < ·) (extend needs n done) (done ++ rest) := by
  induction n generalizing done rest with
  | zero =>
    obtain rfl := List.length_eq_zero_iff.mp hlen
    exact .inl (List.append_nil done).symm
  | succ n ih =>
    obtain ⟨a, rest, rfl⟩ := List.exists_cons_of_length_eq_add_one hlen
    have ha : a < needs.length := List.mem_range.mp (h.perm.mem_iff.mp (by simp))
    obtain ⟨i, hi, hle⟩ := next?_le ha (isReady_of_isOrder h)
    rw [extend, hi]
    dsimp only
    by_cases hia : i = a
    · subst hia
      have hsplit : done ++ i :: rest = done ++ [i] ++ rest := List.append_cons done i rest
      rw [hsplit] at h ⊢
      exact ih (by simpa using hlen) h
    · obtain ⟨t, ht⟩ := extend_prefix needs n (done ++ [i])
      rw [← ht, List.append_assoc]
      exact .inr (List.append_left_lt (List.Lex.rel (Nat.lt_of_le_of_ne hle hia)))

/-- The schedule is the first of all orders, compared node by node. -/
theorem scheduled_least {other : List Nat} (h : IsOrder needs.length (Leads needs) other) :
    scheduled needs = other ∨ List.Lex (· < ·) (scheduled needs) other := by
  have hlen : other.length = needs.length := by simpa using h.perm.length_eq
  exact extend_least needs.length hlen (show IsOrder needs.length (Leads needs) ([] ++ other) from h)

/-! ## All outcomes -/

/-- Nodes that can be put in order have no cycle. -/
theorem acyclic_of_isOrder {order : List Nat} (h : IsOrder needs.length (Leads needs) order) (k : Nat) :
    ¬ TransGen (Leads needs) k k := by
  have hlt : ∀ {i j : Nat}, TransGen (Leads needs) i j → order.idxOf j < order.idxOf i := by
    intro i j hij
    induction hij with
    | single hb => exact h.before _ _ hb
    | tail _ hbc ih => exact Nat.lt_trans (h.before _ _ hbc) ih
  exact fun hk => Nat.lt_irrefl _ (hlt hk)

theorem solve_of_cycle {k : Nat} (hk : TransGen (Leads needs) k k) : solve needs = .cycle (stuck needs) := by
  rw [solve_eq, if_neg]
  intro hlen
  have hperm := (scheduled_isPartial needs).perm_range (Nat.le_of_eq hlen.symm)
  obtain ⟨j, hj, -⟩ := TransGen.head'_iff.mp hk
  exact not_mem_scheduled_of_cycle hk (hperm.mem_iff.mpr (List.mem_range.mpr hj.lt_left))

theorem solve_eq_order_iff {order : List Nat} : solve needs = .order order ↔
    IsOrder needs.length (Leads needs) order ∧
      ∀ other, IsOrder needs.length (Leads needs) other → order = other ∨ List.Lex (· < ·) order other := by
  constructor
  · intro h
    have hacyclic : ∀ k, ¬ TransGen (Leads needs) k k := by
      intro k hk
      rw [solve_of_cycle hk] at h
      cases h
    obtain rfl := (solve_eq_order h).1
    exact ⟨scheduled_isOrder hacyclic, fun other hother => scheduled_least hother⟩
  · rintro ⟨horder, hleast⟩
    have hacyclic := acyclic_of_isOrder horder
    rw [solve_of_acyclic hacyclic]
    -- Neither of the two orders comes before the other.
    rcases scheduled_least horder with heq | hlt
    · rw [heq]
    · rcases hleast _ (scheduled_isOrder hacyclic) with heq | hgt
      · rw [heq]
      · exact absurd hgt (List.lt_asymm hlt)

theorem solve_eq_cycle_iff {nodes : List Nat} : solve needs = .cycle nodes ↔
    (∃ k, TransGen (Leads needs) k k) ∧ nodes.Pairwise (· < ·) ∧
      ∀ i, i ∈ nodes ↔ ∃ k, ReflTransGen (Leads needs) i k ∧ TransGen (Leads needs) k k := by
  constructor
  · intro h
    have hcyclic : ∃ k, TransGen (Leads needs) k k := by
      by_contra hnone
      rw [solve_of_acyclic fun k hk => hnone ⟨k, hk⟩] at h
      cases h
    obtain ⟨k, hk⟩ := hcyclic
    rw [solve_of_cycle hk] at h
    cases h
    exact ⟨⟨k, hk⟩, stuck_sorted needs, fun i => mem_stuck_iff⟩
  · rintro ⟨⟨k, hk⟩, hsorted, hmem⟩
    rw [solve_of_cycle hk]
    have hnodes : stuck needs = nodes :=
      (stuck_sorted needs).eq_of_mem_iff hsorted fun i => mem_stuck_iff.trans (hmem i).symm
    rw [hnodes]

/-- What is made of any needs, those outside of the numbering ignored. The loop comes to its end, and no count
goes below zero on the way. There is a schedule if and only if no node leads back to itself. It is then the first
of all orders in which each node comes after those that it needs; else the nodes left over are given in increasing
order, and these are the nodes from which a cycle can be reached. -/
theorem solve_exact (needs : Needs) :
    (∃ done, walk needs = some done) ∧
    (∀ i j, Leads needs i j ↔ ∃ own, needs[i]? = some own ∧ j ∈ own ∧ j < needs.length) ∧
    ((∃ order, solve needs = .order order) ↔ ∀ k, ¬ TransGen (Leads needs) k k) ∧
    (∀ order, solve needs = .order order ↔ IsOrder needs.length (Leads needs) order ∧
      ∀ other, IsOrder needs.length (Leads needs) other → order = other ∨ List.Lex (· < ·) order other) ∧
    ∀ nodes, solve needs = .cycle nodes ↔ (∃ k, TransGen (Leads needs) k k) ∧ nodes.Pairwise (· < ·) ∧
      ∀ i, i ∈ nodes ↔ ∃ k, ReflTransGen (Leads needs) i k ∧ TransGen (Leads needs) k k := by
  refine ⟨⟨_, walk_eq needs⟩, fun i j => leads_iff, ⟨?_, ?_⟩, fun order => solve_eq_order_iff,
    fun nodes => solve_eq_cycle_iff⟩
  · rintro ⟨order, horder⟩
    exact acyclic_of_isOrder (solve_eq_order_iff.mp horder).1
  · intro hacyclic
    exact ⟨_, solve_of_acyclic hacyclic⟩

-- The needs of one node lie outside of the numbering; two nodes of the other graph need each other, and one needs itself.
example : solve [[2, 7], [], [1], [0, 1]] = .order [1, 2, 0, 3] := by decide
example : solve [[1], [0], [], [2, 4], [4], [3]] = .cycle [0, 1, 3, 4, 5] := by decide

end Schedule

end Tributary
