import Mathlib.Data.List.TakeDrop
import Tributary.Decimal.Basic

/-!
# Decimal digits

* `ofDigits_toDigits` : the digits of a number have its value;
* `ofDigits_zeros` : zeros in front do not count;
* `spanDigits_append` : a run of digits ends where its digits end;
* `toDigits_eq_cons` : the first digit of a number is zero only if it is the only one.
-/

namespace Tributary.Decimal

theorem ofDigits_toDigits (n : Nat) : ofDigits (Nat.toDigits 10 n) = n := Nat.ofDigitChars_ten_toDigits

theorem ofDigits_zeros (k : Nat) (cs : List Char) : ofDigits (List.replicate k '0' ++ cs) = ofDigits cs := by
  induction k with
  | zero => rfl
  | succ k ih =>
    rw [List.replicate_succ, List.cons_append]
    exact ih

theorem isDigit_toDigits (n : Nat) : (Nat.toDigits 10 n).all Char.isDigit = true :=
  List.all_eq_true.mpr fun _ hc => Nat.isDigit_of_mem_toDigits (by decide) (by decide) hc

/-- A run of digits ends in front of the first character that is no digit. -/
theorem spanDigits_append {cs rest : List Char} (h : cs.all Char.isDigit = true)
    (hrest : ∀ c ∈ rest.head?, c.isDigit = false) : spanDigits (cs ++ rest) = (cs, rest) := by
  have hall := List.all_eq_true.mp h
  rw [spanDigits, List.span_eq_takeWhile_dropWhile, List.takeWhile_append_of_pos hall,
    List.dropWhile_append_of_pos hall]
  cases rest with
  | nil => simp
  | cons c rest => simp [hrest c (by simp)]

theorem spanDigits_of_all {cs : List Char} (h : cs.all Char.isDigit = true) : spanDigits cs = (cs, []) := by
  have hspan : spanDigits (cs ++ []) = (cs, []) := spanDigits_append h (by simp)
  rwa [List.append_nil] at hspan

/-- The digits of a number do not start with a zero, but for that of zero itself. -/
theorem toDigits_eq_cons {n : Nat} (hn : n ≠ 0) : ∃ c cs, Nat.toDigits 10 n = c :: cs ∧ c ≠ '0' := by
  induction n using Nat.strongRecOn with
  | _ n ih =>
    by_cases hlt : n < 10
    · refine ⟨n.digitChar, [], Nat.toDigits_of_lt_base hlt, ?_⟩
      rw [Ne, Nat.digitChar_eq_zero]
      exact hn
    · obtain ⟨c, cs, heq, hc⟩ := ih (n / 10) (by omega) (by omega)
      refine ⟨c, cs ++ [(n % 10).digitChar], ?_, hc⟩
      rw [Nat.toDigits_of_base_le (by decide) (by omega), heq, List.cons_append]

end Tributary.Decimal
