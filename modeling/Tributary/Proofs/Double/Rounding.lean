import Mathlib.Algebra.Ring.Nat
import Tributary.Double

/-!
# Whole numbers among the doubles

The doubles from zero on are numbered by their bits, in the order of their values. A whole number with its leading bit
at `e` lies among the `2 ^ 52` of them that start at `2 ^ e` and lie `2 ^ e / 2 ^ 52` apart, or is nearest to the first
one after them; one division says to which.

* `nearestQuotient a b` : the whole number nearest to `a / b`, the even one of two;
* `Double.nearestPlace n` : the place of the double that is nearest to `n`;
* `Double.nearestPlace_mono` : a greater number has no smaller place;
* `Double.nearestPlace_inj` : up to `2 ^ 53` no two numbers have the same place.
-/

namespace Tributary

/-- The whole number nearest to a quotient, the even one of two that are equally near. -/
def nearestQuotient (a b : Nat) : Nat :=
  if 2 * (a % b) < b then a / b
  else if 2 * (a % b) = b then a / b + a / b % 2
  else a / b + 1

theorem nearestQuotient_bounds (a b : Nat) : a / b ≤ nearestQuotient a b ∧ nearestQuotient a b ≤ a / b + 1 := by
  unfold nearestQuotient
  split_ifs <;> omega

theorem nearestQuotient_mono {a a' : Nat} (b : Nat) (h : a ≤ a') : nearestQuotient a b ≤ nearestQuotient a' b := by
  rcases Nat.lt_or_eq_of_le (Nat.div_le_div_right h : a / b ≤ a' / b) with hlt | heq
  · have hupper := (nearestQuotient_bounds a b).2
    have hlower := (nearestQuotient_bounds a' b).1
    omega
  · -- between two whole numbers the rest decides
    have hrest : a % b ≤ a' % b := by
      have ha := Nat.div_add_mod a b
      have ha' := Nat.div_add_mod a' b
      rw [heq] at ha
      omega
    unfold nearestQuotient
    rw [heq]
    split_ifs <;> omega

theorem nearestQuotient_mul_self (a : Nat) {b : Nat} (hb : 0 < b) : nearestQuotient (a * b) b = a := by
  rw [nearestQuotient, Nat.mul_mod_left, if_pos (by omega), Nat.mul_div_cancel a hb]

theorem nearestQuotient_mul_right (a b : Nat) {c : Nat} (hc : 0 < c) :
    nearestQuotient (a * c) (b * c) = nearestQuotient a b := by
  have hlt : 2 * (a % b * c) < b * c ↔ 2 * (a % b) < b := by
    rw [← Nat.mul_assoc, Nat.mul_lt_mul_right hc]
  have heq : 2 * (a % b * c) = b * c ↔ 2 * (a % b) = b := by
    rw [← Nat.mul_assoc, Nat.mul_left_inj (Nat.ne_of_gt hc)]
  simp only [nearestQuotient, Nat.mul_mod_mul_right, Nat.mul_div_mul_right a b hc, hlt, heq]

namespace Double

theorem log2_mul_two_pow {n : Nat} (hn : n ≠ 0) (k : Nat) : (n * 2 ^ k).log2 = n.log2 + k := by
  obtain ⟨hlow, hhigh⟩ := (Nat.log2_eq_iff hn).mp rfl
  refine (Nat.log2_eq_iff (Nat.mul_ne_zero hn (Nat.ne_of_gt (Nat.two_pow_pos k)))).mpr ⟨?_, ?_⟩
  · rw [Nat.pow_add]
    exact Nat.mul_le_mul_right _ hlow
  · rw [Nat.add_right_comm, Nat.pow_add]
    exact Nat.mul_lt_mul_of_pos_right hhigh (Nat.two_pow_pos k)

/-- A number that loses all its bits but 53 keeps 53 bits, or becomes the next power of two. -/
theorem nearestQuotient_two_pow {m k : Nat} (hm : m.log2 = 52 + k) :
    2 ^ 52 ≤ nearestQuotient m (2 ^ k) ∧ nearestQuotient m (2 ^ k) ≤ 2 ^ 53 := by
  have hne : m ≠ 0 := by
    rintro rfl
    rw [Nat.log2_zero] at hm
    omega
  obtain ⟨hlow, hhigh⟩ := (Nat.log2_eq_iff hne).mp hm
  have hpos := Nat.two_pow_pos k
  have hfloor : 2 ^ 52 ≤ m / 2 ^ k := by rwa [Nat.le_div_iff_mul_le hpos, ← Nat.pow_add]
  have hceil : m / 2 ^ k < 2 ^ 53 := by
    rw [Nat.div_lt_iff_lt_mul hpos, ← Nat.pow_add]
    rwa [Nat.add_right_comm] at hhigh
  have hbounds := nearestQuotient_bounds m (2 ^ k)
  omega

theorem log2_scaled {n : Nat} (hn : n ≠ 0) : (n * 2 ^ 52).log2 = 52 + n.log2 := by
  rw [log2_mul_two_pow hn, Nat.add_comm]

/-- The place of the double that is nearest to a number, the even one of two. -/
def nearestPlace (n : Nat) : Nat :=
  if n = 0 then 0 else (n.log2 + 1022) * 2 ^ 52 + nearestQuotient (n * 2 ^ 52) (2 ^ n.log2)

theorem nearestPlace_bounds {n : Nat} (hn : n ≠ 0) :
    (n.log2 + 1023) * 2 ^ 52 ≤ nearestPlace n ∧ nearestPlace n ≤ (n.log2 + 1024) * 2 ^ 52 := by
  obtain ⟨hlow, hhigh⟩ := nearestQuotient_two_pow (log2_scaled hn)
  rw [nearestPlace, if_neg hn]
  omega

theorem nearestPlace_eq_zero {n : Nat} : nearestPlace n = 0 ↔ n = 0 := by
  refine ⟨fun h => ?_, fun h => if_pos h⟩
  by_contra hn
  have := (nearestPlace_bounds hn).1
  omega

theorem nearestPlace_lt {n : Nat} (h : n < 2 ^ 64) : nearestPlace n < 2 ^ 63 := by
  by_cases hn : n = 0
  · rw [nearestPlace_eq_zero.mpr hn]
    decide
  have hlog : n.log2 < 64 := (Nat.log2_lt hn).mpr h
  have hupper := (nearestPlace_bounds hn).2
  omega

theorem nearestPlace_mono {m n : Nat} (h : m ≤ n) : nearestPlace m ≤ nearestPlace n := by
  by_cases hm : m = 0
  · rw [nearestPlace_eq_zero.mpr hm]
    exact Nat.zero_le _
  have hn : n ≠ 0 := by omega
  have hlog : m.log2 ≤ n.log2 := (Nat.le_log2 hn).mpr (Nat.le_trans (Nat.log2_self_le hm) h)
  rcases Nat.lt_or_eq_of_le hlog with hlt | heq
  · have hupper := (nearestPlace_bounds hm).2
    have hlower := (nearestPlace_bounds hn).1
    omega
  · have hquotient := nearestQuotient_mono (2 ^ n.log2) (Nat.mul_le_mul_right (2 ^ 52) h)
    rw [nearestPlace, nearestPlace, if_neg hm, if_neg hn, heq]
    omega

/-- Up to `2 ^ 53` nothing is rounded away. -/
theorem nearestPlace_exact {n : Nat} (hn : n ≠ 0) (h : n ≤ 2 ^ 53) :
    ∃ q, nearestPlace n = (n.log2 + 1022) * 2 ^ 52 + q ∧ 2 ^ 52 ≤ q ∧ q < 2 ^ 53 ∧ n * 2 ^ 52 = q * 2 ^ n.log2 := by
  have hdvd : 2 ^ n.log2 ∣ n * 2 ^ 52 := by
    rcases Nat.lt_or_eq_of_le h with hlt | rfl
    · have hlog : n.log2 < 53 := (Nat.log2_lt hn).mpr hlt
      exact Nat.dvd_mul_left_of_dvd (Nat.pow_dvd_pow 2 (by omega)) n
    · rw [Nat.log2_two_pow]
      exact Nat.dvd_mul_right _ _
  obtain ⟨q, hq⟩ := hdvd
  rw [Nat.mul_comm (2 ^ n.log2)] at hq
  have hquotient : nearestQuotient (n * 2 ^ 52) (2 ^ n.log2) = q := by
    rw [hq, nearestQuotient_mul_self q (Nat.two_pow_pos _)]
  have hlow := (nearestQuotient_two_pow (log2_scaled hn)).1
  rw [hquotient] at hlow
  have hhigh : q < 2 ^ 53 := by
    have hlt : n < 2 ^ n.log2 * 2 := Nat.lt_log2_self
    refine Nat.lt_of_mul_lt_mul_right (a := 2 ^ n.log2) ?_
    omega
  exact ⟨q, by rw [nearestPlace, if_neg hn, hquotient], hlow, hhigh, hq⟩

theorem nearestPlace_inj {m n : Nat} (hm : m ≤ 2 ^ 53) (hn : n ≤ 2 ^ 53) (h : nearestPlace m = nearestPlace n) :
    m = n := by
  have hzero : m = 0 ↔ n = 0 := by rw [← nearestPlace_eq_zero, h, nearestPlace_eq_zero]
  by_cases hm0 : m = 0
  · exact hm0.trans (hzero.mp hm0).symm
  have hn0 := mt hzero.mpr hm0
  obtain ⟨p, hp, hplow, hphigh, hpm⟩ := nearestPlace_exact hm0 hm
  obtain ⟨q, hq, hqlow, hqhigh, hqn⟩ := nearestPlace_exact hn0 hn
  -- The numbers agree in their leading bit, and then in the rest.
  have hlog : m.log2 = n.log2 := by omega
  obtain rfl : p = q := by omega
  rw [hlog, ← hqn] at hpm
  omega

end Double

end Tributary
