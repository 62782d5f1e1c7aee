import Tributary.Proofs.Double.Rounding

/-!
# The machine's conversion of whole numbers

The machine makes a double of a whole number by shifting its mantissa to 53 bits, rounding by the bits that were shifted
out, and packing the result into 64 bits; below `2 ^ 53` it multiplies the result by one. The bits that come out are the
place of the nearest double, and with a sign they are ordered as the numbers are.

* `roundedMantissa_shiftRight` : shifting and rounding is one division;
* `toNat_pack_round` : the bits of a mantissa after rounding;
* `toNat_bits_ofNat` : the bits of the double of a natural number;
* `rank_ofInt_mono` : the doubles of 64-bit integers are in the order of the integers, or equal;
* `ofInt_inj` : those of integers up to `2 ^ 53` are different.
-/

namespace Tributary.Double

open Float.Model Float.Model.UnpackedFloat

/-! ## Shifting and rounding -/

/-- A shift keeps the last bit that is shifted out, and whether any before it was set. -/
theorem shiftRight_succ (m k : Nat) :
    (⟨m, false, false⟩ : ExtendedMantissa) >>> (k + 1) =
      ⟨m / 2 ^ (k + 1), m / 2 ^ k % 2 != 0, m % 2 ^ k != 0⟩ := by
  induction k with
  | zero => simp [HShiftRight.hShiftRight, Nat.repeat, ExtendedMantissa.shiftRightOne, Nat.mod_one]
  | succ k ih =>
    have hstep : (⟨m, false, false⟩ : ExtendedMantissa) >>> (k + 1 + 1) =
        ((⟨m, false, false⟩ : ExtendedMantissa) >>> (k + 1)).shiftRightOne := rfl
    have hsticky : (m / 2 ^ k % 2 != 0 || m % 2 ^ k != 0) = (m % 2 ^ (k + 1) != 0) := by
      rw [Nat.pow_succ, Nat.mod_mul]
      rcases Nat.mod_two_eq_zero_or_one (m / 2 ^ k) with hbit | hbit <;> simp [hbit]
    rw [hstep, ih, ExtendedMantissa.shiftRightOne, hsticky, Nat.div_div_eq_div_mul, ← Nat.pow_succ]

theorem roundedMantissa_shiftRight (m k : Nat) :
    ((⟨m, false, false⟩ : ExtendedMantissa) >>> k).roundedMantissa = nearestQuotient m (2 ^ k) := by
  cases k with
  | zero =>
    have hexact := nearestQuotient_mul_self m Nat.one_pos
    rw [Nat.mul_one] at hexact
    rw [Nat.pow_zero, hexact]
    rfl
  | succ k =>
    have hlt := Nat.mod_lt m (Nat.two_pow_pos k)
    have hrest : m % 2 ^ (k + 1) = m % 2 ^ k + 2 ^ k * (m / 2 ^ k % 2) := by rw [Nat.pow_succ, Nat.mod_mul]
    rw [shiftRight_succ, nearestQuotient, hrest, Nat.pow_succ]
    -- The last bit and the bits before it tell whether the rest is below, at or above one half.
    rcases Nat.mod_two_eq_zero_or_one (m / 2 ^ k) with hround | hround <;>
      rcases Nat.eq_zero_or_pos (m % 2 ^ k) with hsticky | hsticky <;>
      simp [ExtendedMantissa.roundedMantissa, ExtendedMantissa.accuracy, Accuracy.roundToNearestEven, hround,
        hsticky] <;>
      grind

theorem mantissaBits_binary64 : Format.binary64.mantissaBits = 53 := rfl

/-- A number whose leading bit is at `52 + k` loses its last `k` bits. -/
theorem shiftToTargetExponent_eq {m k : Nat} {x : Int} (hm : m.log2 = 52 + k) (hx : -1074 ≤ x + k) :
    shiftToTargetExponent Format.binary64 m x .exact = ((⟨m, false, false⟩ : ExtendedMantissa) >>> k, x + k) := by
  have htarget : Format.binary64.targetExponent (totalExponent m x) = x + k := by
    simp only [Format.targetExponent, totalExponent, mantissaBits_binary64, Format.minExponent, hm]
    omega
  have hshift : (x + k - x).toNat = k := by omega
  rw [shiftToTargetExponent, htarget, shiftToExponent]
  simp only [hshift, ExtendedMantissa.ofMantissaAndAccuracy]

theorem finite_congr {s s' : Sign} {m m' : Nat} {x x' : Int} {hpos : 0 < m} {hpos' : 0 < m'} (hs : s = s')
    (hm : m = m') (hx : x = x') : UnpackedFloat.finite s m x hpos = .finite s' m' x' hpos' := by
  subst hs hm hx
  rfl

theorem mul_finite (s t : Sign) {m n : Nat} {x y : Int} (hm : 0 < m) (hn : 0 < n) :
    UnpackedFloat.mul Format.binary64 (.finite s m x hm) (.finite t n y hn) =
      roundWithAccuracy Format.binary64 (s * t) (m * n) (x + y) .exact := rfl

/-- Rounding leaves a mantissa of 53 bits. If it has become a power of two, it is halved and the exponent raised, which
makes no difference to the bits. -/
theorem roundWithAccuracy_exact (s : Sign) {m k : Nat} {x : Int} (hm : m.log2 = 52 + k) (hx : -1074 ≤ x + k) :
    ∃ m' x' hpos, roundWithAccuracy Format.binary64 s m x .exact = .finite s m' x' hpos ∧ m'.log2 = 52 ∧
      x + k ≤ x' ∧ x' ≤ x + k + 1 ∧
      (x' + 1074).toNat * 2 ^ 52 + m' = (x + k + 1074).toNat * 2 ^ 52 + nearestQuotient m (2 ^ k) := by
  obtain ⟨hlow, hhigh⟩ := nearestQuotient_two_pow hm
  delta roundWithAccuracy
  rw [shiftToTargetExponent_eq hm hx]
  dsimp only
  rw [roundedMantissa_shiftRight m k]
  generalize nearestQuotient m (2 ^ k) = q at *
  rcases Nat.lt_or_eq_of_le hhigh with hlt | rfl
  · have hne : q ≠ 0 := by omega
    have hlog : q.log2 = 52 + 0 := (Nat.log2_eq_iff hne).mpr ⟨hlow, hlt⟩
    rw [shiftToTargetExponent_eq hlog (by omega)]
    refine ⟨q, x + k, by omega, ?_, hlog, by omega, by omega, rfl⟩
    exact (dif_neg hne).trans (finite_congr rfl rfl (Int.add_zero _))
  · have hlog : (2 ^ 53 : Nat).log2 = 52 + 1 := Nat.log2_two_pow
    rw [shiftToTargetExponent_eq hlog (by omega)]
    exact ⟨2 ^ 52, x + k + 1, by decide, rfl, Nat.log2_two_pow, by omega, by omega, by omega⟩

/-- Nothing is lost of a mantissa that has 53 bits and zeros after them. -/
theorem roundWithAccuracy_mul_two_pow (s : Sign) {m k : Nat} {x : Int} (hpos : 0 < m) (hm : m.log2 = 52)
    (hx : -1074 ≤ x + k) : roundWithAccuracy Format.binary64 s (m * 2 ^ k) x .exact = .finite s m (x + k) hpos := by
  have hlog : (m * 2 ^ k).log2 = 52 + k := by rw [log2_mul_two_pow (by omega), hm]
  obtain ⟨m', x', hpos', hround, hlog', hlow, hhigh, hbits⟩ := roundWithAccuracy_exact s hlog hx
  obtain ⟨hmlow, hmhigh⟩ := (Nat.log2_eq_iff (by omega)).mp hm
  obtain ⟨hmlow', hmhigh'⟩ := (Nat.log2_eq_iff (by omega)).mp hlog'
  rw [nearestQuotient_mul_self m (Nat.two_pow_pos k)] at hbits
  obtain rfl : x' = x + k := by omega
  obtain rfl : m' = m := by omega
  exact hround

/-! ## Packing -/

theorem toNat_append {v w : Nat} (high : BitVec v) (low : BitVec w) :
    (high ++ low).toNat = high.toNat * 2 ^ w + low.toNat := by
  rw [BitVec.toNat_append, ← Nat.shiftLeft_add_eq_or_of_lt low.isLt, Nat.shiftLeft_eq]

theorem toNat_packComponents (exponent : BitVec 11) (fraction : BitVec 52) :
    (packComponents Format.binary64 .positive exponent fraction).toNat =
      exponent.toNat * 2 ^ 52 + fraction.toNat := by
  have hsign : (Sign.toBitVec .positive).toNat = 0 := rfl
  rw [packComponents, toNat_append, toNat_append, hsign, Nat.zero_mul, Nat.zero_add]

theorem sign_packComponents (s : Sign) (exponent : BitVec 11) (fraction : BitVec 52) :
    Sign.ofBitVec (unpackSign (packComponents Format.binary64 s exponent fraction)) = s := by
  delta unpackSign packComponents BitVec.extractLsb
  rw [BitVec.extractLsb'_append_eq_of_le (by decide), BitVec.extractLsb'_append_eq_of_le (by decide)]
  cases s <;> rfl

section Normal
variable {m : Nat} {x : Int}

/-- Of a mantissa of 53 bits the leading one is not kept. -/
theorem pack_finite (hpos : 0 < m) (hm : m.log2 = 52) (hlow : -1074 ≤ x) (hhigh : x ≤ 971) :
    UnpackedFloat.pack Format.binary64 (.finite .positive m x hpos) =
      packComponents Format.binary64 .positive (BitVec.ofNat 11 (x + 1075).toNat) (BitVec.ofNat 52 m) := by
  have hbits : m.log2 + 1 = Format.binary64.mantissaBits := by rw [hm, mantissaBits_binary64]
  have hbias : (x + (Format.binary64.exponentBias : Int) + (52 : Nat)).toNat = (x + 1075).toNat := by
    simp only [Format.exponentBias]
    omega
  delta UnpackedFloat.pack
  dsimp only
  rw [hbias, if_neg (by omega), if_pos hbits]

theorem toNat_pack_finite (hpos : 0 < m) (hm : m.log2 = 52) (hlow : -1074 ≤ x) (hhigh : x ≤ 971) :
    (Float.Model.pack (.finite .positive m x hpos)).toBits.toNat = (x + 1074).toNat * 2 ^ 52 + m := by
  obtain ⟨hmlow, hmhigh⟩ := (Nat.log2_eq_iff (by omega)).mp hm
  change (UnpackedFloat.pack Format.binary64 (.finite .positive m x hpos)).toNat = _
  rw [pack_finite hpos hm hlow hhigh, toNat_packComponents, BitVec.toNat_ofNat, BitVec.toNat_ofNat]
  omega

theorem unpack_pack_finite (hpos : 0 < m) (hm : m.log2 = 52) (hlow : -1074 ≤ x) (hhigh : x ≤ 971) :
    (Float.Model.pack (.finite .positive m x hpos)).unpack = .finite .positive m x hpos := by
  obtain ⟨hmlow, hmhigh⟩ := (Nat.log2_eq_iff (by omega)).mp hm
  have hexponent : (BitVec.ofNat 11 (x + 1075).toNat).toNat = (x + 1075).toNat := by
    rw [BitVec.toNat_ofNat, Nat.mod_eq_of_lt (by omega)]
  have hfinite : BitVec.ofNat 11 (x + 1075).toNat ≠ -1#11 := fun h => by
    have hones : (-1#11).toNat = 2047 := rfl
    rw [h] at hexponent
    omega
  have hnormal : BitVec.ofNat 11 (x + 1075).toNat ≠ 0#11 := fun h => by
    have hzeros : (0#11).toNat = 0 := rfl
    rw [h] at hexponent
    omega
  have hmantissa : (1#1 ++ BitVec.ofNat 52 m).toNat = m := by
    rw [toNat_append, BitVec.toNat_ofNat, BitVec.toNat_ofNat]
    omega
  have hbias : (x + 1075).toNat - ((Format.binary64.exponentBias : Int) + (52 : Nat)) = x := by
    simp only [Format.exponentBias]
    omega
  change UnpackedFloat.unpack Format.binary64 (UnpackedFloat.pack Format.binary64 (.finite .positive m x hpos)) = _
  rw [pack_finite hpos hm hlow hhigh]
  refine (if_neg ?_).trans ((if_neg ?_).trans (finite_congr (sign_packComponents ..) ?_ ?_))
  · rw [unpackExponent_packComponents]
    exact hfinite
  · rw [unpackExponent_packComponents]
    exact hnormal
  · rw [unpackMantissa_packComponents]
    exact hmantissa
  · rw [unpackExponent_packComponents, hexponent]
    exact hbias

/-- The bits of a number whose leading bit is at `52 + k`, after it has lost its last `k` bits. -/
theorem toNat_pack_round {k : Nat} (hm : m.log2 = 52 + k) (hlow : -1074 ≤ x + k) (hhigh : x + k ≤ 970) :
    (Float.Model.pack (roundWithAccuracy Format.binary64 .positive m x .exact)).toBits.toNat =
      (x + k + 1074).toNat * 2 ^ 52 + nearestQuotient m (2 ^ k) := by
  obtain ⟨m', x', hpos, hround, hlog, hxlow, hxhigh, hbits⟩ := roundWithAccuracy_exact .positive hm hlow
  rw [hround, toNat_pack_finite hpos hlog (by omega) (by omega), hbits]

end Normal

/-! ## Natural numbers -/

section Natural
variable {n : Nat}

/-- A number below `2 ^ 53` is moved up until its mantissa has 53 bits. -/
theorem ofNat_exact (hn : n ≠ 0) (h : n < 2 ^ 53) :
    ∃ hpos, UnpackedFloat.ofNat Format.binary64 n =
      .finite .positive (n * 2 ^ (52 - n.log2)) (n.log2 - 52) hpos := by
  have hlog : n.log2 < 53 := (Nat.log2_lt hn).mpr h
  have hpos : 0 < n * 2 ^ (52 - n.log2) := Nat.mul_pos (Nat.pos_of_ne_zero hn) (Nat.two_pow_pos _)
  have hm : (n * 2 ^ (52 - n.log2)).log2 = 52 := by
    rw [log2_mul_two_pow hn]
    omega
  have hsign : compare (n : Int) 0 = .gt := by
    rw [Int.compare_eq_gt]
    omega
  have htarget : Format.binary64.targetExponent (totalExponent n 0) = n.log2 - 52 := by
    simp only [Format.targetExponent, totalExponent, mantissaBits_binary64, Format.minExponent]
    omega
  have hshift : (0 - ((n.log2 : Int) - 52)).toNat = 52 - n.log2 := by omega
  have hexponent : 0 - ((52 - n.log2 : Nat) : Int) = n.log2 - 52 := by omega
  have hround : roundWithAccuracy Format.binary64 .positive (n * 2 ^ (52 - n.log2) * 2 ^ 0) (n.log2 - 52) .exact =
      .finite .positive (n * 2 ^ (52 - n.log2)) (n.log2 - 52 + (0 : Nat)) hpos :=
    roundWithAccuracy_mul_two_pow .positive hpos hm (by omega)
  refine ⟨hpos, ?_⟩
  rw [UnpackedFloat.ofNat, UnpackedFloat.ofInt, UnpackedFloat.normalize, hsign]
  dsimp only
  rw [UnpackedFloat.round, Int.toNat_natCast, htarget, decreaseExponent]
  dsimp only
  rw [Nat.pow_zero, Nat.mul_one] at hround
  rw [hshift, hexponent, Nat.shiftLeft_eq, hround]
  exact finite_congr rfl rfl (Int.add_zero _)

/-- Below `2 ^ 53` the machine converts exactly, and multiplies by one. -/
theorem bits_ofNat_small (h : n < 2 ^ 53) :
    (ofNat n).bits = (Float.Model.pack (.mul Format.binary64 (Float.Model.ofUInt64 n.toUInt64).unpack
      (Float.Model.ofBits 0x3FF0000000000000).unpack)).toBits := by
  rw [ofNat, ofFloat, Float.ofScientific, dif_pos ⟨h, by decide⟩]
  rfl

theorem unpack_one :
    (Float.Model.ofBits 0x3FF0000000000000).unpack = .finite .positive (2 ^ 52) (-52) (by decide) := rfl

/-- From `2 ^ 53` on it rounds once. -/
theorem bits_ofNat_large (h : 2 ^ 53 ≤ n) :
    (ofNat n).bits = (Float.Model.pack (.ofScientific Format.binary64 n 0)).toBits := by
  rw [ofNat, ofFloat, Float.ofScientific, dif_neg (by omega)]
  rfl

theorem ofScientific_zero (hn : n ≠ 0) :
    UnpackedFloat.ofScientific Format.binary64 n 0 =
      roundWithAccuracy Format.binary64 .positive (n * 2 ^ 53) (-53) .exact := by
  have hlow : ¬ (0 : Int) < -((2 ^ Format.binary64.exponentBits : Int) + n.log2) := by
    have hpos : (0 : Int) < 2 ^ 11 := by decide
    dsimp only
    omega
  have hone : 10 ^ Int.toNat 0 = 1 := rfl
  rw [UnpackedFloat.ofScientific, dif_neg hn, if_neg (by decide), if_neg hlow, if_pos (by decide), mul_finite,
    Nat.shiftLeft_eq, hone, Nat.mul_one, mantissaBits_binary64]
  rfl

theorem toNat_bits_ofNat_small (hn : n ≠ 0) (h : n < 2 ^ 53) :
    (ofNat n).bits.toNat = (n.log2 + 1022) * 2 ^ 52 + n * 2 ^ (52 - n.log2) := by
  obtain ⟨hpos, hexact⟩ := ofNat_exact hn h
  have hlog : n.log2 < 53 := (Nat.log2_lt hn).mpr h
  have hm : (n * 2 ^ (52 - n.log2)).log2 = 52 := by
    rw [log2_mul_two_pow hn]
    omega
  have hword : n.toUInt64.toNat = n := UInt64.toNat_ofNat_of_lt (Nat.lt_of_lt_of_le h (by decide))
  have hfactor : (Float.Model.ofUInt64 n.toUInt64).unpack =
      .finite .positive (n * 2 ^ (52 - n.log2)) (n.log2 - 52) hpos := by
    rw [Float.Model.ofUInt64, UnpackedFloat.ofUInt64, hword, hexact, unpack_pack_finite hpos hm (by omega) (by omega)]
  have hproduct : roundWithAccuracy Format.binary64 .positive (n * 2 ^ (52 - n.log2) * 2 ^ 52) (n.log2 - 52 + -52)
      .exact = .finite .positive (n * 2 ^ (52 - n.log2)) (n.log2 - 52 + -52 + (52 : Nat)) hpos :=
    roundWithAccuracy_mul_two_pow .positive hpos hm (by omega)
  have hsign : Sign.positive * Sign.positive = .positive := rfl
  rw [bits_ofNat_small h, hfactor, unpack_one, mul_finite, hsign, hproduct,
    toNat_pack_finite hpos hm (by omega) (by omega)]
  congr 2
  omega

/-- The bits of the double of a natural number are the place of the nearest double. -/
theorem toNat_bits_ofNat (h : n < 2 ^ 64) : (ofNat n).bits.toNat = nearestPlace n := by
  by_cases hn : n = 0
  · rw [hn]
    rfl
  rw [nearestPlace, if_neg hn]
  rcases Nat.lt_or_ge n (2 ^ 53) with hsmall | hlarge
  · have hlog : n.log2 < 53 := (Nat.log2_lt hn).mpr hsmall
    have hsplit : n * 2 ^ 52 = n * 2 ^ (52 - n.log2) * 2 ^ n.log2 := by
      rw [Nat.mul_assoc, ← Nat.pow_add, Nat.sub_add_cancel (by omega)]
    have hexact : nearestQuotient (n * 2 ^ 52) (2 ^ n.log2) = n * 2 ^ (52 - n.log2) := by
      rw [hsplit, nearestQuotient_mul_self _ (Nat.two_pow_pos _)]
    rw [toNat_bits_ofNat_small hn hsmall, hexact]
  · have hlog : n.log2 < 64 := (Nat.log2_lt hn).mpr h
    have hscaled : (n * 2 ^ 53).log2 = 52 + (n.log2 + 1) := by
      rw [log2_mul_two_pow hn]
      omega
    have hhalved : nearestQuotient (n * 2 ^ 53) (2 ^ (n.log2 + 1)) = nearestQuotient (n * 2 ^ 52) (2 ^ n.log2) := by
      have hdouble : n * 2 ^ 53 = n * 2 ^ 52 * 2 := by omega
      have hpow : 2 ^ (n.log2 + 1) = 2 ^ n.log2 * 2 := Nat.pow_succ ..
      rw [hdouble, hpow, nearestQuotient_mul_right _ _ Nat.two_pos]
    have hexponent : (-53 + ((n.log2 + 1 : Nat) : Int) + 1074).toNat = n.log2 + 1022 := by omega
    rw [bits_ofNat_large hlarge, ofScientific_zero hn, toNat_pack_round hscaled (by omega) (by omega), hhalved,
      hexponent]

end Natural

/-! ## Integers -/

theorem toNat_neg_bits {x : Double} (h : x.bits.toNat < 2 ^ 63) : (-x).bits.toNat = 2 ^ 63 + x.bits.toNat := by
  have hxor : (-x).bits.toNat = x.bits.toNat ^^^ 2 ^ 63 := UInt64.toNat_xor ..
  have hhigh : (x.bits.toNat ^^^ 2 ^ 63) / 2 ^ 63 = 1 := by
    rw [Nat.xor_div_two_pow, Nat.div_eq_of_lt h]
    rfl
  have hlow : (x.bits.toNat ^^^ 2 ^ 63) % 2 ^ 63 = x.bits.toNat := by
    rw [Nat.xor_mod_two_pow, Nat.mod_eq_of_lt h, Nat.mod_self, Nat.xor_zero]
  rw [hxor]
  omega

theorem rank_of_lt {x : Double} (h : x.bits.toNat < 2 ^ 63) : x.rank = x.bits.toNat := by
  have hsign : x.isNegative = false := decide_eq_false (Nat.not_le_of_lt h)
  rw [rank, hsign]
  rfl

theorem rank_of_le {x : Double} (h : 2 ^ 63 ≤ x.bits.toNat) :
    x.rank = -((x.bits.toNat - 2 ^ 63 : Nat) : Int) - 1 := by
  have hsign : x.isNegative = true := decide_eq_true h
  have hpow : Nat.pow 2 63 = 2 ^ 63 := rfl
  rw [rank, hsign, if_pos rfl, hpow]

theorem rank_neg {x : Double} (h : x.bits.toNat < 2 ^ 63) : (-x).rank = -(x.bits.toNat : Int) - 1 := by
  have hneg := toNat_neg_bits h
  rw [rank_of_le (hneg ▸ Nat.le_add_right _ _), hneg, Nat.add_sub_cancel_left]

theorem eq_of_rank_eq {x y : Double} (h : x.rank = y.rank) : x = y := by
  have hbits : x.bits.toNat = y.bits.toNat := by
    rcases Nat.lt_or_ge x.bits.toNat (2 ^ 63) with hx | hx <;>
      rcases Nat.lt_or_ge y.bits.toNat (2 ^ 63) with hy | hy
    · rw [rank_of_lt hx, rank_of_lt hy] at h
      omega
    · rw [rank_of_lt hx, rank_of_le hy] at h
      omega
    · rw [rank_of_le hx, rank_of_lt hy] at h
      omega
    · rw [rank_of_le hx, rank_of_le hy] at h
      omega
  cases x
  cases y
  exact congrArg mk (UInt64.toNat_inj.mp hbits)

/-- The doubles of integers are placed around zero, the negative ones from minus one downwards. -/
theorem rank_ofInt (n : Int64) :
    (ofInt n.toInt).rank =
      if n.toInt < 0 then -(nearestPlace n.toInt.natAbs : Int) - 1 else nearestPlace n.toInt.natAbs := by
  have hlow := n.le_toInt
  have hhigh := n.toInt_lt
  have hword : n.toInt.natAbs < 2 ^ 64 := by omega
  have hbits := toNat_bits_ofNat hword
  have hlt : (ofNat n.toInt.natAbs).bits.toNat < 2 ^ 63 := hbits ▸ nearestPlace_lt hword
  rw [ofInt]
  split_ifs with hneg
  · rw [rank_neg hlt, hbits]
  · rw [rank_of_lt hlt, hbits]

theorem rank_ofInt_mono {m n : Int64} (h : m.toInt ≤ n.toInt) : (ofInt m.toInt).rank ≤ (ofInt n.toInt).rank := by
  rw [rank_ofInt, rank_ofInt]
  split_ifs with hm hn hn
  · have := nearestPlace_mono (by omega : n.toInt.natAbs ≤ m.toInt.natAbs)
    omega
  · omega
  · omega
  · have := nearestPlace_mono (by omega : m.toInt.natAbs ≤ n.toInt.natAbs)
    omega

theorem ofInt_inj {m n : Int64} (hm : m.toInt.natAbs ≤ 2 ^ 53) (hn : n.toInt.natAbs ≤ 2 ^ 53)
    (h : ofInt m.toInt = ofInt n.toInt) : m = n := by
  have hrank := congrArg rank h
  rw [rank_ofInt, rank_ofInt] at hrank
  refine Int64.toInt_inj.mp ?_
  split_ifs at hrank with hmneg hnneg hnneg
  · have := nearestPlace_inj hm hn (by omega)
    omega
  · omega
  · omega
  · have := nearestPlace_inj hm hn (by omega)
    omega

end Tributary.Double
