/-!
# Doubles

A double is its 64 bits: a sign, eleven bits of exponent and fifty-two of fraction. A finite one is
`± mantissa · 2 ^ exponent` with a natural mantissa below `2 ^ 53`. Everything that must be exact about
doubles (rounding to an integer, remainders, the total order, decimal text) is computed on that view in
integer arithmetic; only the four operations themselves are the machine's.

* `Double.parts?` : the view, absent for infinities and NaN;
* `Double.Parts.toDouble` : the double with given parts;
* `Double.rank` : a whole number whose order is the total order of doubles.
-/

namespace Tributary

/-- A double, by its bits. -/
structure Double where
  bits : UInt64
deriving DecidableEq, Repr, Inhabited

namespace Double

def ofFloat (x : Float) : Double := ⟨x.toBits⟩

def toFloat (x : Double) : Float := Float.ofBits x.bits

instance : Add Double where
  add x y := ofFloat (x.toFloat + y.toFloat)

instance : Sub Double where
  sub x y := ofFloat (x.toFloat - y.toFloat)

instance : Mul Double where
  mul x y := ofFloat (x.toFloat * y.toFloat)

instance : Div Double where
  div x y := ofFloat (x.toFloat / y.toFloat)

/-- The other sign, also of zeros and NaNs. -/
instance : Neg Double where
  neg x := ⟨x.bits ^^^ 0x8000000000000000⟩

def abs (x : Double) : Double := ⟨x.bits &&& 0x7fffffffffffffff⟩

def infinity : Double := ⟨0x7ff0000000000000⟩

def nan : Double := ⟨0x7ff8000000000000⟩

def zero : Double := ⟨0⟩

/-- A finite double, `± mantissa · 2 ^ exponent`. -/
structure Parts where
  negative : Bool
  mantissa : Nat
  exponent : Int
deriving DecidableEq, Repr

def exponentField (x : Double) : Nat := x.bits.toNat / Nat.pow 2 52 % Nat.pow 2 11

def fractionField (x : Double) : Nat := x.bits.toNat % Nat.pow 2 52

/-- The sign bit, set for `-0.0` too. -/
def isNegative (x : Double) : Bool := decide (Nat.pow 2 63 ≤ x.bits.toNat)

def isFinite (x : Double) : Bool := x.exponentField != 2047

def isNaN (x : Double) : Bool := x.exponentField == 2047 && x.fractionField != 0

/-- Whether a double is zero, of either sign. -/
def isZero (x : Double) : Bool := x.bits.toNat % Nat.pow 2 63 == 0

def parts? (x : Double) : Option Parts :=
  if x.exponentField = 2047 then none
  else if x.exponentField = 0 then some ⟨x.isNegative, x.fractionField, -1074⟩
  else some ⟨x.isNegative, Nat.pow 2 52 + x.fractionField, (x.exponentField : Int) - 1075⟩

/-- `m · 2 ^ k` as a natural number; bits below one are dropped. -/
def scale (m : Nat) (k : Int) : Nat :=
  if 0 ≤ k then m * Nat.pow 2 k.toNat else m / Nat.pow 2 (-k).toNat

/-- The double with the given parts, when there is one: bits that do not fit are dropped. -/
def Parts.toDouble (p : Parts) : Double :=
  let sign : Nat := if p.negative then Nat.pow 2 63 else 0
  if p.mantissa = 0 then ⟨UInt64.ofNat sign⟩
  else
    let exponent := max (p.exponent + (Nat.log2 p.mantissa : Int) - 52) (-1074)
    let mantissa := scale p.mantissa (p.exponent - exponent)
    if mantissa < Nat.pow 2 52 then ⟨UInt64.ofNat (sign + mantissa)⟩
    else ⟨UInt64.ofNat (sign + (exponent + 1075).toNat * Nat.pow 2 52 + (mantissa - Nat.pow 2 52))⟩

def Parts.whole (p : Parts) : Nat := scale p.mantissa p.exponent

def Parts.isWhole (p : Parts) : Bool :=
  decide (0 ≤ p.exponent) || p.mantissa % Nat.pow 2 (-p.exponent).toNat == 0

/-- The value with its magnitude replaced by a whole number, the sign kept (also on zero). -/
def Parts.withWhole (p : Parts) (n : Nat) : Double := Parts.toDouble ⟨p.negative, n, 0⟩

/-- The greatest whole number not above the value. -/
def floor (x : Double) : Double :=
  match x.parts? with
  | none => x
  | some p =>
    if p.isWhole then x
    else p.withWhole (if p.negative then p.whole + 1 else p.whole)

/-- The least whole number not below the value. -/
def ceil (x : Double) : Double :=
  match x.parts? with
  | none => x
  | some p =>
    if p.isWhole then x
    else p.withWhole (if p.negative then p.whole else p.whole + 1)

/-- The nearest whole number, a half going away from zero. -/
def round (x : Double) : Double :=
  match x.parts? with
  | none => x
  | some p =>
    if p.isWhole then x
    else p.withWhole ((scale p.mantissa (p.exponent + 1) + 1) / 2)

/-- The remainder of the division that drops the fraction of the quotient; it has the sign of `x`. -/
def remainder (x y : Double) : Double :=
  match x.parts?, y.parts? with
  | some p, some q =>
    if q.mantissa = 0 then nan
    else
      let exponent := min p.exponent q.exponent
      let rest := scale p.mantissa (p.exponent - exponent) % scale q.mantissa (q.exponent - exponent)
      Parts.toDouble ⟨p.negative, rest, exponent⟩
  | some _, none => if y.isNaN then nan else x
  | none, _ => nan

/-- The whole number that the double is, if it is one. -/
def toInt? (x : Double) : Option Int :=
  match x.parts? with
  | none => none
  | some p =>
    if p.isWhole then some (if p.negative then -(p.whole : Int) else p.whole) else none

/-- The double nearest to a natural number, ties going to the even mantissa. -/
def ofNat (n : Nat) : Double := ofFloat (Float.ofScientific n false 0)

/-- The double nearest to a whole number, ties going to the even mantissa. -/
def ofInt (n : Int) : Double := if n < 0 then -ofNat n.natAbs else ofNat n.natAbs

/-- A whole number whose order is the total order of doubles: `-0.0` below `0.0`, NaNs at the ends. -/
def rank (x : Double) : Int :=
  if x.isNegative then -((x.bits.toNat - Nat.pow 2 63 : Nat) : Int) - 1 else x.bits.toNat

/-- Compares by the total order of doubles. -/
def order (x y : Double) : Ordering := compare x.rank y.rank

/-- `x ^ n` by repeated squaring, the lowest binary digit of `n` first. -/
def powNat (x : Double) (n : Nat) : Double := go n n x (ofNat 1)
where
  go : Nat → Nat → Double → Double → Double
    | 0, _, _, acc => acc
    | fuel + 1, n, x, acc =>
      let acc := if n % 2 = 1 then acc * x else acc
      if n / 2 = 0 then acc else go fuel (n / 2) (x * x) acc

/-- `x ^ n`; a negative power is the reciprocal of the positive one. -/
def pow (x : Double) (n : Int) : Double :=
  if n < 0 then ofNat 1 / powNat x n.natAbs else powNat x n.natAbs

end Double

end Tributary
