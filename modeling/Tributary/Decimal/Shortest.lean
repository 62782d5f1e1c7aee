import Tributary.Decimal.Basic

/-!
# The shortest decimal of a double

The reals that round to a double form an interval. Of the decimals in it the shortest is taken, of two
equally short ones the nearer, and of two equally near ones the one that a rule for ties names. The
search goes through the grids of multiples of `10 ^ k`, coarse ones first, and looks only at the two
neighbours of the value on each grid: if any point of a grid lies in the interval, one of these two does.
-/

namespace Tributary.Decimal

/-- Compares `a · 10 ^ p` with `b · 2 ^ e`. -/
def compareBinary (a : Nat) (p : Int) (b : Nat) (e : Int) : Ordering :=
  compare (a * Nat.pow 10 p.toNat * Nat.pow 2 (-e).toNat) (b * Nat.pow 2 e.toNat * Nat.pow 10 (-p).toNat)

/-- The reals that round to a double: from `low · 2 ^ exponent` to `high · 2 ^ exponent`, with the ends
when `closed`. -/
structure Interval where
  low : Nat
  high : Nat
  exponent : Int
  closed : Bool

/-- The interval of a double: half a step to either side, a quarter below a power of two, where the
steps get shorter; the ends round to the even mantissa. -/
def Interval.around (p : Double.Parts) : Interval where
  low := 4 * p.mantissa - (if p.mantissa = Nat.pow 2 52 ∧ -1074 < p.exponent then 1 else 2)
  high := 4 * p.mantissa + 2
  exponent := p.exponent - 2
  closed := p.mantissa % 2 == 0

def Interval.contains (i : Interval) (d : Decimal) : Bool :=
  (match compareBinary d.digits d.exponent i.low i.exponent with
    | .gt => true
    | .eq => i.closed
    | .lt => false) &&
  (match compareBinary d.digits d.exponent i.high i.exponent with
    | .lt => true
    | .eq => i.closed
    | .gt => false)

/-- The greatest multiple of `10 ^ k` that is not above the magnitude, divided by `10 ^ k`. -/
def below (p : Double.Parts) (k : Int) : Nat :=
  (p.mantissa * Nat.pow 2 p.exponent.toNat * Nat.pow 10 (-k).toNat) /
    (Nat.pow 2 (-p.exponent).toNat * Nat.pow 10 k.toNat)

/-- Which of two neighbours on a grid stands for the point halfway between them. -/
inductive Tie where
  /-- The one with the even last digit. -/
  | toEven
  /-- The larger one. -/
  | up
deriving DecidableEq, Repr

/-- Whether the lower neighbour, `n` steps from zero, is chosen. -/
def Tie.takesLower (tie : Tie) (n : Nat) : Bool :=
  match tie with
  | toEven => n % 2 == 0
  | up => false

/-- The point of the grid of `10 ^ k` that lies in the interval, the nearer one of two. -/
def onGrid? (tie : Tie) (p : Double.Parts) (k : Int) : Option Decimal :=
  let lower : Decimal := ⟨below p k, k⟩
  let upper : Decimal := ⟨below p k + 1, k⟩
  let interval := Interval.around p
  match interval.contains lower, interval.contains upper with
  | true, false => some lower
  | false, true => some upper
  | false, false => none
  | true, true =>
    match compareBinary (2 * lower.digits + 1) k (2 * p.mantissa) p.exponent with
    | .gt => some lower
    | .lt => some upper
    | .eq => some (if tie.takesLower lower.digits then lower else upper)

/-- The power of ten of the first digit of a positive magnitude. -/
def leadingPower (p : Double.Parts) : Int :=
  let guess := ((Nat.log2 p.mantissa : Int) + p.exponent) * 1233 / 4096
  if compareBinary 1 guess p.mantissa p.exponent = .gt then guess - 1
  else if compareBinary 1 (guess + 1) p.mantissa p.exponent = .gt then guess
  else guess + 1

/-- The first hit on the grids of `10 ^ k`, `10 ^ (k - 1)`, …, at most `n` of them. -/
def firstOnGrids (tie : Tie) (p : Double.Parts) : Nat → Int → Decimal
  | 0, k => ⟨below p k, k⟩
  | n + 1, k =>
    match onGrid? tie p k with
    | some d => d
    | none => firstOnGrids tie p n (k - 1)

/-- Moves trailing zeros of the digits into the exponent. -/
def dropZeros (d : Decimal) : Decimal := go (width d.digits) d
where
  go : Nat → Decimal → Decimal
    | 0, d => d
    | n + 1, d => if d.digits % 10 = 0 then go n ⟨d.digits / 10, d.exponent + 1⟩ else d

/-- The shortest decimal that rounds to the magnitude of a double; seventeen digits always do. -/
def shortest (tie : Tie) (p : Double.Parts) : Decimal :=
  if p.mantissa = 0 then ⟨0, 0⟩ else dropZeros (firstOnGrids tie p 17 (leadingPower p))

end Tributary.Decimal
