import Tributary.Decimal.Shortest

/-!
# Layouts of decimal text

The digits of a number are one thing, their arrangement another: a layout says which numbers are
written positionally, how a whole number is marked and how a power of ten is signed. It also names the
rule for ties, where two shortest decimals are equally near.
-/

namespace Tributary.Decimal

/-- How the digits of a number are arranged. -/
structure Layout where
  /-- Whether a number is written positionally, given the power of ten of its first digit. -/
  positional : Int → Bool
  /-- What follows a whole number written positionally. -/
  wholeMark : String
  /-- The sign of a power of ten that is not negative. -/
  plus : String
  /-- Which of two shortest decimals is written when both are equally near. -/
  tie : Tie

/-- Positional notation throughout, whole numbers without a point; a tie goes up. -/
def Layout.plain : Layout := ⟨fun _ => true, "", "", .up⟩

/-- Positional from `10 ^ -4` up to below `10 ^ 16`; a whole number shows that it is a fraction type,
and a tie goes up. -/
def Layout.precise : Layout := ⟨fun e => decide (-4 ≤ e ∧ e ≤ 15), ".0", "", .up⟩

/-- Positional from `10 ^ -5` up to below `10 ^ 16`; powers of ten always carry a sign, and a tie goes
to the even digit. -/
def Layout.json : Layout := ⟨fun e => decide (-5 ≤ e ∧ e ≤ 15), ".0", "+", .toEven⟩

def zeros (n : Nat) : List Char := List.replicate n '0'

/-- Writes a decimal whose digits end in no zero. -/
def Layout.write (l : Layout) (d : Decimal) : String :=
  let digits := Nat.toDigits 10 d.digits
  let leading := d.exponent + digits.length - 1
  if l.positional leading then
    if leading < 0 then "0." ++ String.ofList (zeros (-leading - 1).toNat ++ digits)
    else if 0 ≤ d.exponent then String.ofList (digits ++ zeros d.exponent.toNat) ++ l.wholeMark
    else
      let whole := (leading + 1).toNat
      String.ofList (digits.take whole) ++ "." ++ String.ofList (digits.drop whole)
  else
    let fraction := digits.drop 1
    let mantissa := String.ofList (digits.take 1) ++
      (if fraction = [] then "" else "." ++ String.ofList fraction)
    let sign := if leading < 0 then "-" else l.plus
    mantissa ++ "e" ++ sign ++ toString leading.natAbs

/-- The text of a double: its shortest digits in the layout, or the name of what is not finite. -/
def Layout.text (l : Layout) (x : Double) : String :=
  match x.parts? with
  | some p => (if p.negative then "-" else "") ++ l.write (shortest l.tie p)
  | none =>
    if x.isNaN then "NaN"
    else if x.isNegative then "-inf" else "inf"

end Tributary.Decimal
