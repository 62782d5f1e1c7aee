import Tributary.Double

/-!
# Decimals

A decimal is `digits · 10 ^ exponent`. This module reads one from the characters of a number and finds
the double nearest to it.
-/

namespace Tributary

/-- The number `digits · 10 ^ exponent`. -/
structure Decimal where
  digits : Nat
  exponent : Int
deriving DecidableEq, Repr

namespace Decimal

/-- The value of a run of decimal digits. -/
def ofDigits (cs : List Char) : Nat := cs.foldl (fun n c => 10 * n + (c.toNat - 48)) 0

/-- How many decimal digits a number has; zero has one. -/
def width (n : Nat) : Nat := (Nat.toDigits 10 n).length

/-- The digit run that a text starts with, and what follows it. -/
def spanDigits (cs : List Char) : List Char × List Char := cs.span Char.isDigit

/-- The number with a whole part, a fraction and a power of ten, each given by its characters. -/
def ofParts (whole fraction : List Char) (power : Int) : Decimal :=
  ⟨ofDigits (whole ++ fraction), power - fraction.length⟩

def readSign : List Char → Bool × List Char
  | '-' :: cs => (true, cs)
  | '+' :: cs => (false, cs)
  | cs => (false, cs)

/-- The power of ten at the end of a number's text: nothing, or `e`, a sign and digits. -/
def readPower : List Char → Option Int
  | [] => some 0
  | c :: cs =>
    if c = 'e' ∨ c = 'E' then
      let (negative, cs) := readSign cs
      if cs = [] ∨ !cs.all Char.isDigit then none
      else some (if negative then -(ofDigits cs : Int) else ofDigits cs)
    else none

/-- Reads digits with an optional point, which may stand first or last, and an optional power of ten. -/
def readUnsigned? (cs : List Char) : Option Decimal :=
  let (whole, rest) := spanDigits cs
  let (fraction, rest) :=
    match rest with
    | '.' :: rest => spanDigits rest
    | rest => ([], rest)
  if whole = [] ∧ fraction = [] then none
  else (readPower rest).map (ofParts whole fraction)

/-- The double nearest to a decimal, infinite above the range of doubles. -/
def toDouble (d : Decimal) : Double :=
  let top := d.exponent + width d.digits
  if d.digits = 0 ∨ top < -330 then .zero
  else if 320 < top then .infinity
  else .ofFloat (Float.ofScientific d.digits (decide (d.exponent < 0)) d.exponent.natAbs)

def signedDouble (negative : Bool) (d : Decimal) : Double :=
  if negative then -d.toDouble else d.toDouble

end Decimal

end Tributary
