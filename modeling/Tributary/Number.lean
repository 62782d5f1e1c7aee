import Tributary.Decimal.Layout
import Tributary.Text.Basic

/-!
# Numbers

A number is a 64-bit integer or a double. Integers stay integers under addition, subtraction,
multiplication and remainder as long as the result fits; otherwise both operands are taken as doubles.

* `Number.add`, `sub`, `mul`, `modulo`, `neg`, `abs` : exact on integers or promoted, never wrapped;
* `Number.order` : integers by value, everything else by the total order of doubles;
* `Number.read` : the integer or finite double that a text spells.
-/

namespace Tributary

/-- A 64-bit integer or a double. -/
inductive Number where
  | int (n : Int64)
  | float (x : Double)
deriving DecidableEq, Repr

/-- The 64-bit integer equal to `n`, if there is one. -/
def int64? (n : Int) : Option Int64 :=
  if -0x8000000000000000 ≤ n ∧ n < 0x8000000000000000 then some (Int64.ofInt n) else none

namespace Number

def toDouble : Number → Double
  | int n => Double.ofInt n.toInt
  | float x => x

/-- The integer that a number is: a double counts when it is whole and at most `2 ^ 53` in magnitude. -/
def toInt? : Number → Option Int64
  | int n => some n
  | float x =>
    match x.toInt? with
    | some n => if n.natAbs ≤ Nat.pow 2 53 then some (Int64.ofInt n) else none
    | none => none

def isInteger (a : Number) : Bool := a.toInt?.isSome

def isZero : Number → Bool
  | int n => n == 0
  | float x => x.isZero

/-- The integer result if it fits, else the result on doubles. -/
def fitOr (n : Int) (x : Double) : Number :=
  match int64? n with
  | some n => int n
  | none => float x

def add : Number → Number → Number
  | int a, int b => fitOr (a.toInt + b.toInt) (Double.ofInt a.toInt + Double.ofInt b.toInt)
  | a, b => float (a.toDouble + b.toDouble)

def sub : Number → Number → Number
  | int a, int b => fitOr (a.toInt - b.toInt) (Double.ofInt a.toInt - Double.ofInt b.toInt)
  | a, b => float (a.toDouble - b.toDouble)

def mul : Number → Number → Number
  | int a, int b => fitOr (a.toInt * b.toInt) (Double.ofInt a.toInt * Double.ofInt b.toInt)
  | a, b => float (a.toDouble * b.toDouble)

/-- True division, always a double. -/
def divide (a b : Number) : Number := float (a.toDouble / b.toDouble)

/-- The remainder with the sign of the dividend; an integer remainder by zero is zero. -/
def modulo : Number → Number → Number
  | int a, int b => if b = 0 then int 0 else int (Int64.ofInt (a.toInt.tmod b.toInt))
  | a, b => float (Double.remainder a.toDouble b.toDouble)

def neg : Number → Number
  | int n => fitOr (-n.toInt) (-Double.ofInt n.toInt)
  | float x => float (-x)

def abs : Number → Number
  | int n => fitOr n.toInt.natAbs (Double.ofInt n.toInt.natAbs)
  | float x => float x.abs

/-- An integer again, where the double is one. -/
def normalize (a : Number) : Number :=
  match a.toInt? with
  | some n => int n
  | none => a

def floor : Number → Number
  | int n => int n
  | float x => normalize (float x.floor)

def ceil : Number → Number
  | int n => int n
  | float x => normalize (float x.ceil)

/-- Rounds to `digits` decimal places, a half going away from zero. An integer has no places to lose,
and a result without places is an integer where it can be. -/
def round (a : Number) (digits : Int) : Number :=
  match a with
  | int n => if 0 ≤ digits then int n else normalize (float (scaled (Double.ofInt n.toInt)))
  | float x => if digits ≤ 0 then normalize (float (scaled x)) else float (scaled x)
where
  scaled (x : Double) : Double :=
    let scale := Double.pow (Double.ofNat 10) digits
    Double.round (x * scale) / scale

/-- Integers by value, anything else by the total order of doubles. -/
def order : Number → Number → Ordering
  | int a, int b => compare a.toInt b.toInt
  | a, b => a.toDouble.order b.toDouble

/-- Equality that goes with `order`; it does not tell `1` from `1.0`. -/
def same (a b : Number) : Bool := a.order b == .eq

def ofNat (n : Nat) : Number :=
  match int64? n with
  | some n => int n
  | none => float (Double.ofInt n)

/-- The integer that a text spells: an optional sign and digits. -/
def integerOfChars? (cs : List Char) : Option Int64 :=
  let (negative, digits) := Decimal.readSign cs
  if digits = [] ∨ !digits.all Char.isDigit then none
  else int64? (if negative then -(Decimal.ofDigits digits : Int) else Decimal.ofDigits digits)

def floatOfChars? (cs : List Char) : Option Double :=
  let (negative, rest) := Decimal.readSign cs
  match Decimal.readUnsigned? rest with
  | some d =>
    let x := Decimal.signedDouble negative d
    if x.isFinite then some x else none
  | none => none

/-- The number that a text spells, blanks around it apart. -/
def ofText? (s : String) : Option Number :=
  let cs := Text.trimChars s.toList
  match integerOfChars? cs with
  | some n => some (int n)
  | none => (floatOfChars? cs).map float

/-- A text that spells no number, without the blanks around it. -/
structure NotANumber where
  text : String
deriving DecidableEq, Repr

def NotANumber.message (e : NotANumber) : String := "`" ++ e.text ++ "` is not a number"

/-- The number that a text spells, blanks around it apart. -/
def read (s : String) : Except NotANumber Number :=
  match ofText? s with
  | some n => .ok n
  | none => .error ⟨Text.trim s⟩

/-- The text in messages: whole numbers without a point, nothing in powers of ten. -/
def display (a : Number) : String :=
  match a.toInt? with
  | some n => toString n.toInt
  | none => Decimal.Layout.plain.text a.toDouble

/-- The text that tells an integer from a double. -/
def precise : Number → String
  | int n => toString n.toInt
  | float x => Decimal.Layout.precise.text x

/-- The JSON text: whole numbers as integers, `null` for what is not finite. -/
def json (a : Number) : String :=
  match a.toInt? with
  | some n => toString n.toInt
  | none =>
    if a.toDouble.isFinite then Decimal.Layout.json.text a.toDouble else "null"

end Number

end Tributary
