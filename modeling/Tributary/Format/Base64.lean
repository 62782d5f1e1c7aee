/-!
# Base64

Three bytes are written as four symbols of six bits; a last group of one or two bytes is filled up with
padding. Reading wants the padding, and wants the bits that it leaves over to be zero.

* `Base64.encode` : the text of a byte string;
* `Base64.decode` : the byte string of a text, or what is wrong with it and where.
-/

namespace Tributary.Base64

/-- The character of a number below 64. -/
def digit (n : Nat) : Char :=
  if n < 26 then Char.ofNat (65 + n)
  else if n < 52 then Char.ofNat (71 + n)
  else if n < 62 then Char.ofNat (n - 4)
  else if n = 62 then '+'
  else '/'

/-- Three bytes as four symbols; the last group may be shorter. -/
def encode : List UInt8 → List Char
  | [] => []
  | [a] =>
    let n := a.toNat * 16
    [digit (n / 64), digit (n % 64), '=', '=']
  | [a, b] =>
    let n := (a.toNat * 256 + b.toNat) * 4
    [digit (n / 4096), digit (n / 64 % 64), digit (n % 64), '=']
  | a :: b :: c :: rest =>
    let n := (a.toNat * 256 + b.toNat) * 256 + c.toNat
    digit (n / 262144) :: digit (n / 4096 % 64) :: digit (n / 64 % 64) :: digit (n % 64) :: encode rest

inductive Symbol where
  | bits (n : Nat)
  | padding
  | other
deriving DecidableEq, Repr

def Symbol.ofChar (c : Char) : Symbol :=
  if 'A' ≤ c ∧ c ≤ 'Z' then .bits (c.toNat - 65)
  else if 'a' ≤ c ∧ c ≤ 'z' then .bits (c.toNat - 71)
  else if '0' ≤ c ∧ c ≤ '9' then .bits (c.toNat + 4)
  else if c = '+' then .bits 62
  else if c = '/' then .bits 63
  else if c = '=' then .padding
  else .other

/-- The bytes of a text; a character outside of ASCII has several, and none of them means anything. -/
def symbols (cs : List Char) : List Symbol :=
  cs.flatMap fun c => if c.toNat < 128 then [Symbol.ofChar c] else List.replicate c.utf8Size .other

inductive ErrorKind where
  | length
  | symbol
  | trailing
  | padding
deriving DecidableEq, Repr

/-- What is wrong with a text, and at which byte. -/
structure Error where
  kind : ErrorKind
  position : Nat
deriving DecidableEq, Repr

def ErrorKind.message : ErrorKind → String
  | length => "invalid length"
  | symbol => "invalid symbol"
  | trailing => "non-zero trailing bits"
  | padding => "invalid padding length"

def Error.message (e : Error) : String := e.kind.message ++ " at " ++ toString e.position

def values (position : Nat) : List Symbol → Except Error (List Nat)
  | [] => .ok []
  | .bits n :: rest => (values (position + 1) rest).map (n :: ·)
  | _ :: _ => .error ⟨.symbol, position⟩

/-- The bytes of a group of two to four numbers; what does not fill a byte is left over. -/
def groupBytes : List Nat → List UInt8 × Nat
  | [a, b] => ([UInt8.ofNat (a * 4 + b / 16)], b % 16)
  | [a, b, c] => ([UInt8.ofNat (a * 4 + b / 16), UInt8.ofNat (b % 16 * 16 + c / 4)], c % 4)
  | [a, b, c, d] =>
    ([UInt8.ofNat (a * 4 + b / 16), UInt8.ofNat (b % 16 * 16 + c / 4), UInt8.ofNat (c % 4 * 64 + d)], 0)
  | _ => ([], 0)

def decodeGroup (position : Nat) (group : List Symbol) : Except Error (List UInt8) := do
  let used := (group.reverse.dropWhile (· = .padding)).reverse
  if used.length < 2 then .error ⟨.padding, position + used.length⟩
  else
    let numbers ← values position used
    let (bytes, left) := groupBytes numbers
    if left = 0 then .ok bytes else .error ⟨.trailing, position + used.length - 1⟩

def decodeGroups (position : Nat) : List Symbol → Except Error (List UInt8)
  | [] => .ok []
  | a :: b :: c :: d :: rest => do
    let bytes ← decodeGroup position [a, b, c, d]
    let more ← decodeGroups (position + 4) rest
    .ok (bytes ++ more)
  | _ => .error ⟨.length, position⟩

def decode (cs : List Char) : Except Error (List UInt8) :=
  let all := symbols cs
  if all.length % 4 = 0 then decodeGroups 0 all
  else .error ⟨.length, all.length - all.length % 4⟩

end Tributary.Base64
