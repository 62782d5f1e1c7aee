import Tributary.Decimal.Layout

/-!
# JSON tokens

A text is cut into tokens by one pass over its characters. Outside of strings the characters split at
blanks and at the six structural characters; what stands between two of them is a word, which must spell
a number, `true`, `false` or `null`.

* `Json.Token` : a token;
* `Json.Scan.step` : what one character does;
* `Json.tokens?` : the tokens of a text, absent when a string or a word is malformed.
-/

namespace Tributary.Json

inductive Token where
  | openArray
  | closeArray
  | openObject
  | closeObject
  | comma
  | colon
  | null
  | bool (b : Bool)
  | int (n : Int)
  | float (x : Double)
  | string (s : String)
deriving DecidableEq, Repr

def Token.structural? : Char → Option Token
  | '[' => some .openArray
  | ']' => some .closeArray
  | '\x7b' => some .openObject
  | '\x7d' => some .closeObject
  | ',' => some .comma
  | ':' => some .colon
  | _ => none

def isSpace (c : Char) : Bool := c = ' ' ∨ c = '\t' ∨ c = '\n' ∨ c = '\r'

/-- Digits without a leading zero. -/
def isWhole : List Char → Bool
  | [] => false
  | ['0'] => true
  | '0' :: _ => false
  | cs => cs.all Char.isDigit

/-- The number that a word spells. Without point and power it is an integer, but for `-0`, which only a
double can hold. -/
def Token.ofNumber? (word : List Char) : Option Token :=
  let (negative, rest) :=
    match word with
    | '-' :: rest => (true, rest)
    | rest => (false, rest)
  let (whole, rest) := Decimal.spanDigits rest
  if !isWhole whole then none
  else if rest = [] then
    if negative ∧ whole = ['0'] then some (.float (-.zero))
    else some (.int (if negative then -(Decimal.ofDigits whole : Int) else Decimal.ofDigits whole))
  else
    let (fraction, power) :=
      match rest with
      | '.' :: rest => (some (Decimal.spanDigits rest).1, (Decimal.spanDigits rest).2)
      | rest => (none, rest)
    if fraction = some [] then none
    else
      (Decimal.readPower power).map fun n =>
        .float (Decimal.signedDouble negative (Decimal.ofParts whole (fraction.getD []) n))

def Token.ofWord? (word : List Char) : Option Token :=
  if word = "null".toList then some .null
  else if word = "true".toList then some (.bool true)
  else if word = "false".toList then some (.bool false)
  else Token.ofNumber? word

def hexValue? (c : Char) : Option Nat :=
  if c.isDigit then some (c.toNat - 48)
  else if 'a' ≤ c ∧ c ≤ 'f' then some (c.toNat - 87)
  else if 'A' ≤ c ∧ c ≤ 'F' then some (c.toNat - 55)
  else none

/-- The character that a one-letter escape stands for. -/
def unescape? : Char → Option Char
  | '"' => some '"'
  | '\\' => some '\\'
  | '/' => some '/'
  | 'b' => some '\x08'
  | 'f' => some '\x0c'
  | 'n' => some '\n'
  | 'r' => some '\r'
  | 't' => some '\t'
  | _ => none

/-- Where the pass stands. Characters already read of a word or string are kept last first. -/
inductive Mode where
  /-- Between tokens. -/
  | idle
  /-- In a word. -/
  | word (read : List Char)
  /-- In a string. -/
  | text (read : List Char)
  /-- After a backslash. -/
  | escape (read : List Char)
  /-- In a `\u` escape with `left` digits to come; `high` is the first half of a pair. -/
  | code (read : List Char) (high : Option Nat) (left : Nat) (value : Nat)
  /-- After the first half of a pair: a backslash must follow. -/
  | pair (read : List Char) (high : Nat)
  /-- Between the backslash and the `u` of the second half. -/
  | pairMark (read : List Char) (high : Nat)
deriving DecidableEq, Repr

/-- The pass: the tokens found, last first, and where it stands. -/
structure Scan where
  found : List Token
  mode : Mode
deriving DecidableEq, Repr

/-- What a complete `\u` escape gives: a character, or the first half of a pair. -/
def afterCode (found : List Token) (read : List Char) (high : Option Nat) (value : Nat) : Option Scan :=
  match high with
  | none =>
    if 0xDC00 ≤ value ∧ value ≤ 0xDFFF then none
    else if 0xD800 ≤ value ∧ value ≤ 0xDBFF then some ⟨found, .pair read value⟩
    else some ⟨found, .text (Char.ofNat value :: read)⟩
  | some high =>
    if 0xDC00 ≤ value ∧ value ≤ 0xDFFF then
      let combined := 0x10000 + (high - 0xD800) * 0x400 + (value - 0xDC00)
      some ⟨found, .text (Char.ofNat combined :: read)⟩
    else none

def startToken (found : List Token) (c : Char) : Scan :=
  if isSpace c then ⟨found, .idle⟩
  else
    match Token.structural? c with
    | some t => ⟨t :: found, .idle⟩
    | none => if c = '"' then ⟨found, .text []⟩ else ⟨found, .word [c]⟩

def endsWord (c : Char) : Bool := isSpace c || (Token.structural? c).isSome || c == '"'

def Scan.step (s : Scan) (c : Char) : Option Scan :=
  match s.mode with
  | .idle => some (startToken s.found c)
  | .word read =>
    if endsWord c then (Token.ofWord? read.reverse).map fun t => startToken (t :: s.found) c
    else some ⟨s.found, .word (c :: read)⟩
  | .text read =>
    if c = '"' then some ⟨.string (String.ofList read.reverse) :: s.found, .idle⟩
    else if c = '\\' then some ⟨s.found, .escape read⟩
    else if c.toNat < 0x20 then none
    else some ⟨s.found, .text (c :: read)⟩
  | .escape read =>
    if c = 'u' then some ⟨s.found, .code read none 4 0⟩
    else (unescape? c).map fun e => ⟨s.found, .text (e :: read)⟩
  | .code read high left value =>
    match hexValue? c with
    | none => none
    | some d =>
      if left ≤ 1 then afterCode s.found read high (16 * value + d)
      else some ⟨s.found, .code read high (left - 1) (16 * value + d)⟩
  | .pair read high => if c = '\\' then some ⟨s.found, .pairMark read high⟩ else none
  | .pairMark read high => if c = 'u' then some ⟨s.found, .code read (some high) 4 0⟩ else none

def Scan.finish (s : Scan) : Option (List Token) :=
  match s.mode with
  | .idle => some s.found.reverse
  | .word read => (Token.ofWord? read.reverse).map fun t => (t :: s.found).reverse
  | _ => none

def tokens? (cs : List Char) : Option (List Token) :=
  (cs.foldlM Scan.step ⟨[], .idle⟩).bind Scan.finish

end Tributary.Json
