import Tributary.Json.Basic
import Tributary.Number

/-!
# Writing JSON trees

Two forms: compact, without blanks, and pretty, with one item a line and two blanks a level. In strings
only the quote, the backslash and the control characters below the space are escaped.
-/

namespace Tributary.Json

def hexDigit (n : Nat) : Char := if n < 10 then Char.ofNat (48 + n) else Char.ofNat (87 + n)

def escape (c : Char) : List Char :=
  if c = '"' then ['\\', '"']
  else if c = '\\' then ['\\', '\\']
  else if c = '\x08' then ['\\', 'b']
  else if c = '\x0c' then ['\\', 'f']
  else if c = '\n' then ['\\', 'n']
  else if c = '\r' then ['\\', 'r']
  else if c = '\t' then ['\\', 't']
  else if c.toNat < 0x20 then ['\\', 'u', '0', '0', hexDigit (c.toNat / 16), hexDigit (c.toNat % 16)]
  else [c]

def quote (s : String) : List Char := '"' :: (s.toList.flatMap escape ++ ['"'])

/-- A number that was written, or computed, as a double; what is not finite has no number. -/
def floatChars (x : Double) : List Char :=
  if x.isFinite then (Decimal.Layout.json.text x).toList else "null".toList

def intChars (n : Int) : List Char := (toString n).toList

mutual

def compactChars : Json → List Char
  | null => "null".toList
  | bool b => (if b then "true" else "false").toList
  | int n => intChars n
  | float x => floatChars x
  | string s => quote s
  | array items => '[' :: (compactItems items ++ [']'])
  | object members => '\x7b' :: (compactMembers members ++ ['\x7d'])

def compactItems : List Json → List Char
  | [] => []
  | [j] => compactChars j
  | j :: js => compactChars j ++ ',' :: compactItems js

def compactMembers : List (String × Json) → List Char
  | [] => []
  | [(k, j)] => quote k ++ ':' :: compactChars j
  | (k, j) :: ms => quote k ++ ':' :: (compactChars j ++ ',' :: compactMembers ms)

end

/-- The start of a line at a level. -/
def indent (level : Nat) : List Char := '\n' :: List.replicate (2 * level) ' '

mutual

def prettyChars (level : Nat) : Json → List Char
  | null => "null".toList
  | bool b => (if b then "true" else "false").toList
  | int n => intChars n
  | float x => floatChars x
  | string s => quote s
  | array [] => ['[', ']']
  | array (j :: js) =>
    '[' :: (indent (level + 1) ++ prettyChars (level + 1) j ++ prettyItems (level + 1) js ++
      indent level ++ [']'])
  | object [] => ['\x7b', '\x7d']
  | object ((k, j) :: ms) =>
    '\x7b' :: (indent (level + 1) ++ quote k ++ ':' :: ' ' :: (prettyChars (level + 1) j ++
      prettyMembers (level + 1) ms ++ indent level ++ ['\x7d']))

def prettyItems (level : Nat) : List Json → List Char
  | [] => []
  | j :: js => ',' :: (indent level ++ prettyChars level j ++ prettyItems level js)

def prettyMembers (level : Nat) : List (String × Json) → List Char
  | [] => []
  | (k, j) :: ms =>
    ',' :: (indent level ++ quote k ++ ':' :: ' ' :: (prettyChars level j ++ prettyMembers level ms))

end

def compact (j : Json) : String := String.ofList (compactChars j)

def pretty (j : Json) : String := String.ofList (prettyChars 0 j)

end Tributary.Json
