import Tributary.Format.Regex

/-!
# Email addresses and identifiers of 128 bits

An email address is what one regular expression matches: a local part, an at sign, and two or more labels with dots
between them. An identifier of 128 bits has thirty-two hexadecimal digits, plain or with hyphens after the eighth,
twelfth, sixteenth and twentieth; the hyphenated form may stand in braces or after `urn:uuid:`.

* `Email.pattern` : the expression for addresses, `Email.isEmail` : whether a text is one;
* `Uuid.isUuid` : whether a text is an identifier.
-/

namespace Tributary.Email

/-- The ranges of letters and digits. -/
def alnum : List (Char × Char) := [('A', 'Z'), ('a', 'z'), ('0', '9')]

/-- What may stand before the at sign beside letters and digits. -/
def marks : List Char :=
  ['.', '!', '#', '$', '%', '&', '\x27', '*', '+', '/', '=', '?', '^', '_', '\x60', '\x7b', '|', '\x7d', '~', '-']

/-- A letter or digit, and up to 61 letters, digits and hyphens and a letter or digit behind it. -/
def label : Regex :=
  .seq (.set alnum) (.times (.seq (.times (.set (alnum ++ [('-', '-')])) 0 (some 61)) (.set alnum)) 0 (some 1))

def pattern : Regex :=
  .seq .start
    (.seq (.times (.set (alnum ++ marks.map fun c => (c, c))) 1 none)
      (.seq (.char '@')
        (.seq label
          (.seq (.times (.seq (.char '.') label) 1 none) .stop))))

def isEmail (cs : List Char) : Bool := pattern.isMatch cs

end Tributary.Email

namespace Tributary.Uuid

def isHex (c : Char) : Bool := c.isDigit || ('a' ≤ c && c ≤ 'f') || ('A' ≤ c && c ≤ 'F')

def isPlain (cs : List Char) : Bool := cs.length == 32 && cs.all isHex

/-- Digits in the given numbers, a hyphen between two groups. -/
def isGrouped : List Nat → List Char → Bool
  | [], cs => cs.isEmpty
  | [n], cs => cs.length == n && cs.all isHex
  | n :: ns, cs =>
    (cs.take n).length == n && (cs.take n).all isHex &&
      match cs.drop n with
      | '-' :: rest => isGrouped ns rest
      | _ => false

def isHyphenated (cs : List Char) : Bool := isGrouped [8, 4, 4, 4, 12] cs

def isBraced : List Char → Bool
  | '\x7b' :: rest => rest.getLast? == some '\x7d' && isHyphenated rest.dropLast
  | _ => false

def isUrn (cs : List Char) : Bool :=
  (cs.take 9).map Char.toLower == "urn:uuid:".toList && isHyphenated (cs.drop 9)

def isUuid (cs : List Char) : Bool := isPlain cs || isHyphenated cs || isBraced cs || isUrn cs

end Tributary.Uuid
