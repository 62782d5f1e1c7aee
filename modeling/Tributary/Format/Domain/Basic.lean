import Tributary.Format.Domain.Mapping
import Tributary.Format.Punycode
import Tributary.Text.Direction
import Tributary.Text.Joining
import Tributary.Text.Normal.Basic

/-!
# Domains

A domain is a row of labels with dots between them. A label with letters outside of ASCII may be written
with these letters or in punycode; the rules are about the letters, whichever way they are written.

* `Domain.prepare?` : a text in the form in which a domain holds it;
* `Domain.letters?` : the letters of a label;
* `Domain.isLabel` : the rules for the letters of one label;
* `Domain.isDirected` : the rules for a label next to letters written from right to left;
* `Domain.read?` : the domain of a text.
-/

namespace Tributary.Domain

/-! ## Characters -/

/-- What a character becomes; nothing for what a domain cannot have. -/
def mapChar? (c : Char) : Option (List Char) :=
  if c.toNat < 128 then some [c.toLower]
  else if refusedTable.contains c then none
  else some (mappedTable.convert c)

/-- A text in the form in which a domain holds it. -/
def prepare? (cs : List Char) : Option (List Char) :=
  (cs.mapM mapChar?).map fun css => Text.normalize css.flatten

def isForbidden (c : Char) : Bool :=
  c.toNat ≤ 0x20 || c.toNat == 0x7F || "%#/:<>?@[\\]^|".toList.contains c

def isAscii (c : Char) : Bool := c.toNat < 128

/-! ## Labels -/

def labels (cs : List Char) : List (List Char) := Text.pieces ['.'] cs

/-- Punycode that is longer is not read. -/
def maxPunycode : Nat := 2000

/-- A label with letters outside of ASCII is no longer than this. -/
def maxLetters : Nat := 1000

/-- Whether letters could have been written as they are: some outside of ASCII, all in their own form. -/
def isOwnForm (letters : List Char) : Bool :=
  !letters.all isAscii && prepare? letters == some letters

/-- The letters of a label, which may be in punycode. -/
def letters? : List Char → Option (List Char)
  | 'x' :: 'n' :: '-' :: '-' :: code =>
    if code.length ≤ maxPunycode then (Punycode.decode? code).filter isOwnForm else none
  | label => some label

/-- Whether what stands before a joiner, last first, ends in a sign that silences a vowel. -/
def endsInVirama (before : List Char) : Bool :=
  before.head?.any fun c => Text.combiningClass c = Text.virama

/-- Whether joiners stand only where they show: after a silenced vowel, or, if they keep letters apart,
between letters that would join. -/
def joinersFit (before : List Char) : List Char → Bool
  | [] => true
  | c :: after =>
    (if c.toNat = 0x200D then endsInVirama before
      else if c.toNat = 0x200C then
        endsInVirama before ||
          (Text.Joining.meets .next .both before && Text.Joining.meets .previous .both after)
      else true) &&
    joinersFit (c :: before) after

def isLabel (letters : List Char) : Bool :=
  !letters.head?.any Text.isMark && joinersFit [] letters &&
  (letters.all isAscii || letters.length ≤ maxLetters)

/-! ## Directions -/

/-- Whether a character makes the direction of a whole domain matter. -/
def isRightward (c : Char) : Bool :=
  !isAscii c && (Text.Direction.ofChar c = .right || Text.Direction.ofChar c = .arabicDigit)

/-- Whether a label reads the same next to labels of either direction. It starts with a letter and ends,
but for marks, in a letter of that direction or a digit; numbers are not mixed. -/
def isDirected (letters : List Char) : Bool :=
  let directions := letters.map Text.Direction.ofChar
  let last := (directions.reverse.dropWhile (· = .mark)).head?
  match directions.head? with
  | none => true
  | some .left =>
    (last = some .left || last = some .europeanDigit) &&
    directions.all fun d => d = .left || d = .europeanDigit || d = .neutral || d = .mark
  | some .right =>
    (last = some .right || last = some .europeanDigit || last = some .arabicDigit) &&
    (directions.all fun d => d ≠ .left && d ≠ .control) &&
    !(directions.contains .europeanDigit && directions.contains .arabicDigit)
  | some _ => false

/-! ## Domains -/

/-- The domain of a text, in lower case. -/
def read? (cs : List Char) : Option (List Char) := do
  let domain ← prepare? cs
  let all ← (labels domain).mapM letters?
  if domain.any isForbidden then none
  else if !all.all isLabel then none
  else if (all.any fun letters => letters.any isRightward) && !all.all isDirected then none
  else some domain

end Tributary.Domain
