import Tributary.Text.Normal.Combining
import Tributary.Text.Normal.Decomposition

/-!
# Normal form

One letter may be written as a whole or in parts, and marks of different classes in any order. In normal
form letters are whole wherever they can be, and marks stand in the order of their classes.

* `decompose` : letters in parts;
* `order` : marks in the order of their classes;
* `compose` : letters made whole;
* `normalize` : the normal form.
-/

namespace Tributary.Text

/-! ## Hangul

The syllables of Hangul are laid out so that their parts can be computed: of 19 initials, 21 vowels and 27
finals or none.
-/

/-- The two parts of a syllable: its initial and vowel, or the syllable without its final and the final. -/
def syllableParts? (n : Nat) : Option (Nat × Nat) :=
  if 0xAC00 ≤ n ∧ n ≤ 0xD7A3 then
    let index := n - 0xAC00
    if index % 28 = 0 then some (0x1100 + index / 588, 0x1161 + index % 588 / 28)
    else some (n - index % 28, 0x11A7 + index % 28)
  else none

def syllable? (a b : Nat) : Option Nat :=
  if 0x1100 ≤ a ∧ a ≤ 0x1112 ∧ 0x1161 ≤ b ∧ b ≤ 0x1175 then
    some (0xAC00 + (a - 0x1100) * 588 + (b - 0x1161) * 28)
  else if 0xAC00 ≤ a ∧ a ≤ 0xD7A3 ∧ (a - 0xAC00) % 28 = 0 ∧ 0x11A8 ≤ b ∧ b ≤ 0x11C2 then
    some (a + (b - 0x11A7))
  else none

/-! ## Parts -/

/-- The parts of a letter, which may have parts again. -/
def parts (c : Char) : List Char :=
  if c.toNat < 128 then [c]
  else match syllableParts? c.toNat with
    | some (a, b) => [Char.ofNat a, Char.ofNat b]
    | none => decompositionTable.convert c

/-- Letters in parts; there are no more than three levels of them. -/
def decompose (cs : List Char) : List Char := ((cs.flatMap parts).flatMap parts).flatMap parts

/-! ## Order -/

/-- Puts a character in front of ordered ones: a mark goes behind marks of lower classes. -/
def insertMark (c : Char) : List Char → List Char
  | [] => [c]
  | d :: ds =>
    if 0 < combiningClass d ∧ combiningClass d < combiningClass c then d :: insertMark c ds
    else c :: d :: ds

def order (cs : List Char) : List Char := cs.foldr insertMark []

/-! ## Wholes -/

/-- The letters that two parts make, and their parts. -/
def wholes : Array Row :=
  decompositionTable.rows.filter fun r =>
    r.targets.length = 2 && !apartTable.contains (Char.ofNat r.first)

/-- The letter that a letter and what follows it make. -/
def whole? (a b : Char) : Option Char :=
  if b.toNat < 128 then none
  else match syllable? a.toNat b.toNat with
    | some n => some (Char.ofNat n)
    | none =>
      (wholes.find? fun r => r.targets == [a.toNat, b.toNat]).map fun r => Char.ofNat r.first

/-- Makes a letter whole with what follows it. The marks between, last first, did not go into the letter;
they keep a character of the same or a lower class from it. -/
def composeFrom (letter : Char) (between : List Char) : List Char → List Char
  | [] => letter :: between.reverse
  | c :: cs =>
    let isKept := between.head?.any fun d => combiningClass c ≤ combiningClass d
    match if isKept then none else whole? letter c with
    | some l => composeFrom l between cs
    | none =>
      if combiningClass c = 0 then letter :: between.reverse ++ composeFrom c [] cs
      else composeFrom letter (c :: between) cs

/-- Letters made whole; marks in front of the first letter stay. -/
def compose : List Char → List Char
  | [] => []
  | c :: cs => if combiningClass c = 0 then composeFrom c [] cs else c :: compose cs

def normalize (cs : List Char) : List Char := compose (order (decompose cs))

end Tributary.Text
