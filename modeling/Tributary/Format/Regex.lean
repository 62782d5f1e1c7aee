/-!
# Regular expressions

A regular expression matches from a place of a text to a later one. A place is given by what is left of the text there,
so that the start of the text is the whole text and its end is nothing.

* `Regex` : regular expressions, with anchors and counted repetition;
* `Regex.ends` : the places up to which an expression matches from one;
* `Regex.isMatch` : whether it matches anywhere in a text.
-/

namespace Tributary

inductive Regex where
  /-- The start of the text. -/
  | start
  /-- The end of the text. -/
  | stop
  | char (c : Char)
  /-- A character from one of these ranges. -/
  | set (ranges : List (Char × Char))
  | seq (r s : Regex)
  /-- So many times at least, and so many at most if that is given. -/
  | times (r : Regex) (least : Nat) (most : Option Nat)
deriving DecidableEq, Repr

namespace Regex

def inRanges (ranges : List (Char × Char)) (c : Char) : Bool := ranges.any fun p => p.1 ≤ c && c ≤ p.2

/-- The places after exactly `n` rounds of steps. -/
def rounds (step : List Char → List (List Char)) : Nat → List (List Char) → List (List Char)
  | 0, places => places
  | n + 1, places => rounds step n (places.flatMap step)

/-- The places after up to `n` rounds of steps. -/
def upTo (step : List Char → List (List Char)) : Nat → List (List Char) → List (List Char)
  | 0, places => places
  | n + 1, places => places ++ upTo step n (places.flatMap step)

/-- The places up to which an expression matches from one. Where no most is given, each round beyond the least either
leads on or can be left out, so that no more of them are needed than characters are left. -/
def ends (text : List Char) : Regex → List Char → List (List Char)
  | start, cs => if cs = text then [cs] else []
  | stop, cs => if cs = [] then [cs] else []
  | char d, c :: cs => if c = d then [cs] else []
  | set ranges, c :: cs => if inRanges ranges c then [cs] else []
  | char _, [] | set _, [] => []
  | seq r s, cs => (ends text r cs).flatMap (ends text s)
  | times r least most, cs =>
    match most with
    | some most => if least ≤ most then upTo (ends text r) (most - least) (rounds (ends text r) least [cs]) else []
    | none => upTo (ends text r) cs.length (rounds (ends text r) least [cs])

def isMatch (r : Regex) (text : List Char) : Bool :=
  (List.range (text.length + 1)).any fun i => !(ends text r (text.drop i)).isEmpty

end Regex

end Tributary
