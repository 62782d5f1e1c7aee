/-!
# Blanks, pieces and replacements

The characters that separate words in any script, and trimming by them. Splitting at a separator, joining with one, and
replacing; occurrences are found from the left and do not overlap.

* `Text.isBlank`, `Text.trim` : blanks, and a text without those around it;
* `Text.pieces`, `Text.join` : what stands between the occurrences of a separator, and pieces with one between them;
* `Text.replace` : every occurrence replaced.
-/

namespace Tributary.Text

/-! ## Blanks -/

/-- White space: the control characters from tab to carriage return, the space, and the blanks of the
other blocks. -/
def isBlank (c : Char) : Bool :=
  let n := c.toNat
  (9 ≤ n && n ≤ 13) || n == 0x20 || n == 0x85 || n == 0xA0 || n == 0x1680 ||
  (0x2000 ≤ n && n ≤ 0x200A) || n == 0x2028 || n == 0x2029 || n == 0x202F || n == 0x205F ||
  n == 0x3000

def trimLeft (cs : List Char) : List Char := cs.dropWhile isBlank

def trimChars (cs : List Char) : List Char := (trimLeft (trimLeft cs).reverse).reverse

theorem length_trimLeft_le (cs : List Char) : (trimLeft cs).length ≤ cs.length :=
  (List.dropWhile_sublist _).length_le

theorem length_trimChars_le (cs : List Char) : (trimChars cs).length ≤ cs.length := by
  have hinner := length_trimLeft_le (trimLeft cs).reverse
  have houter := length_trimLeft_le cs
  simp only [trimChars, List.length_reverse] at hinner ⊢
  omega

def trim (s : String) : String := String.ofList (trimChars s.toList)

/-! ## Separators -/

/-- What stands between the occurrences of a separator; without a separator, the text itself. -/
def pieces (sep : List Char) (cs : List Char) : List (List Char) :=
  match cs with
  | [] => [[]]
  | c :: rest =>
    if sep ≠ [] ∧ sep.isPrefixOf (c :: rest) then [] :: pieces sep (rest.drop (sep.length - 1))
    else
      match pieces sep rest with
      | [] => [[c]]
      | p :: ps => (c :: p) :: ps
termination_by cs.length
decreasing_by all_goals simp; try omega

def join (sep : List Char) : List (List Char) → List Char
  | [] => []
  | [p] => p
  | p :: ps => p ++ sep ++ join sep ps

/-- Every occurrence of a text that is not empty replaced. -/
def replaceFound (old new : List Char) (cs : List Char) : List Char :=
  match cs with
  | [] => []
  | c :: rest =>
    if old ≠ [] ∧ old.isPrefixOf (c :: rest) then
      new ++ replaceFound old new (rest.drop (old.length - 1))
    else c :: replaceFound old new rest
termination_by cs.length
decreasing_by all_goals simp; try omega

/-- Every occurrence replaced; the empty text occurs around every character. -/
def replace (old new : List Char) (cs : List Char) : List Char :=
  if old = [] then new ++ cs.flatMap (fun c => c :: new) else replaceFound old new cs

def contains (part : List Char) : List Char → Bool
  | [] => part.isEmpty
  | c :: cs => part.isPrefixOf (c :: cs) || contains part cs

end Tributary.Text
