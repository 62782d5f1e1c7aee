import Tributary.Text.Basic

/-!
# Tables of characters

A property of characters is a table, and a table is written as a text: one word for each row, in ascending
order, and all numbers in hexadecimal.

* `5C1-5C2` is a row of two characters that only says that they are in the table;
* `132=69,6A` is a row of one character that becomes two;
* `C0-D6>E0` is a row in which the first character becomes `E0`, the next one `E1`, and so on;
* `100-12E/2>101` is about every second character of its range.

`Table.find?` looks a character up by bisection.
-/

namespace Tributary.Text

/-- Every `step`-th code point from `first` to `last`, and what it becomes. The targets are those of the
first one; where the row `slides`, they move along with the code point. -/
structure Row where
  first : Nat
  last : Nat
  step : Nat
  slides : Bool
  targets : List Nat
deriving DecidableEq, Repr

/-- What a code point of the row's range becomes. -/
def Row.image? (r : Row) (n : Nat) : Option (List Nat) :=
  if (n - r.first) % r.step = 0 then
    some (if r.slides then r.targets.map (· + (n - r.first)) else r.targets)
  else none

/-- The value of a hexadecimal number in capital letters. -/
def hexNumber (cs : List Char) : Nat :=
  cs.foldl (fun n c => 16 * n + (if c.isDigit then c.toNat - 48 else c.toNat - 55)) 0

def Row.ofWord (word : List Char) : Row :=
  let isMark := fun c => c = '=' || c = '>'
  let source := word.takeWhile (!isMark ·)
  let image := word.drop source.length
  let bounds := (pieces ['-'] (source.takeWhile (· ≠ '/'))).map hexNumber
  { first := bounds.headD 0
    last := bounds.getLastD 0
    step := if source.contains '/' then hexNumber ((source.dropWhile (· ≠ '/')).drop 1) else 1
    slides := image.head? == some '>'
    targets := if image.length ≤ 1 then [] else (pieces [','] (image.drop 1)).map hexNumber }

def words (cs : List Char) : List (List Char) :=
  (cs.foldr (fun c (ws : List (List Char)) =>
    if c = ' ' || c = '\n' then [] :: ws
    else match ws with
      | [] => [[c]]
      | w :: ws => (c :: w) :: ws) []).filter (· ≠ [])

/-- Rows in ascending order that do not overlap. -/
structure Table where
  rows : Array Row

def Table.ofText (text : String) : Table := ⟨((words text.toList).map Row.ofWord).toArray⟩

/-- The row of a code point among those from `lo` to before `hi`. -/
def Table.rowFrom? (t : Table) (n lo hi : Nat) : Option Row :=
  if lo < hi then
    match t.rows[(lo + hi) / 2]? with
    | some r =>
      if n < r.first then t.rowFrom? n lo ((lo + hi) / 2)
      else if r.last < n then t.rowFrom? n ((lo + hi) / 2 + 1) hi
      else some r
    | none => none
  else none
termination_by hi - lo

def Table.find? (t : Table) (c : Char) : Option (List Nat) :=
  (t.rowFrom? c.toNat 0 t.rows.size).bind (·.image? c.toNat)

def Table.contains (t : Table) (c : Char) : Bool := (t.find? c).isSome

/-- The characters that a character becomes: itself if it is not in the table. -/
def Table.convert (t : Table) (c : Char) : List Char :=
  match t.find? c with
  | some ns => ns.map Char.ofNat
  | none => [c]

end Tributary.Text
