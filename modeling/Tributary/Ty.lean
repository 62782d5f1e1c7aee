import Tributary.Json.Basic
import Tributary.Text.Basic

/-!
# Types

The static types of attributes, parameters and expressions. `any` is the undetermined type: it goes
everywhere and takes everything, so that a check fails only where both sides are known.

* `Ty.accepts` : whether what has one type may stand where another is expected;
* `Ty.unify` : the type of what may come from either of two places;
* `Ty.display`, `Ty.read` : the names of types.
-/

namespace Tributary

inductive Ty where
  | any
  | null
  | boolean
  | integer
  | number
  | string
  | datetime
  | binary
  | image
  | array (item : Ty)
  | object
  | lambda (arity : Nat)
deriving DecidableEq, Repr, Inhabited

namespace Ty

def isAny : Ty → Bool
  | any => true
  | _ => false

def isNumeric : Ty → Bool
  | integer | number => true
  | _ => false

def element : Ty → Ty
  | array item => item
  | binary => integer
  | _ => any

/-- Whether what has the second type may stand where the first is expected. Missing data is tolerated
everywhere, integers and numbers go for each other, and so do objects and images. -/
def accepts : Ty → Ty → Bool
  | any, _ => true
  | _, any => true
  | _, null => true
  | number, integer => true
  | integer, number => true
  | array expected, array actual => accepts expected actual
  | object, image => true
  | image, object => true
  | binary, array item => accepts integer item
  | expected, actual => expected == actual

/-- The family in which values of a type can be ordered. -/
def family? : Ty → Option String
  | integer | number => some "number"
  | string => some "string"
  | boolean => some "boolean"
  | datetime => some "datetime"
  | _ => none

/-- The type of what may come from either of two places. -/
def unify (a b : Ty) : Ty :=
  if a = b then a
  else
    match a, b with
    | null, t => t
    | t, null => t
    | integer, number => number
    | number, integer => number
    | array a, array b => array (unify a b)
    | _, _ => any

def display : Ty → String
  | any => "any"
  | null => "null"
  | boolean => "boolean"
  | integer => "integer"
  | number => "number"
  | string => "string"
  | datetime => "datetime"
  | binary => "binary"
  | image => "image"
  | array any => "array"
  | array item => "array<" ++ display item ++ ">"
  | object => "object"
  | lambda 1 => "lambda with 1 parameter"
  | lambda n => "lambda with " ++ toString n ++ " parameters"

/-- The plain names of types, in lower case. -/
def names : List (String × Ty) := [
  ("any", any), ("string", string), ("str", string), ("text", string), ("integer", integer),
  ("int", integer), ("number", number), ("float", number), ("decimal", number), ("boolean", boolean),
  ("bool", boolean), ("datetime", datetime), ("date", datetime), ("time", datetime),
  ("timestamp", datetime), ("array", array any), ("list", array any), ("object", object),
  ("dict", object), ("map", object), ("binary", binary), ("bytes", binary), ("image", image)]

structure UnknownName where
  name : String
deriving DecidableEq, Repr

def UnknownName.message (e : UnknownName) : String := "unknown type `" ++ e.name ++ "`"

def afterWord? (word cs : List Char) : Option (List Char) :=
  if word.isPrefixOf cs then some (cs.drop word.length) else none

/-- What stands inside `array<…>` or `list<…>`. -/
def itemText? (cs : List Char) : Option (List Char) :=
  match (afterWord? "array<".toList cs).or (afterWord? "list<".toList cs) with
  | some rest => if rest.getLast? = some '>' then some rest.dropLast else none
  | none => none

theorem length_afterWord? {word cs rest : List Char} (h : afterWord? word cs = some rest) :
    rest.length + word.length = cs.length := by
  unfold afterWord? at h
  split at h
  · next hstart =>
    cases h
    have hle := (List.isPrefixOf_iff_prefix.mp hstart).length_le
    rw [List.length_drop]
    omega
  · cases h

theorem length_itemText? {cs inner : List Char} (h : itemText? cs = some inner) : inner.length < cs.length := by
  unfold itemText? at h
  split at h
  · next rest hopened =>
    split at h
    · cases h
      have hrest : rest.length < cs.length := by
        rcases Option.or_eq_some_iff.mp hopened with hlong | ⟨-, hshort⟩
        · have hlen := length_afterWord? hlong
          simp at hlen
          omega
        · have hlen := length_afterWord? hshort
          simp at hlen
          omega
      rw [List.length_dropLast]
      omega
    · cases h
  · cases h

theorem length_itemText?_trimChars {cs inner : List Char} (h : itemText? (Text.trimChars cs) = some inner) :
    inner.length < cs.length :=
  Nat.lt_of_lt_of_le (length_itemText? h) (Text.length_trimChars_le cs)

/-- The type that a name in a declaration stands for. Blanks around a name and the letter case of plain
names do not matter. -/
def readChars (cs : List Char) : Except UnknownName Ty :=
  match _ : itemText? (Text.trimChars cs) with
  | some inner =>
    match readChars inner with
    | .ok item => .ok (array item)
    | .error e => .error e
  | none =>
    match names.lookup (String.ofList ((Text.trimChars cs).map Char.toLower)) with
    | some t => .ok t
    | none => .error ⟨String.ofList (Text.trimChars cs)⟩
termination_by cs.length
decreasing_by exact length_itemText?_trimChars ‹_›

/-- The type that a name in a declaration stands for. -/
def read (s : String) : Except UnknownName Ty := readChars s.toList

/-- The place of a type's sort among the sorts. -/
def sort : Ty → Nat
  | any => 0
  | null => 1
  | boolean => 2
  | integer => 3
  | number => 4
  | string => 5
  | datetime => 6
  | binary => 7
  | image => 8
  | array _ => 9
  | object => 10
  | lambda _ => 11

/-- Types by sort, arrays by their items, lambdas by arity. -/
def order : Ty → Ty → Ordering
  | array a, array b => order a b
  | lambda m, lambda n => compare m n
  | a, b => compare a.sort b.sort

def toJson : Ty → Json
  | array item => .object [("array", toJson item)]
  | lambda n => .object [("lambda", .int n)]
  | t => .string t.display

/-- The types that are written as their names. -/
def plain : List Ty :=
  [any, null, boolean, integer, number, string, datetime, binary, image, object]

/-- The type of a tree; an array or a lambda is an object with that one member. -/
def ofJson? : Json → Option Ty
  | .string name => plain.find? fun t => t.display == name
  | .object [(key, j)] =>
    if key = "array" then (ofJson? j).map array
    else if key = "lambda" then
      match j with
      | .int n => if 0 ≤ n ∧ n < 0x10000000000000000 then some (lambda n.toNat) else none
      | _ => none
    else none
  | _ => none

/-- The type of a tree that is not nested too deep. -/
def ofDocument? (j : Json) : Option Ty :=
  if j.depth ≤ Json.maxDepth then ofJson? j else none

end Ty

end Tributary
