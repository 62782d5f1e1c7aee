import Tributary.Json.Basic
import Tributary.Json.Token

/-!
# Reading JSON trees

A tree is built from tokens by one pass with a stack of the arrays and objects still open.

* `Json.Building.step` : what one token does;
* `Json.parse?` : the tree that a text spells, absent when it spells none.
-/

namespace Tributary.Json

/-- An array or object still open; its parts are kept last first. -/
inductive Opened where
  | array (items : List Json)
  | object (members : List (String × Json)) (key : String)

inductive Expecting where
  /-- A value. -/
  | value
  /-- A value, or the end of the array just opened. -/
  | item
  /-- A key. -/
  | key (members : List (String × Json))
  /-- A key, or the end of the object just opened. -/
  | member
  /-- The colon after a key. -/
  | colon (members : List (String × Json)) (key : String)
  /-- What follows the value just completed. -/
  | rest (value : Json)

/-- The pass: the containers open around the place, innermost first, and what may come next. -/
structure Building where
  opened : List Opened
  next : Expecting

/-- A complete value, or the start of a container, where a value may stand. -/
def startValue (opened : List Opened) : Token → Option Building
  | .null => some ⟨opened, .rest .null⟩
  | .bool b => some ⟨opened, .rest (.bool b)⟩
  | .int n => some ⟨opened, .rest (.int n)⟩
  | .float x => some ⟨opened, .rest (.float x)⟩
  | .string s => some ⟨opened, .rest (.string s)⟩
  | .openArray => some ⟨opened, .item⟩
  | .openObject => some ⟨opened, .member⟩
  | _ => none

def Building.step (b : Building) (t : Token) : Option Building :=
  match b.next with
  | .value => startValue b.opened t
  | .item =>
    match t with
    | .closeArray => some ⟨b.opened, .rest (.array [])⟩
    | t => startValue (.array [] :: b.opened) t
  | .key members =>
    match t with
    | .string k => some ⟨b.opened, .colon members k⟩
    | _ => none
  | .member =>
    match t with
    | .string k => some ⟨b.opened, .colon [] k⟩
    | .closeObject => some ⟨b.opened, .rest (.object [])⟩
    | _ => none
  | .colon members k =>
    match t with
    | .colon => some ⟨.object members k :: b.opened, .value⟩
    | _ => none
  | .rest value =>
    match t, b.opened with
    | .comma, .array items :: outer => some ⟨.array (value :: items) :: outer, .value⟩
    | .closeArray, .array items :: outer => some ⟨outer, .rest (.array (value :: items).reverse)⟩
    | .comma, .object members k :: outer => some ⟨outer, .key ((k, value) :: members)⟩
    | .closeObject, .object members k :: outer =>
      some ⟨outer, .rest (.object ((k, value) :: members).reverse)⟩
    | _, _ => none

/-- The tree, once all tokens are used and nothing is open. -/
def Building.finish (b : Building) : Option Json :=
  match b.opened, b.next with
  | [], .rest value => some value
  | _, _ => none

def ofTokens? (ts : List Token) : Option Json :=
  (ts.foldlM Building.step ⟨[], .value⟩).bind Building.finish

def parse? (s : String) : Option Json := (tokens? s.toList).bind ofTokens?

end Tributary.Json
