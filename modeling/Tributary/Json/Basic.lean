import Tributary.Decimal.Layout

/-!
# JSON trees

A tree keeps what a text says and a reader may still need: the order of an object's members, repeated
keys, and whether a number was written as an integer. What a repeated key or a large number means is
for the reader of the tree to decide.
-/

namespace Tributary

inductive Json where
  | null
  | bool (b : Bool)
  | int (n : Int)
  | float (x : Double)
  | string (s : String)
  | array (items : List Json)
  | object (members : List (String × Json))
deriving Repr, Inhabited

namespace Json

mutual

/-- How deep arrays and objects nest; a scalar nests nothing. -/
def depth : Json → Nat
  | array items => depthList items + 1
  | object members => depthMembers members + 1
  | _ => 0

def depthList : List Json → Nat
  | [] => 0
  | j :: js => max (depth j) (depthList js)

def depthMembers : List (String × Json) → Nat
  | [] => 0
  | (_, j) :: ms => max (depth j) (depthMembers ms)

end

/-- Documents nest at most this deep. -/
def maxDepth : Nat := 127

def members? : Json → Option (List (String × Json))
  | object ms => some ms
  | _ => none

def items? : Json → Option (List Json)
  | array js => some js
  | _ => none

def string? : Json → Option String
  | string s => some s
  | _ => none

def bool? : Json → Option Bool
  | bool b => some b
  | _ => none

def int? : Json → Option Int
  | int n => some n
  | _ => none

def isNull : Json → Bool
  | null => true
  | _ => false

def get? (j : Json) (key : String) : Option Json :=
  match j with
  | object ms => (ms.reverse.find? (fun m => m.1 == key)).map Prod.snd
  | _ => none

def ofNames (names : List String) : Json := array (names.map string)

def ofNats (ns : List Nat) : Json := array (ns.map fun (n : Nat) => int n)

/-- A tree that may be missing, null without one. -/
def orNull (j : Option Json) : Json := j.getD null

/-- A name that may be missing, null without one. -/
def ofName? (name : Option String) : Json := orNull (name.map string)

end Json

end Tributary
