import Tributary.Json.Printer
import Tributary.Json.Reader
import Tributary.Time.Moment
import Tributary.Value.Basic

/-!
# Values as JSON

A value is written as plain JSON: a point in time as its timestamp, a byte string as an array of
numbers, a whole double as an integer. Reading gives only what JSON has; of a repeated key the last
member counts, and an integer beyond 64 bits is taken as a double.

* `Value.toJson`, `Value.display`, `Value.pretty` : writing;
* `Value.ofJson?`, `Value.ofText?` : reading.
-/

namespace Tributary.Value

/-- The tree of a number; what JSON has no number for is null. -/
def numberJson (n : Number) : Json :=
  match n.toInt? with
  | some i => .int i.toInt
  | none => if n.toDouble.isFinite then .float n.toDouble else .null

mutual

def toJson : Value → Json
  | null => .null
  | bool b => .bool b
  | number n => numberJson n
  | string s => .string s
  | time ns => .string (Time.timestamp ns)
  | bytes data => .array (data.map fun b => .int b.toNat)
  | array vs => .array (toJsonItems vs)
  | object fs => .object (toJsonMembers fs)

def toJsonItems : List Value → List Json
  | [] => []
  | v :: vs => toJson v :: toJsonItems vs

def toJsonMembers : List (String × Value) → List (String × Json)
  | [] => []
  | (k, v) :: fs => (k, toJson v) :: toJsonMembers fs

end

/-! ## Writing step by step -/

end Tributary.Value

namespace Tributary

/-- What a value asks a writer to write. The keys of a map may be anything. -/
inductive Serial where
  | none
  | bool (b : Bool)
  | int (n : Int)
  | double (x : Double)
  | string (s : String)
  | bytes (data : List UInt8)
  | items (items : List Serial)
  | entries (entries : List (Serial × Serial))

namespace Serial

inductive Error where
  | keyNotString
deriving DecidableEq, Repr

def Error.message : Error → String
  | keyNotString => "key must be a string"

/-- The text of a key: scalars other than doubles have one. -/
def key? : Serial → Except Error String
  | string s => .ok s
  | int n => .ok (toString n)
  | bool b => .ok (toString b)
  | _ => .error .keyNotString

mutual

/-- The tree that is written; what JSON has no number for is null. -/
def toJson? : Serial → Except Error Json
  | none => .ok .null
  | bool b => .ok (.bool b)
  | int n => .ok (.int n)
  | double x => .ok (if x.isFinite then .float x else .null)
  | string s => .ok (.string s)
  | bytes data => .ok (.array (data.map fun b => .int b.toNat))
  | items ss => do return .array (← toJsonItems? ss)
  | entries es => do return .object (← toJsonEntries? es)

def toJsonItems? : List Serial → Except Error (List Json)
  | [] => .ok []
  | s :: ss => do
    let j ← toJson? s
    let js ← toJsonItems? ss
    return j :: js

def toJsonEntries? : List (Serial × Serial) → Except Error (List (String × Json))
  | [] => .ok []
  | (k, s) :: es => do
    let name ← key? k
    let j ← toJson? s
    let ms ← toJsonEntries? es
    return (name, j) :: ms

end

end Serial

namespace Value

/-- What a number asks to write: whole doubles are written as integers. -/
def serializeNumber (n : Number) : Serial :=
  match n.toInt? with
  | some i => .int i.toInt
  | none => .double n.toDouble

mutual

def serialize : Value → Serial
  | null => .none
  | bool b => .bool b
  | number n => serializeNumber n
  | string s => .string s
  | time ns => .string (Time.timestamp ns)
  | bytes data => .bytes data
  | array vs => .items (serializeItems vs)
  | object fs => .entries (serializeFields fs)

def serializeItems : List Value → List Serial
  | [] => []
  | v :: vs => serialize v :: serializeItems vs

def serializeFields : List (String × Value) → List (Serial × Serial)
  | [] => []
  | (k, v) :: fs => (.string k, serialize v) :: serializeFields fs

end

end Value

end Tributary

namespace Tributary.Value

/-! ## Texts -/

def display (v : Value) : String := v.toJson.compact

/-- The JSON text with one item a line. -/
def pretty (v : Value) : String := v.toJson.pretty

def ofInteger? (n : Int) : Option Value :=
  match int64? n with
  | some i => some (number (.int i))
  | none =>
    let x := Double.ofInt n
    if x.isFinite then some (number (.float x)) else none

mutual

/-- The value of a tree, absent when a number is beyond the range of doubles. -/
def ofJson? : Json → Option Value
  | .null => some null
  | .bool b => some (bool b)
  | .int n => ofInteger? n
  | .float x => if x.isFinite then some (number (.float x)) else none
  | .string s => some (string s)
  | .array js => (ofJsonItems? js).map array
  | .object ms => (ofJsonMembers? ms).map ofFields

def ofJsonItems? : List Json → Option (List Value)
  | [] => some []
  | j :: js =>
    match ofJson? j, ofJsonItems? js with
    | some v, some vs => some (v :: vs)
    | _, _ => none

def ofJsonMembers? : List (String × Json) → Option (List (String × Value))
  | [] => some []
  | (k, j) :: ms =>
    match ofJson? j, ofJsonMembers? ms with
    | some v, some fs => some ((k, v) :: fs)
    | _, _ => none

end

/-- The value of a tree that is not nested too deep. -/
def ofDocument? (j : Json) : Option Value :=
  if j.depth ≤ Json.maxDepth then ofJson? j else none

def ofText? (s : String) : Option Value := (Json.parse? s).bind ofDocument?

end Tributary.Value
