import Tributary.Number

/-!
# Values

The values that flow through evaluation: what JSON has, and besides it points in time and byte strings.
The fields of an object stand in increasing order of their names, each name once; every operation here
keeps that order.

* `Value` : a value;
* `Fields.insert`, `Fields.erase`, `Fields.get?` : the fields of an object;
* `Value.index` : an element or field by a key value, null where there is none.
-/

namespace Tributary

/-- A value. A point in time is given by the nanoseconds since the start of 1970. -/
inductive Value where
  | null
  | bool (b : Bool)
  | number (n : Number)
  | string (s : String)
  | time (ns : Int64)
  | bytes (data : List UInt8)
  | array (items : List Value)
  | object (fields : List (String × Value))
deriving Repr, Inhabited

/-- The fields of an object, by increasing name. -/
abbrev Fields := List (String × Value)

namespace Fields

def get? : Fields → String → Option Value
  | [], _ => none
  | (k, v) :: fs, name => if k = name then some v else get? fs name

def insert : Fields → String → Value → Fields
  | [], name, value => [(name, value)]
  | (k, v) :: fs, name, value =>
    if k = name then (name, value) :: fs
    else if name < k then (name, value) :: (k, v) :: fs
    else (k, v) :: insert fs name value

def erase : Fields → String → Fields
  | [], _ => []
  | (k, v) :: fs, name => if k = name then fs else (k, v) :: erase fs name

/-- The fields of a list of pairs; of two pairs with one name the later counts. -/
def ofList (pairs : List (String × Value)) : Fields :=
  pairs.foldl (fun fs p => insert fs p.1 p.2) []

def names (fs : Fields) : List String := fs.map Prod.fst

end Fields

namespace Value

/-- The object with the given fields, the later of two with one name. -/
def ofFields (pairs : List (String × Value)) : Value := object (Fields.ofList pairs)

def ofNat (n : Nat) : Value := number (.ofNat n)

def kind : Value → String
  | null => "null"
  | bool _ => "boolean"
  | number _ => "number"
  | string _ => "string"
  | time _ => "datetime"
  | bytes _ => "binary"
  | array _ => "array"
  | object _ => "object"

def isNull : Value → Bool
  | null => true
  | _ => false

/-- A field of an object; absent too where the value is no object. -/
def field? : Value → String → Option Value
  | object fs, name => Fields.get? fs name
  | _, _ => none

/-- A field of an object, null where there is none. -/
def field (v : Value) (name : String) : Value := (v.field? name).getD null

/-- An item of an array, null where there is none. -/
def item : Value → Nat → Value
  | array vs, i => (vs[i]?).getD null
  | _, _ => null

/-- A field by a string or an item by a number; null where there is none. -/
def index (v key : Value) : Value :=
  match v, key with
  | object fs, string s => (Fields.get? fs s).getD null
  | array vs, number n =>
    match n.toInt? with
    | some i => if 0 ≤ i.toInt then (vs[i.toInt.toNat]?).getD null else null
    | none => null
  | _, _ => null

/-- Why a value cannot be taken as something. -/
inductive AccessError where
  | notBool
  | notString
  | notNumber
  | notArray
  | notObject
deriving DecidableEq, Repr

def AccessError.message : AccessError → String
  | notBool => "not a bool"
  | notString => "not a string"
  | notNumber => "not a number"
  | notArray => "not an array"
  | notObject => "not an object"

def asBool : Value → Except AccessError Bool
  | bool b => .ok b
  | _ => .error .notBool

def asString : Value → Except AccessError String
  | string s => .ok s
  | _ => .error .notString

def asNumber : Value → Except AccessError Number
  | number n => .ok n
  | _ => .error .notNumber

def asArray : Value → Except AccessError (List Value)
  | array vs => .ok vs
  | _ => .error .notArray

def asObject : Value → Except AccessError Fields
  | object fs => .ok fs
  | _ => .error .notObject

/-- The value with an item put at the end of the array. -/
def push (v new : Value) : Except AccessError Value :=
  v.asArray.map fun vs => array (vs ++ [new])

def eraseField (v : Value) (name : String) : Except AccessError Value :=
  v.asObject.map fun fs => object (Fields.erase fs name)

/-- The value with a field set; null counts as the empty object. -/
def insertField (v : Value) (name : String) (new : Value) : Except AccessError Value :=
  match v with
  | null => .ok (object [(name, new)])
  | v => v.asObject.map fun fs => object (Fields.insert fs name new)

mutual

/-- Whether the fields of every object inside stand in increasing order of their names. -/
def isOrdered : Value → Bool
  | array vs => isOrderedList vs
  | object fs => isOrderedFields fs
  | _ => true

def isOrderedList : List Value → Bool
  | [] => true
  | v :: vs => isOrdered v && isOrderedList vs

def isOrderedFields : List (String × Value) → Bool
  | [] => true
  | [(_, v)] => isOrdered v
  | (k, v) :: (k', v') :: fs => decide (k < k') && isOrdered v && isOrderedFields ((k', v') :: fs)

end

end Value

end Tributary
