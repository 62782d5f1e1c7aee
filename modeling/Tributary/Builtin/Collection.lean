import Tributary.Builtin.Argument
import Tributary.Value.Order

/-!
# Builtins on collections

Arrays, with null for the empty one, and lookups in arrays and objects. A lambda is given as a function
from its arguments to an outcome; it is called on the items in order, and the first error ends the call.
-/

namespace Tributary.Builtin

def mapItems (f : Value → Outcome) : List Value → Except EvalError (List Value)
  | [] => .ok []
  | v :: vs => do
    let w ← f v
    let ws ← mapItems f vs
    .ok (w :: ws)

/-- The items on which a predicate gives true; null counts as false. -/
def filterItems (f : Value → Outcome) : List Value → Except EvalError (List Value)
  | [] => .ok []
  | v :: vs => do
    match ← f v with
    | .bool true => (filterItems f vs).map (v :: ·)
    | .bool false => filterItems f vs
    | .null => filterItems f vs
    | w => .error (filter.mismatch .predicate w)

def foldItems (f : Value → Value → Outcome) (acc : Value) : List Value → Outcome
  | [] => .ok acc
  | v :: vs => do
    let acc ← f acc v
    foldItems f acc vs

/-- The numbers of an array; nulls stand for missing data and are left out. -/
def numbersOf (b : Builtin) : List Value → Except EvalError (List Number)
  | [] => .ok []
  | .null :: vs => numbersOf b vs
  | v :: vs => do
    let n ← b.takeNumber v
    let ns ← numbersOf b vs
    .ok (n :: ns)

/-- The sum, from the left. -/
def total (ns : List Number) : Number := ns.foldl Number.add (.int 0)

def runMap (f : Value → Outcome) (items : Value) : Outcome := do
  let vs ← map.takeArray items
  return .array (← mapItems f vs)

def runFilter (f : Value → Outcome) (items : Value) : Outcome := do
  let vs ← filter.takeArray items
  return .array (← filterItems f vs)

def runFold (f : Value → Value → Outcome) (items seed : Value) : Outcome := do
  let vs ← fold.takeArray items
  foldItems f seed vs

def runSum (items : Value) : Outcome := do
  let vs ← sum.takeArray items
  return .number (total (← numbersOf sum vs))

/-- The mean, null when there is nothing to take it of. -/
def runAvg (items : Value) : Outcome := do
  let vs ← avg.takeArray items
  let ns ← numbersOf avg vs
  if ns.isEmpty then return .null
  else return .number ((total ns).divide (.ofNat ns.length))

def runLen : Value → Outcome
  | .null => .ok (.ofNat 0)
  | .string s => .ok (.ofNat s.length)
  | .array vs => .ok (.ofNat vs.length)
  | .object fs => .ok (.ofNat fs.length)
  | .bytes data => .ok (.ofNat data.length)
  | v => .error (len.mismatch .sized v)

/-- Pairs of items at one place, as many as the shorter array has. -/
def runZip (left right : Value) : Outcome := do
  let vs ← zip.takeArray left
  let ws ← zip.takeArray right
  return .array (List.zipWith (fun v w => .array [v, w]) vs ws)

/-- The items by increasing key, those with equal keys as they stood. -/
def runSortBy (f : Value → Outcome) (items : Value) : Outcome := do
  let vs ← sortBy.takeArray items
  let keys ← mapItems f vs
  return .array ((Value.sortOn Prod.fst (keys.zip vs)).map Prod.snd)

def entry? (container key : Value) : Option Value :=
  match container, key with
  | .object fs, .string k => Fields.get? fs k
  | .array vs, .number n =>
    match n.toInt? with
    | some i => if 0 ≤ i.toInt then vs[i.toInt.toNat]? else none
    | none => none
  | _, _ => none

/-- The entry of a container under a key, or the default where there is none or it is null. -/
def runGet (container key default : Value) : Outcome :=
  match entry? container key with
  | some .null => .ok default
  | some v => .ok v
  | none => .ok default

end Tributary.Builtin
