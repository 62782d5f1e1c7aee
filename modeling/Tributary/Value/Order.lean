import Tributary.Value.Basic

/-!
# The order of values

Values of different sorts are ordered by sort: null, booleans, numbers, strings, times, byte strings,
arrays, objects. Within a sort, arrays and byte strings go item by item and objects field by field,
name before value. Two values are the same when neither comes before the other.
-/

namespace Tributary.Value

def sort : Value → Nat
  | null => 0
  | bool _ => 1
  | number _ => 2
  | string _ => 3
  | time _ => 4
  | bytes _ => 5
  | array _ => 6
  | object _ => 7

/-- Item by item; of two lists one of which starts the other, the shorter comes first. -/
def orderBytes : List UInt8 → List UInt8 → Ordering
  | [], [] => .eq
  | [], _ :: _ => .lt
  | _ :: _, [] => .gt
  | a :: as, b :: bs => (compare a.toNat b.toNat).then (orderBytes as bs)

/-- By code point, character by character. -/
def orderText (a b : String) : Ordering := if a < b then .lt else if a = b then .eq else .gt

def orderBool : Bool → Bool → Ordering
  | false, true => .lt
  | true, false => .gt
  | _, _ => .eq

mutual

def order : Value → Value → Ordering
  | bool a, bool b => orderBool a b
  | number a, number b => a.order b
  | string a, string b => orderText a b
  | time a, time b => compare a.toInt b.toInt
  | bytes a, bytes b => orderBytes a b
  | array as, array bs => orderItems as bs
  | object as, object bs => orderFields as bs
  | a, b => compare a.sort b.sort

def orderItems : List Value → List Value → Ordering
  | [], [] => .eq
  | [], _ :: _ => .lt
  | _ :: _, [] => .gt
  | a :: as, b :: bs => (order a b).then (orderItems as bs)

def orderFields : List (String × Value) → List (String × Value) → Ordering
  | [], [] => .eq
  | [], _ :: _ => .lt
  | _ :: _, [] => .gt
  | (k, a) :: as, (l, b) :: bs => ((orderText k l).then (order a b)).then (orderFields as bs)

end

def same (a b : Value) : Bool := order a b == .eq

/-- Puts an item into a list that is sorted last first: past all that come after it, but not past what is
equal to it. -/
def insertSorted {α : Type} (key : α → Value) (a : α) : List α → List α
  | [] => [a]
  | b :: bs => if order (key a) (key b) = .lt then b :: insertSorted key a bs else a :: b :: bs

/-- The items by increasing key, those with equal keys as they stood. -/
def sortOn {α : Type} (key : α → Value) (as : List α) : List α :=
  (as.foldl (fun sorted a => insertSorted key a sorted) []).reverse

end Tributary.Value
