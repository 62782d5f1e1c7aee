import Tributary.EvalError
import Tributary.Text.Basic
import Tributary.Value.Order

/-!
# Operators

Arithmetic and ordering on a null operand give null; a condition takes null for false. Equality and
membership are defined on all values, by the order of values.

* `BinaryOp.apply` : an operator on two values;
* `UnaryOp.apply` : an operator on one;
* `truth` : a value as a condition.
-/

namespace Tributary

inductive UnaryOp where
  | not
  | neg
deriving DecidableEq, Repr

inductive BinaryOp where
  | add
  | sub
  | mul
  | div
  | mod
  | eq
  | ne
  | lt
  | le
  | gt
  | ge
  | and
  | or
  | isIn
deriving DecidableEq, Repr

namespace UnaryOp

def all : List UnaryOp := [not, neg]

def name : UnaryOp → String
  | not => "not"
  | neg => "neg"

def symbol : UnaryOp → String
  | not => "not"
  | neg => "-"

def ofName? (s : String) : Option UnaryOp := all.find? fun op => op.name == s

end UnaryOp

namespace BinaryOp

def all : List BinaryOp := [add, sub, mul, div, mod, eq, ne, lt, le, gt, ge, and, or, isIn]

def name : BinaryOp → String
  | add => "add"
  | sub => "sub"
  | mul => "mul"
  | div => "div"
  | mod => "mod"
  | eq => "eq"
  | ne => "ne"
  | lt => "lt"
  | le => "le"
  | gt => "gt"
  | ge => "ge"
  | and => "and"
  | or => "or"
  | isIn => "in"

def symbol : BinaryOp → String
  | add => "+"
  | sub => "-"
  | mul => "*"
  | div => "/"
  | mod => "%"
  | eq => "=="
  | ne => "!="
  | lt => "<"
  | le => "<="
  | gt => ">"
  | ge => ">="
  | and => "and"
  | or => "or"
  | isIn => "in"

def ofName? (s : String) : Option BinaryOp := all.find? fun op => op.name == s

def isArithmetic : BinaryOp → Bool
  | add | sub | mul | div | mod => true
  | _ => false

def isOrdering : BinaryOp → Bool
  | lt | le | gt | ge => true
  | _ => false

def isLogical : BinaryOp → Bool
  | and | or => true
  | _ => false

end BinaryOp

/-- A value as a condition; null counts as false. -/
def truth (operator : String) : Value → Except EvalError Bool
  | .bool b => .ok b
  | .null => .ok false
  | v => .error (.invalidOperand operator v.kind)

/-- Whether a value is a substring, an item or a key of another, if that is a container. -/
def membership? (v : Value) : Value → Option Bool
  | .null => some false
  | .string text =>
    match v with
    | .string part => some (Text.contains part.toList text.toList)
    | _ => some false
  | .array items => some (items.any (v.same ·))
  | .object fields =>
    match v with
    | .string key => some (Fields.get? fields key).isSome
    | _ => some false
  | _ => none

/-- The order of two values of one sort that has an order for comparisons. -/
def comparison? : Value → Value → Option Ordering
  | .number a, .number b => some (a.order b)
  | .string a, .string b => some (Value.orderText a b)
  | .bool a, .bool b => some (Value.orderBool a b)
  | .time a, .time b => some (compare a.toInt b.toInt)
  | _, _ => none

namespace BinaryOp

def holds : BinaryOp → Ordering → Bool
  | lt, o => o == .lt
  | le, o => o != .gt
  | gt, o => o == .gt
  | _, o => o != .lt

def arithmetic (op : BinaryOp) (a b : Number) : Except EvalError Number :=
  match op with
  | add => .ok (a.add b)
  | sub => .ok (a.sub b)
  | mul => .ok (a.mul b)
  | div => if b.isZero then .error .divisionByZero else .ok (a.divide b)
  | mod => if b.isZero then .error .divisionByZero else .ok (a.modulo b)
  | _ => .error (.invalidOperands op.symbol "number" "number")

/-- Comparison and arithmetic: null where an operand is missing. -/
def applyStrict (op : BinaryOp) (a b : Value) : Outcome :=
  let invalid : EvalError := .invalidOperands op.symbol a.kind b.kind
  if a.isNull || b.isNull then .ok .null
  else if op.isOrdering then
    match comparison? a b with
    | some o => .ok (.bool (op.holds o))
    | none => .error invalid
  else
    match a, b with
    | .number a, .number b => (op.arithmetic a b).map .number
    | _, _ => .error invalid

def apply (op : BinaryOp) (a b : Value) : Outcome :=
  match op with
  | eq => .ok (.bool (a.same b))
  | ne => .ok (.bool (!a.same b))
  | isIn =>
    match membership? a b with
    | some found => .ok (.bool found)
    | none => .error (.invalidOperands op.symbol a.kind b.kind)
  | and => do
    if ← truth op.symbol a then return .bool (← truth op.symbol b) else return .bool false
  | or => do
    if ← truth op.symbol a then return .bool true else return .bool (← truth op.symbol b)
  | op => op.applyStrict a b

end BinaryOp

namespace UnaryOp

def apply (op : UnaryOp) (v : Value) : Outcome :=
  match op, v with
  | not, v => (truth op.symbol v).map fun b => .bool (!b)
  | neg, .null => .ok .null
  | neg, .number n => .ok (.number n.neg)
  | neg, v => .error (.invalidOperand op.symbol v.kind)

end UnaryOp

end Tributary
