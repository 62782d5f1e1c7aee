import Tributary.Operator

/-!
# Evaluation trees

A node is an expression without names: what it reads, it reads from a numbered slot of the frame or of
the enclosing lambdas.

* `Node` : a tree;
* `Frame` : the values that the expressions of one record see.
-/

namespace Tributary

/-- An expression without names. -/
inductive Node where
  | const (value : Value)
  /-- A parameter of an enclosing lambda, counted from the outermost. -/
  | localSlot (slot : Nat)
  /-- An attribute of the record itself. -/
  | attributeSlot (slot : Nat)
  | parentSlot (slot : Nat)
  /-- A field of a parent, null where the parent is. -/
  | parentField (slot : Nat) (name : String)
  | paramSlot (slot : Nat)
  | field (object : Node) (name : String)
  /-- Fields one inside the other, with a value for when there is none. -/
  | safePath (object : Node) (path : List String) (default : Option Node)
  | index (object index : Node)
  | unary (op : UnaryOp) (operand : Node)
  | binary (op : BinaryOp) (left right : Node)
  | conditional (condition thenBranch elseBranch : Node)
  | lambda (arity : Nat) (body : Node)
  | call (builtin : String) (args : List Node)
deriving Repr, Inhabited

/-- The values that the expressions of one record see. Slots beyond a list read as null. -/
structure Frame where
  /-- One value for each parent: a record, or an array of records where there are many. -/
  parents : List Value
  /-- The attributes of the record evaluated so far, in the order of their declaration. -/
  attributes : List Value
  params : List Value
  /-- The time of the evaluation, in nanoseconds since the epoch. -/
  now : Int64
deriving Repr

/-- The value in a slot, null beyond the end. -/
def slot (values : List Value) (i : Nat) : Value := (values[i]?).getD .null

end Tributary
