import Tributary.Node.Basic
import Tributary.Document.Reader
import Tributary.Scope.Binding

/-!
# Typing

What types expressions have, and which operands and arguments do not fit. A type that is not known
fits everywhere.

* `Ty.ofValue` : the type of a literal;
* `TypeEnv` : the types of what an expression may read;
* `Typed` : a compiled expression with its type and with what was found wrong;
* `TypeEnv.operatorTy`, `TypeEnv.operandFaults` : operators;
* `resultTy` : calls.
-/

namespace Tributary

namespace Ty

/-- Whether a type says something. -/
def isKnown : Ty → Bool
  | any | null => false
  | _ => true

/-- Whether a type is known and is not among those that are allowed. -/
def isOther (allowed : Ty → Bool) (t : Ty) : Bool := t.isKnown && !allowed t

/-- The type of what may come from any of some places. -/
def unifyAll : List Ty → Ty
  | [] => any
  | t :: ts => ts.foldl unify t

mutual

def ofValue : Value → Ty
  | .null => null
  | .bool _ => boolean
  | .number n => if n.isInteger then integer else number
  | .string _ => string
  | .time _ => datetime
  | .bytes _ => binary
  | .array vs => array (unifyAll (ofValues vs))
  | .object _ => object

def ofValues : List Value → List Ty
  | [] => []
  | v :: vs => ofValue v :: ofValues vs

end

end Ty

structure ParentTypes where
  multiplicity : Multiplicity
  attrs : List (String × Ty)
deriving DecidableEq, Repr

/-- The types of what the expression of an attribute may read. -/
structure TypeEnv where
  place : Place
  /-- Whether types that are known not to fit are refused everywhere. -/
  strict : Bool
  attrs : List Ty
  parents : List ParentTypes
  params : List Ty
deriving DecidableEq, Repr

/-- A compiled expression with its type and with what was found wrong. -/
structure Typed where
  node : Node
  ty : Ty
  faults : List Diagnostic := []

namespace Typed

/-- What stands for an expression that could not be compiled. -/
def missing (faults : List Diagnostic) : Typed := { node := .const .null, ty := .any, faults }

end Typed

namespace TypeEnv

/-- A problem found at a place of the expression. -/
def fault (env : TypeEnv) (span : Option Span) (problem : Problem) : List Diagnostic :=
  [env.place.diagnose span problem]

/-- A problem found at a place of the expression, if there is one. -/
def faultIf (env : TypeEnv) (wrong : Bool) (span : Option Span) (problem : Problem) : List Diagnostic :=
  if wrong then env.fault span problem else []

def parentAttrTy (env : TypeEnv) (slot : Nat) (attr : String) : Ty :=
  ((env.parents[slot]?).bind fun p => p.attrs.lookup attr).getD .any

def isSingle (env : TypeEnv) (slot : Nat) : Bool :=
  (env.parents[slot]?).any fun p => p.multiplicity == .one

def ofBinding (env : TypeEnv) (locals : List Ty) : Binding → Typed
  | .lambdaParam slot => { node := .localSlot slot, ty := (locals[slot]?).getD .any }
  | .attr slot => { node := .attributeSlot slot, ty := (env.attrs[slot]?).getD .any }
  | .parent slot _ multiplicity =>
    { node := .parentSlot slot
      ty := match multiplicity with
        | .one => .object
        | .many => .array .object }
  | .parentAttr slot _ attr => { node := .parentField slot attr, ty := env.parentAttrTy slot attr }
  | .param slot => { node := .paramSlot slot, ty := (env.params[slot]?).getD .any }

def plainAccess (env : TypeEnv) (span : Option Span) (object : Typed) (field : String) : Typed :=
  let otherwise : Typed := {
    node := .field object.node field
    ty := .any
    faults := object.faults ++
      env.faultIf (env.strict && object.ty.isOther fun t => t == .object || t == .image) span
        (.fieldOf field object.ty) }
  match object.node with
  | .parentSlot slot =>
    if env.isSingle slot then
      { node := .parentField slot field, ty := env.parentAttrTy slot field, faults := object.faults }
    else otherwise
  | _ => otherwise

/-- A field of an object with a default. Links without a default of their own make one path. -/
def safeAccess (object : Typed) (field : String) (default : Option Typed) : Typed :=
  let node := match object.node with
    | .safePath inner path none => Node.safePath inner (path ++ [field]) (default.map Typed.node)
    | node => .safePath node [field] (default.map Typed.node)
  { node, ty := .any, faults := object.faults ++ default.elim [] Typed.faults }

def unary (env : TypeEnv) (span : Option Span) (op : UnaryOp) (operand : Typed) : Typed :=
  let wrong := match op with
    | .not => env.strict && operand.ty.isOther (· == .boolean)
    | .neg => operand.ty.isOther Ty.isNumeric
  let ty := match op, operand.ty with
    | .not, _ => Ty.boolean
    | .neg, .integer => .integer
    | .neg, _ => .number
  { node := .unary op operand.node
    ty
    faults := operand.faults ++ env.faultIf wrong span (.unaryOperand op operand.ty) }

/-- The type that an operator on two operands gives. -/
def operatorTy (op : BinaryOp) (left right : Ty) : Ty :=
  if op.isArithmetic then
    if op ≠ .div ∧ left = .integer ∧ right = .integer then .integer else .number
  else .boolean

/-- Whether operands are known not to have an order between them. -/
def unordered (left right : Ty) : Bool :=
  match left.family?, right.family? with
  | some a, some b => a != b
  | none, some _ => left.isKnown
  | some _, none => right.isKnown
  | none, none => left.isKnown || right.isKnown

def operandFaults (env : TypeEnv) (span : Option Span) (op : BinaryOp) (left right : Ty) :
    List Diagnostic :=
  if op.isArithmetic then
    env.faultIf (left.isOther Ty.isNumeric || right.isOther Ty.isNumeric) span
      (.arithmeticOperands op left right)
  else if op.isOrdering then
    env.faultIf (env.strict && unordered left right) span (.orderingOperands op left right)
  else if op.isLogical then
    [left, right].flatMap fun t =>
      env.faultIf (env.strict && t.isOther (· == .boolean)) span (.logicalOperand op t)
  else []

def binary (env : TypeEnv) (span : Option Span) (op : BinaryOp) (left right : Typed) : Typed :=
  { node := .binary op left.node right.node
    ty := operatorTy op left.ty right.ty
    faults := left.faults ++ right.faults ++ env.operandFaults span op left.ty right.ty }

def conditional (env : TypeEnv) (span : Option Span) (condition thenBranch elseBranch : Typed) : Typed :=
  { node := .conditional condition.node thenBranch.node elseBranch.node
    ty := thenBranch.ty.unify elseBranch.ty
    faults := condition.faults
      ++ env.faultIf (env.strict && condition.ty.isOther (· == .boolean)) span
        (.conditionType condition.ty)
      ++ thenBranch.faults ++ elseBranch.faults }

end TypeEnv

/-- The type of a call, given the types of its arguments and of the results of its lambdas. -/
def resultTy (returns : Returns) (args lambdas : List Ty) : Ty :=
  match returns with
  | .is template => template.ty
  | .arrayOf template => .array template.ty
  | .sameAs i => (args[i]?).getD .any
  | .lambdaResult i => (lambdas[i]?).getD .any
  | .arrayOfLambda i => .array ((lambdas[i]?).getD .any)

end Tributary
