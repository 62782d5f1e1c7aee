import Tributary.Builtin.Apply
import Tributary.Node.Basic

/-!
# Evaluation

The value of a node in a frame, given the parameters of the enclosing lambdas. Arguments are evaluated
before a builtin is called, from left to right; a lambda among them is evaluated only when the builtin
calls it.

* `Node.eval` : the outcome of a node.
-/

namespace Tributary

/-- A field of an object, null where it has none. -/
def readField (v : Value) (name : String) : Outcome :=
  match v with
  | .object fs => .ok ((Fields.get? fs name).getD .null)
  | v => .error (.notAnObject name v.kind)

/-- Fields one inside the other; null as soon as one is missing, null, or not asked of an object. -/
def followPath : Value → List String → Value
  | v, [] => v
  | v, name :: path =>
    match v.field? name with
    | some .null => .null
    | some w => followPath w path
    | none => .null

/-- An item by a number or a field by a string; null of null. -/
def readIndex (v key : Value) : Outcome :=
  match v, key with
  | .null, _ => .ok .null
  | .array _, .number _ => .ok (v.index key)
  | .object _, .string _ => .ok (v.index key)
  | _, _ => .error (.invalidOperands "[]" v.kind key.kind)

/-- A field of a parent; a parent that is not there has none. -/
def readParent (v : Value) (name : String) : Outcome :=
  match v with
  | .null => .ok .null
  | v => readField v name

def invokeAt (lambdas : List (Option (Nat × (List Value → Outcome)))) (i : Nat) (args : List Value) :
    Outcome :=
  match lambdas[i]? with
  | some (some (arity, body)) =>
    if arity = args.length then body args else .error (.internal (.lambdaArity arity args.length))
  | _ => .error (.internal (.notALambda i))

namespace Node

mutual

def eval (frame : Frame) (locals : List Value) : Node → Outcome
  | const v => .ok v
  | localSlot i =>
    match locals[i]? with
    | some v => .ok v
    | none => .error (.internal (.unboundLocal i))
  | attributeSlot i => .ok (slot frame.attributes i)
  | parentSlot i => .ok (slot frame.parents i)
  | parentField i name => readParent (slot frame.parents i) name
  | paramSlot i => .ok (slot frame.params i)
  | field object name => do
    let v ← eval frame locals object
    readField v name
  | safePath object path default => do
    let v ← eval frame locals object
    match followPath v path with
    | .null => evalDefault frame locals default
    | w => .ok w
  | index object key => do
    let v ← eval frame locals object
    let k ← eval frame locals key
    readIndex v k
  | unary op operand => do
    let v ← eval frame locals operand
    op.apply v
  | binary op left right => do
    let v ← eval frame locals left
    match op with
    | .and =>
      if ← truth op.symbol v then return .bool (← truth op.symbol (← eval frame locals right))
      else return .bool false
    | .or =>
      if ← truth op.symbol v then return .bool true
      else return .bool (← truth op.symbol (← eval frame locals right))
    | op => do
      let w ← eval frame locals right
      op.apply v w
  | conditional condition thenBranch elseBranch => do
    let v ← eval frame locals condition
    if ← truth "?:" v then eval frame locals thenBranch else eval frame locals elseBranch
  | lambda _ _ => .error (.internal .lambdaOutsideCall)
  | call name args =>
    match Builtin.ofName? name with
    | none => .error (.internal (.unknownBuiltin name))
    | some b => do
      let values ← evalArgs frame locals args
      b.apply ⟨values, invokeAt (bodies frame locals args), frame.now⟩

/-- The outcome of a default; without one it is null. -/
def evalDefault (frame : Frame) (locals : List Value) : Option Node → Outcome
  | none => .ok .null
  | some node => eval frame locals node

/-- The values of arguments, null in the place of lambdas. -/
def evalArgs (frame : Frame) (locals : List Value) : List Node → Except EvalError (List Value)
  | [] => .ok []
  | lambda _ _ :: args => do
    let vs ← evalArgs frame locals args
    .ok (.null :: vs)
  | arg :: args => do
    let v ← eval frame locals arg
    let vs ← evalArgs frame locals args
    .ok (v :: vs)

/-- The lambdas among arguments, by position, each as a function of its parameters. -/
def bodies (frame : Frame) (locals : List Value) :
    List Node → List (Option (Nat × (List Value → Outcome)))
  | [] => []
  | lambda arity body :: args =>
    some (arity, fun params => eval frame (locals ++ params) body) :: bodies frame locals args
  | _ :: args => none :: bodies frame locals args

end

end Node

end Tributary
