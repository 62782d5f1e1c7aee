import Tributary.Node.Eval
import Tributary.Scope.Binding

/-!
# Evaluation by names

The value of an expression as it is declared, read off values that are given by name. Nothing is bound beforehand:
each name is looked up when it is reached.

* `NamedFrame` : the values that the expressions of one record see, by name;
* `NamedFrame.read` : the value of a name;
* `SourceExpr.eval` : the outcome of an expression;
* `withValues` : names one by one with the values at their places;
* `Scope.namedFrame` : a frame with the names that a scope gives its places.
-/

namespace Tributary

/-- A parent by its name, with the names of the attributes that it declares. -/
structure NamedParent where
  name : String
  multiplicity : Multiplicity
  attrs : List String
  value : Value

/-- The values that the expressions of one record see, by name. -/
structure NamedFrame where
  attrs : List (String × Value)
  parents : List NamedParent
  params : List (String × Value)
  /-- The time of the evaluation, in nanoseconds since the epoch. -/
  now : Int64

namespace Value

def fieldOf : Value → String → Outcome
  | object fields, name => .ok ((fields.lookup name).getD .null)
  | v, name => .error (.notAnObject name v.kind)

/-- A field of the record of a parent; where there is no record, the field is null. -/
def fieldOfParent : Value → String → Outcome
  | null, _ => .ok .null
  | v, name => v.fieldOf name

/-- What a safe access finds: nothing where the value is no object, or the field is absent or null. -/
def safeField? : Value → String → Option Value
  | object fields, name => (fields.lookup name).filter fun v => !v.isNull
  | _, _ => none

end Value

namespace NamedFrame

def declaring (frame : NamedFrame) (name : String) : List NamedParent :=
  frame.parents.filter fun p => p.multiplicity == .one && p.attrs.contains name

/-- The value of a name: that of the innermost lambda parameter, else of the attribute, else of the parent, else of
the parameter, else that field of the only single parent which declares it. -/
def read (frame : NamedFrame) (locals : List (String × Value)) (name : String) : Outcome :=
  match locals.lookup name with
  | some v => .ok v
  | none =>
    match frame.attrs.lookup name with
    | some v => .ok v
    | none =>
      match frame.parents.find? fun p => p.name == name with
      | some p => .ok p.value
      | none =>
        match frame.params.lookup name with
        | some v => .ok v
        | none =>
          match frame.declaring name with
          | [p] => p.value.fieldOfParent name
          | _ => .error (.notAnObject name "null")

def single? (frame : NamedFrame) (locals : List (String × Value)) (name : String) : Option Value :=
  match locals.lookup name, frame.attrs.lookup name, frame.parents.find? fun p => p.name == name with
  | none, none, some p => if p.multiplicity = .one then some p.value else none
  | _, _, _ => none

def parentOf? (frame : NamedFrame) (locals : List (String × Value)) : SourceExpr → Option Value
  | .ident _ name _ => frame.single? locals name
  | _ => none

end NamedFrame

/-- The outcome of an operator, given those of its operands. Where the left one decides, the right one is left out of
account. -/
def BinaryOp.outcome (op : BinaryOp) (left right : Outcome) : Outcome := do
  let v ← left
  match op with
  | .and =>
    if ← truth op.symbol v then return .bool (← truth op.symbol (← right)) else return .bool false
  | .or =>
    if ← truth op.symbol v then return .bool true else return .bool (← truth op.symbol (← right))
  | op => do
    let w ← right
    op.apply v w

namespace SourceExpr

mutual

/-- The outcome of an expression, given the parameters of the enclosing lambdas, the innermost first. -/
def eval (frame : NamedFrame) (locals : List (String × Value)) : SourceExpr → Outcome
  | .literal _ v => .ok v
  | .ident _ name _ => frame.read locals name
  | .access _ object field true default => do
    let v ← eval frame locals object
    match v.safeField? field with
    | some w => .ok w
    | none => evalDefault frame locals default
  | .access _ object field false _ =>
    match frame.parentOf? locals object with
    | some v => v.fieldOfParent field
    | none => do
      let v ← eval frame locals object
      v.fieldOf field
  | .index _ object key => do
    let v ← eval frame locals object
    let k ← eval frame locals key
    readIndex v k
  | .unary _ op operand => do
    let v ← eval frame locals operand
    op.apply v
  | .binary _ op left right => op.outcome (eval frame locals left) (eval frame locals right)
  | .conditional _ condition thenBranch elseBranch => do
    let v ← eval frame locals condition
    if ← truth "?:" v then eval frame locals thenBranch else eval frame locals elseBranch
  | .lambda _ _ _ => .error (.internal .lambdaOutsideCall)
  | .call _ function _ args =>
    match Builtin.ofName? function with
    | none => .error (.internal (.unknownBuiltin function))
    | some b => do
      let values ← evalArgs frame locals args
      b.apply ⟨values, invokeAt (bodies frame locals args), frame.now⟩

def evalDefault (frame : NamedFrame) (locals : List (String × Value)) : Option SourceExpr → Outcome
  | none => .ok .null
  | some e => eval frame locals e

/-- The values of arguments from left to right, null in the place of lambdas. -/
def evalArgs (frame : NamedFrame) (locals : List (String × Value)) :
    List SourceExpr → Except EvalError (List Value)
  | [] => .ok []
  | .lambda _ _ _ :: args => do
    let vs ← evalArgs frame locals args
    .ok (.null :: vs)
  | arg :: args => do
    let v ← eval frame locals arg
    let vs ← evalArgs frame locals args
    .ok (v :: vs)

/-- The lambdas among arguments, by position. The last of equal parameter names is the innermost. -/
def bodies (frame : NamedFrame) (locals : List (String × Value)) :
    List SourceExpr → List (Option (Nat × (List Value → Outcome)))
  | [] => []
  | .lambda _ params body :: args =>
    some (params.length, fun values => eval frame ((params.zip values).reverse ++ locals) body)
      :: bodies frame locals args
  | _ :: args => none :: bodies frame locals args

end

end SourceExpr

/-- Each name with the value at its place, and with null where the values have come to their end. -/
def withValues {α : Type} : List α → List Value → List (α × Value)
  | [], _ => []
  | a :: as, [] => (a, .null) :: withValues as []
  | a :: as, v :: values => (a, v) :: withValues as values

def ParentNames.named (p : ParentNames) (value : Value) : NamedParent :=
  { name := p.name, multiplicity := p.multiplicity, attrs := p.attrs, value }

def Scope.namedFrame (s : Scope) (frame : Frame) : NamedFrame :=
  { attrs := withValues s.attrs frame.attributes
    parents := (withValues s.parents frame.parents).map fun p => p.1.named p.2
    params := withValues s.params frame.params
    now := frame.now }

end Tributary
