import Tributary.Typing

/-!
# Compiled expressions

A bound expression becomes a node with a type. What does not fit is reported, and compilation goes on.

* `TypeEnv.compile` : the node and the type of an expression;
* `Model.compile` : a model with all its expressions compiled.
-/

namespace Tributary

namespace TypeEnv

mutual

/-- The node and the type of an expression, given the types of the parameters of enclosing lambdas. -/
def compile (env : TypeEnv) (locals : List Ty) : BoundExpr → Typed
  | .literal _ v => { node := .const v, ty := .ofValue v }
  | .ident _ _ b => env.ofBinding locals b
  | .access span object field safe default =>
    let object := compile env locals object
    if safe then safeAccess object field (compileDefault env locals default)
    else env.plainAccess span object field
  | .index _ object key =>
    let object := compile env locals object
    let key := compile env locals key
    { node := .index object.node key.node, ty := object.ty.element, faults := object.faults ++ key.faults }
  | .unary span op operand => env.unary span op (compile env locals operand)
  | .binary span op left right =>
    env.binary span op (compile env locals left) (compile env locals right)
  | .conditional span condition thenBranch elseBranch =>
    env.conditional span (compile env locals condition) (compile env locals thenBranch)
      (compile env locals elseBranch)
  | .lambda span _ _ => .missing (env.fault span .lambdaOutsideCall)
  | .call span _ b args =>
    if args.length = b.arity then
      let plain := compilePlain env locals span b b.signature.params 1 args
      let types := plain.map Typed.ty
      let lambdas := compileLambdas env locals span b types b.signature.params 1 args
      let nodes := List.zipWith (fun (t : Template) (p : Typed × Typed) =>
        if t.isLambda then p.2.node else p.1.node) b.signature.params (plain.zip lambdas)
      { node := .call b.name nodes
        ty := resultTy b.signature.returns types (lambdas.map Typed.ty)
        faults := plain.flatMap Typed.faults ++ lambdas.flatMap Typed.faults }
    else .missing (env.fault span (.argumentCount b args.length))

def compileDefault (env : TypeEnv) (locals : List Ty) : Option BoundExpr → Option Typed
  | none => none
  | some e => some (compile env locals e)

/-- The arguments of a call that are not lambdas; nothing in the place of lambdas. -/
def compilePlain (env : TypeEnv) (locals : List Ty) (span : Option Span) (b : Builtin) :
    List Template → Nat → List BoundExpr → List Typed
  | template :: templates, i, arg :: args =>
    let compiled : Typed :=
      if template.isLambda then .missing []
      else match arg with
        | .lambda own _ _ => .missing (env.fault (own.or span) (.lambdaArgument i b))
        | arg =>
          let arg' := compile env locals arg
          { arg' with
            faults := arg'.faults ++ env.faultIf (!template.accepts arg'.ty) (arg.span.or span)
              (.argumentType i b template arg'.ty) }
    compiled :: compilePlain env locals span b templates (i + 1) args
  | _, _, _ => []

/-- The lambdas of a call, given the types of its other arguments; nothing in the place of those. -/
def compileLambdas (env : TypeEnv) (locals : List Ty) (span : Option Span) (b : Builtin)
    (types : List Ty) : List Template → Nat → List BoundExpr → List Typed
  | template :: templates, i, arg :: args =>
    let compiled : Typed :=
      if template.isLambda then
        match arg with
        | .lambda own params body =>
          let expected := b.lambdaParams (i - 1) types
          if params.length = expected.length then
            let body := compile env (locals ++ expected) body
            { body with node := .lambda params.length body.node }
          else .missing (env.fault (own.or span) (.lambdaArity b params.length expected.length))
        | arg => .missing (env.fault (arg.span.or span) (.missingLambda i b))
      else .missing []
    compiled :: compileLambdas env locals span b types templates (i + 1) args
  | _, _, _ => []

end

end TypeEnv

structure Compiled where
  root : Node
  ty : Ty
deriving Repr, Inhabited

namespace Model

def parentTypesOf {ε : Type} (m : Model ε) (p : Parent) : ParentTypes :=
  { multiplicity := p.multiplicity
    attrs := (m.parentEntity? p).elim [] fun e => e.attributes.map fun a => (a.name, a.ty) }

def typeEnv (m : Model BoundExpr) (options : Options) (params : List Param) (e : Entity BoundExpr)
    (a : Attribute BoundExpr) : TypeEnv :=
  { place := a.place e.name
    strict := options.strictTypes
    attrs := e.attributes.map Attribute.ty
    parents := e.parents.map m.parentTypesOf
    params := params.map Param.ty }

def compileAttr (m : Model BoundExpr) (options : Options) (params : List Param) (e : Entity BoundExpr)
    (a : Attribute BoundExpr) : Checked (Attribute Compiled) :=
  match a.expr with
  | none => .ok { a with expr := none }
  | some expr =>
    let env := m.typeEnv options params e a
    let typed := env.compile [] expr
    let declared := env.faultIf (options.strictTypes && !a.ty.accepts typed.ty) expr.span
      (.declaredType a.ty typed.ty)
    Checked.report (typed.faults ++ declared)
      { a with expr := some { root := typed.node, ty := typed.ty } }

def compileEntity (m : Model BoundExpr) (options : Options) (e : Entity BoundExpr) (i : Nat) :
    Checked (Entity Compiled) :=
  let params := m.visibleParams i
  (Checked.each (m.compileAttr options params e) e.attributes).map fun attributes =>
    { e with attributes }

def compile (m : Model BoundExpr) (options : Options) : Checked (Model Compiled) :=
  (Checked.each (fun p => m.compileEntity options p.1 p.2) m.entities.zipIdx).map fun entities =>
    { m with entities }

end Model

end Tributary
