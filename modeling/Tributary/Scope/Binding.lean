import Tributary.Checked
import Tributary.Distinct
import Tributary.Model.Basic

/-!
# Names and what they mean

The expressions of an entity see the parameters of its own source, then those of the endpoints that expose it, then
those of the sources of its ancestors, nearest first; the first of a name wins. A name in an expression is, in this
order: a parameter of an enclosing lambda, the innermost first; an earlier attribute of the entity; one of its parents;
a visible parameter; or an attribute of its only parent of which there is one and that has it.

* `Model.ancestors` : the ancestors of an entity, nearest first;
* `Model.visibleParams` : the parameters that its expressions see;
* `Binding` : what a name means;
* `Scope` : the names that an expression may use, `Scope.lookup` : what one means;
* `Scope.bind` : an expression with all its names bound;
* `Model.resolve` : a model with all its expressions bound.
-/

namespace Tributary

/-! ## Visible parameters -/

/-- The parameters of an endpoint, with those that its path asks for. -/
def Endpoint.allParams (e : Endpoint) : List Param :=
  e.params ++ e.pathIdentifiers.map fun name => { name, location := .path, ty := .any }

namespace Model

variable {ε : Type}

def parentsOf (m : Model ε) (entity : Nat) : List Nat :=
  match m.entities[entity]? with
  | some e => e.parents.map Parent.entity
  | none => []

/-- What a queue has, and all that it leads to, unless it was visited before, found with up to `n` looks. -/
def climb (next : Nat → List Nat) : Nat → List Nat → List Nat → List Nat
  | _, _, [] => []
  | 0, _, _ :: _ => []
  | n + 1, visited, i :: queue =>
    if visited.contains i then climb next n visited queue
    else i :: climb next n (i :: visited) (queue ++ next i)

/-- The ancestors of an entity, nearest first; an entity is never its own. -/
def ancestors (m : Model ε) (entity : Nat) : List Nat :=
  climb m.parentsOf ((List.range m.entities.length).flatMap m.parentsOf).length [entity] (m.parentsOf entity)

def sourceParams (m : Model ε) (entity : Nat) : List Param :=
  (((m.entities[entity]?).bind Entity.source).bind m.source?).elim [] Source.params

/-- All the parameters that an entity sees, the winning ones first. -/
def reachableParams (m : Model ε) (entity : Nat) : List Param :=
  m.sourceParams entity ++ (m.endpointsOf entity).flatMap Endpoint.allParams
    ++ (m.ancestors entity).flatMap m.sourceParams

/-- The parameters that an entity's expressions see, by slot. -/
def visibleParams (m : Model ε) (entity : Nat) : List Param :=
  firsts Param.name (m.reachableParams entity)

end Model

/-! ## Names -/

inductive Binding where
  /-- A parameter of an enclosing lambda, counted from the outermost. -/
  | lambdaParam (slot : Nat)
  | attr (slot : Nat)
  | parent (slot : Nat) (name : String) (multiplicity : Multiplicity)
  | parentAttr (slot : Nat) (parent attr : String)
  | param (slot : Nat)
deriving DecidableEq, Repr, Inhabited

abbrev BoundExpr := Expr Binding Builtin

/-- The attribute that an expression belongs to. -/
structure Place where
  entity : String
  attr : String
  span : Option Span
deriving DecidableEq, Repr

/-- A problem with an expression; without a place of its own it is at the attribute. -/
def Place.diagnose (p : Place) (span : Option Span) (problem : Problem) : Diagnostic :=
  { problem, entity := p.entity, attr := p.attr, span := span.or p.span }

structure ParentNames where
  name : String
  multiplicity : Multiplicity
  attrs : List String
deriving DecidableEq, Repr

/-- Whether a parent gives its attributes to expressions by their bare names. -/
def ParentNames.lends (p : ParentNames) (name : String) : Bool :=
  p.multiplicity == .one && p.attrs.contains name

/-- The names that the expression of an attribute may use. -/
structure Scope where
  place : Place
  /-- The attributes of the entity. -/
  attrs : List String
  /-- The slot of the attribute itself. -/
  current : Nat
  parents : List ParentNames
  params : List String
deriving DecidableEq, Repr

/-- The last place of a name. -/
def lastIndex? (name : String) : List String → Option Nat
  | [] => none
  | x :: xs =>
    match lastIndex? name xs with
    | some i => some (i + 1)
    | none => if x = name then some 0 else none

namespace Scope

/-- The place of the first parent of a name. -/
def parent? (s : Scope) (name : String) : Option (Nat × ParentNames) :=
  (s.parents.zipIdx.find? fun p => p.1.name == name).map Prod.swap

/-- The parents that lend an attribute. -/
def lenders (s : Scope) (name : String) : List (Nat × ParentNames) :=
  (s.parents.zipIdx.filter fun p => p.1.lends name).map Prod.swap

/-- What a name means when no parent, parameter or attribute of the entity has it. -/
def lookupLent (s : Scope) (name : String) : Except Problem Binding :=
  match s.lenders name with
  | [] => .error (.unknownName name)
  | [(slot, p)] => .ok (.parentAttr slot p.name name)
  | ps => .error (.ambiguousName name (ps.map fun p => p.2.name))

def lookupGlobal (s : Scope) (name : String) : Except Problem Binding :=
  match s.attrs.findIdx? (· == name) with
  | some i =>
    if i < s.current then .ok (.attr i)
    else if i = s.current then .error (.selfReference name)
    else .error (.laterReference name s.place.attr)
  | none =>
    match s.parent? name with
    | some (slot, p) => .ok (.parent slot p.name p.multiplicity)
    | none =>
      match s.params.findIdx? (· == name) with
      | some slot => .ok (.param slot)
      | none => s.lookupLent name

def lookup (s : Scope) (locals : List String) (name : String) : Except Problem Binding :=
  match lastIndex? name locals with
  | some slot => .ok (.lambdaParam slot)
  | none => s.lookupGlobal name

/-- The outcome of a look-up as a check. -/
def settle {α : Type} (s : Scope) (span : Option Span) : Except Problem α → Checked α
  | .ok a => .ok a
  | .error problem => Checked.fail (s.place.diagnose span problem)

def function (name : String) : Except Problem Builtin :=
  match Builtin.ofName? name with
  | some b => .ok b
  | none => .error (.unknownFunction name)

/-- What is read directly off a single parent has to be one of its attributes. -/
def checkField (s : Scope) (object : Checked BoundExpr) (field : String) : Except Problem Unit :=
  match object with
  | .ok (.ident _ _ (.parent slot name .one)) =>
    if (s.parents[slot]?).any fun p => p.attrs.contains field then .ok ()
    else .error (.unknownParentField name field)
  | _ => .ok ()

open Checked

mutual

/-- An expression with all its names bound, given the parameters of the enclosing lambdas. -/
def bind (s : Scope) (locals : List String) : SourceExpr → Checked BoundExpr
  | .literal span v => .ok (.literal span v)
  | .ident span name _ => (s.settle span (s.lookup locals name)).map fun b => .ident span name b
  | .access span object field safe default =>
    let object' := bind s locals object
    zipWith (fun p _ => .access span p.1 field safe p.2)
      (both object' (bindDefault s locals default))
      (s.settle span (s.checkField object' field))
  | .index span object key => zipWith (.index span) (bind s locals object) (bind s locals key)
  | .unary span op operand => (bind s locals operand).map (.unary span op)
  | .binary span op left right => zipWith (.binary span op) (bind s locals left) (bind s locals right)
  | .conditional span condition thenBranch elseBranch =>
    zipWith (fun c p => .conditional span c p.1 p.2) (bind s locals condition)
      (both (bind s locals thenBranch) (bind s locals elseBranch))
  | .lambda span params body => (bind s (locals ++ params) body).map (.lambda span params)
  | .call span name _ args =>
    zipWith (.call span name) (s.settle span (function name)) (bindArgs s locals args)

def bindDefault (s : Scope) (locals : List String) : Option SourceExpr → Checked (Option BoundExpr)
  | none => .ok none
  | some e => (bind s locals e).map some

def bindArgs (s : Scope) (locals : List String) : List SourceExpr → Checked (List BoundExpr)
  | [] => .ok []
  | e :: es => zipWith List.cons (bind s locals e) (bindArgs s locals es)

end

end Scope

/-! ## The expressions of a model -/

def Attribute.place {ε : Type} (a : Attribute ε) (entity : String) : Place :=
  { entity, attr := a.name, span := a.span }

namespace Model

def parentNames {ε : Type} (m : Model ε) (p : Parent) : ParentNames :=
  { name := p.name
    multiplicity := p.multiplicity
    attrs := (m.parentEntity? p).elim [] fun e => e.attributes.map Attribute.name }

def resolveAttr (m : Model SourceExpr) (params : List Param) (e : Entity SourceExpr)
    (a : Attribute SourceExpr) (slot : Nat) : Checked (Attribute BoundExpr) :=
  match a.expr with
  | none => .ok { a with expr := none }
  | some expr =>
    let scope : Scope := {
      place := a.place e.name
      attrs := e.attributes.map Attribute.name
      current := slot
      parents := e.parents.map m.parentNames
      params := params.map Param.name }
    (scope.bind [] expr).map fun bound => { a with expr := some bound }

def resolveEntity (m : Model SourceExpr) (e : Entity SourceExpr) (i : Nat) :
    Checked (Entity BoundExpr) :=
  let params := m.visibleParams i
  (Checked.each (fun p => m.resolveAttr params e p.1 p.2) e.attributes.zipIdx).map fun attributes =>
    { e with attributes }

def resolve (m : Model SourceExpr) : Checked (Model BoundExpr) :=
  (Checked.each (fun p => m.resolveEntity p.1 p.2) m.entities.zipIdx).map fun entities =>
    { m with entities }

end Model

end Tributary
