import Tributary.Checked
import Tributary.Distinct
import Tributary.Model.Basic
import Tributary.Document.Reader

/-!
# From a document to a model

Names are looked up and types are read; whatever does not fit is reported. A second declaration of a
name is reported and otherwise left out of account.

* `SourceDecl.check`, `EntityDecl.check`, `EndpointDecl.check` : what a declaration declares;
* `Model.build` : the model that a document declares.
-/

namespace Tributary

open Checked

def ParamDecl.checkAll (owner : String) (span : Option Span) : List ParamDecl → Checked (List Param) :=
  eachSeen ParamDecl.name (fun seen d =>
    if seen then fail { problem := .duplicateParam d.name owner, span }
    else
      match Ty.read d.type with
      | .ok ty => .ok { name := d.name, location := d.location, ty }
      | .error cause => fail { problem := .paramType d.name owner cause, span }) []

/-- The source that a declaration declares, unless its name was seen before. -/
def SourceDecl.check (seen : Bool) (d : SourceDecl) : Checked Source :=
  if seen then fail { problem := .duplicateSource d.name, span := d.span }
  else (ParamDecl.checkAll d.name d.span d.params).map fun params =>
    { name := d.name, kind := d.kind, url := d.url, params, span := d.span }

namespace EntityDecl

def diagnose (d : EntityDecl) (problem : Problem) : Diagnostic :=
  { problem, entity := d.name, span := d.span }

def diagnoseAttr (d : EntityDecl) (a : AttributeDecl) (span : Option Span) (problem : Problem) :
    Diagnostic :=
  { problem, entity := d.name, attr := a.name, span }

def checkSource (sources : List String) (d : EntityDecl) : Checked (Option String) :=
  match d.source with
  | none => .ok none
  | some s => if sources.contains s then .ok (some s) else fail (d.diagnose (.unknownSource s))

/-- The parents of an entity, each once, among the entities that there are. -/
def checkParents (entities : List String) (d : EntityDecl) : Checked (List Parent) :=
  eachSeen ParentDecl.entity (fun seen p =>
    match entities.findIdx? (· == p.entity) with
    | none => fail (d.diagnose (.unknownParent p.entity))
    | some i =>
      if seen then fail (d.diagnose (.duplicateParent p.entity))
      else .ok { entity := i, name := p.entity, multiplicity := p.multiplicity, join := p.join })
    [] d.parents

def checkTy (d : EntityDecl) (a : AttributeDecl) : Checked Ty :=
  match Ty.read a.type with
  | .ok ty => .ok ty
  | .error cause => fail (d.diagnoseAttr a a.span (.attributeType cause))

def checkExpr (limit : Nat) (d : EntityDecl) (a : AttributeDecl) : Checked (Option SourceExpr) :=
  match a.expr with
  | none => .ok none
  | some expr =>
    match SourceExpr.lower limit expr with
    | .ok expr => .ok (some expr)
    | .error span => fail (d.diagnoseAttr a (span.or a.span) (.tooDeep limit))

def checkAttributes (limit : Nat) (d : EntityDecl) : Checked (List (Attribute SourceExpr)) :=
  eachSeen AttributeDecl.name (fun seen a =>
    if seen then fail (d.diagnoseAttr a a.span (.duplicateAttribute a.name))
    else zipWith (fun ty expr => { name := a.name, ty, expr, span := a.span })
      (d.checkTy a) (d.checkExpr limit a))
    [] d.attributes

def check (limit : Nat) (sources entities : List String) (d : EntityDecl) :
    Checked (Entity SourceExpr) :=
  zipWith
    (fun source p => {
      name := d.name
      parents := p.1
      source
      identityField := d.identityField
      attributes := p.2
      exposure := { d.exposure with operations := Operation.normalize d.exposure.operations }
      span := d.span })
    (d.checkSource sources)
    (both (d.checkParents entities) (d.checkAttributes limit))

def checkNames : List EntityDecl → Checked (List Unit) :=
  eachSeen EntityDecl.name (fun seen d =>
    if seen then fail (d.diagnose (.duplicateEntity d.name)) else .ok ()) []

end EntityDecl

/-- The endpoint that a declaration declares, given the names of all entities, unless its name was seen
before. -/
def EndpointDecl.check (entities : List String) (seen : Bool) (d : EndpointDecl) : Checked Endpoint :=
  if seen then fail { problem := .duplicateEndpoint d.name, span := d.span }
  else
    match entities.findIdx? (· == d.entity) with
    | none => fail { problem := .unknownEndpointEntity d.name d.entity, span := d.span }
    | some entity => (ParamDecl.checkAll d.name d.span d.params).map fun params =>
      { name := d.name, entity, operation := d.operation, path := d.path, params, span := d.span }

def Model.build (options : Options) (d : Document) : Checked (Model SourceExpr) :=
  let sourceNames := d.sources.map SourceDecl.name
  let declared := firsts EntityDecl.name d.entities
  let entityNames := declared.map EntityDecl.name
  zipWith
    (fun sources p => { sources, entities := p.2.1, endpoints := p.2.2, index := entityNames })
    (eachSeen SourceDecl.name SourceDecl.check [] d.sources)
    (both (EntityDecl.checkNames d.entities)
      (both
        (each (EntityDecl.check options.maxExpressionDepth sourceNames entityNames) declared)
        (eachSeen EndpointDecl.name (EndpointDecl.check entityNames) [] d.endpoints)))

end Tributary
