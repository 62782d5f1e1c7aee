import Tributary.Graph.Build
import Tributary.Graph.Cycle
import Tributary.Document.Reader

/-!
# Rules

The rules that a model has to keep beyond its references. Every rule is applied to every entity, and
whatever breaks one is reported.

* `Model.entityRules` : the rules for an entity by itself;
* `Feed.settle` : what a source feeds, directly or through others;
* `Model.cycleRule`, `Model.orphanRule` : the rules for the graph;
* `Model.validate` : all of them.
-/

namespace Tributary

variable {ε : Type}

namespace Entity

def diagnose (e : Entity ε) (problem : Problem) : Diagnostic :=
  { problem, entity := e.name, span := e.span }

/-- A problem with a field of an entity, at the attribute where there is one. -/
def diagnoseField (e : Entity ε) (field : String) (problem : Problem) : Diagnostic :=
  { problem, entity := e.name, attr := field, span := ((e.attr? field).bind Attribute.span).or e.span }

/-- What is written goes to a source. -/
def mutationRule (e : Entity ε) : List Diagnostic :=
  let mutations := e.exposure.operations.filter Operation.isMutation
  if e.source.isSome || mutations.isEmpty then []
  else [e.diagnose (.mutationWithoutSource e.name mutations)]

/-- What comes from parents is not written. -/
def compositeRule (e : Entity ε) : List Diagnostic :=
  let illegal := e.exposure.operations.filter fun op => !op.isDerivable
  if e.hasParents && !illegal.isEmpty then [e.diagnose (.mutationOnComposite e.name illegal)] else []

/-- Filters are supplied attributes of entities without parents. -/
def filterRule (e : Entity ε) : List Diagnostic :=
  e.exposure.filters.filterMap fun field =>
    if e.hasParents then some (e.diagnoseField field (.filterOnComposite e.name))
    else if e.isSchema field then none
    else some (e.diagnoseField field (.filterField field e.name))

/-- Fields that may not be written exist. -/
def readonlyRule (e : Entity ε) : List Diagnostic :=
  e.exposure.readonlyFields.filterMap fun field =>
    if (e.attr? field).isSome then none else some (e.diagnose (.readonlyField field e.name))

/-- Fields that an operation takes exist and may be written. -/
def inputRule (e : Entity ε) (op : Operation) (fields : Option (List String)) : List Diagnostic :=
  (fields.getD []).filterMap fun field =>
    match e.attr? field with
    | none => some (e.diagnose (.unknownInput op field e.name))
    | some a =>
      if a.isComputed then some (e.diagnoseField field (.computedInput op field))
      else if e.exposure.isReadonly field then some (e.diagnoseField field (.readonlyInput op field))
      else none

/-- The identity field is a supplied attribute. -/
def identityRule (e : Entity ε) : List Diagnostic :=
  match e.identityField with
  | none => []
  | some field =>
    match e.attr? field with
    | none => [e.diagnose (.unknownIdentity field e.name)]
    | some a => if a.isComputed then [e.diagnoseField field (.computedIdentity field)] else []

end Entity

/-- Whether each of two types may stand for the other. -/
def Ty.agrees (a b : Ty) : Bool := a.accepts b && b.accepts a

/-- The first two parents that do not agree on a type. -/
def conflict? : List (String × Ty) → Option ((String × Ty) × (String × Ty))
  | [] => none
  | a :: rest =>
    match rest.find? fun b => !a.2.agrees b.2 with
    | some b => some (a, b)
    | none => conflict? rest

namespace Feed

/-- A node that needs one that is fed is fed too; the flag says whether any was found. -/
def visit (s : List Bool × Bool) (p : List Nat × Nat) : List Bool × Bool :=
  if (s.1[p.2]? == some false) && p.1.any fun need => s.1[need]? == some true then (s.1.set p.2 true, true) else s

/-- One pass over all nodes, in which each sees what was found before. -/
def pass (needs : Schedule.Needs) (fed : List Bool) : List Bool × Bool := needs.zipIdx.foldl visit (fed, false)

/-- Passes until one finds nothing, up to `n` of them. -/
def settle (needs : Schedule.Needs) : Nat → List Bool → List Bool
  | 0, fed => fed
  | n + 1, fed =>
    let (fed, changed) := pass needs fed
    if changed then settle needs n fed else fed

end Feed

namespace Model

/-- There is nothing to tell apart in a single record. -/
def singletonRule (m : Model ε) (e : Entity ε) (i : Nat) : List Diagnostic :=
  if e.isSingleton then
    (if e.exposure.exposes .list then [e.diagnose (.singletonList e.name)] else []) ++
      (m.endpointsOf i).filterMap fun p =>
        match p.pathIdentifiers with
        | [] => none
        | ids => some { e.diagnose (.singletonEndpoint p.name e.name ids) with span := p.span.or e.span }
  else []

/-- What is collected is listed by its parent and filtered by the key. -/
def joinRule (m : Model ε) (e : Entity ε) : List Diagnostic :=
  e.parents.flatMap fun p =>
    match p.collects?, m.parentEntity? p with
    | some join, some parent =>
      (if parent.exposure.exposes .list then [] else [e.diagnose (.joinNotListed e.name parent.name)]) ++
        if parent.exposure.filters.contains join.parentKey then []
        else [e.diagnose (.joinNotFiltered e.name parent.name join.parentKey)]
    | _, _ => []

def parentTypes (m : Model ε) (e : Entity ε) (attr : String) : List (String × Ty) :=
  e.parents.filterMap fun p => do
    let parent ← m.parentEntity? p
    let a ← parent.attr? attr
    some (parent.name, a.ty)

/-- Parents agree on the types of the attributes that an entity declares again. -/
def conflictRule (m : Model ε) (e : Entity ε) : List Diagnostic :=
  e.attributes.filterMap fun a =>
    (conflict? (m.parentTypes e a.name)).map fun c =>
      e.diagnoseField a.name (.typeConflict a.name c.1.2 c.1.1 c.2.2 c.2.1)

def entityRules (m : Model ε) (e : Entity ε) (i : Nat) : List Diagnostic :=
  e.mutationRule ++ e.compositeRule ++ m.singletonRule e i ++ m.joinRule e ++ e.filterRule
    ++ e.readonlyRule ++ e.inputRule .create e.exposure.createFields
    ++ e.inputRule .update e.exposure.updateFields ++ m.conflictRule e ++ e.identityRule

/-- Entities do not read from each other in circles. -/
def cycleRule (m : Model ε) (needs : Schedule.Needs) : List Diagnostic :=
  (Cycle.all needs).map fun cycle =>
    let first := cycle.head?.bind fun i => m.entities[i]?
    { problem := .dependencyCycle (cycle.map m.nameOf)
      entity := first.map Entity.name
      span := first.bind Entity.span }

/-- Every entity has a way to one with a source. -/
def orphanRule (m : Model ε) (needs : Schedule.Needs) : List Diagnostic :=
  let fed := Feed.settle needs (needs.length + 1) (m.entities.map fun e => e.source.isSome)
  (m.entities.zip fed).filterMap fun p => if p.2 then none else some (p.1.diagnose (.orphan p.1.name))

def violations (m : Model ε) (graph : Graph) (options : Options) : List Diagnostic :=
  let needs := graph.adjacency
  m.entities.zipIdx.flatMap (fun p => m.entityRules p.1 p.2) ++ m.cycleRule needs
    ++ if options.allowOrphans then [] else m.orphanRule needs

def validate (m : Model ε) (graph : Graph) (options : Options) : Checked Unit :=
  Checked.report (m.violations graph options) ()

end Model

end Tributary
