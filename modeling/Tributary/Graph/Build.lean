import Tributary.Graph.Basic
import Tributary.Scope.References

/-!
# The graph of a model

* `Model.graph` : the graph of a model whose joins have their keys.
-/

namespace Tributary

variable {ε : Type}

/-- The join by which the records of a parent are collected. -/
def Parent.collects? (p : Parent) : Option Join := if p.isMany then p.join else none

def Entity.role (e : Entity ε) : Role :=
  if e.parents.any fun p => p.collects?.isSome then .aggregate
  else if e.hasParents then .composite
  else .base

def Entity.graphNode (e : Entity ε) : GraphNode :=
  { name := e.name, role := e.role, singleton := e.isSingleton, source := e.source }

/-- Why an entity reads from a parent. -/
def Entity.parentCause (e : Entity ε) (p : Parent) : Cause :=
  match p.collects? with
  | none => .parent
  | some join =>
    match e.localKey? join with
    | some key => .aggregate join.parentKey key
    | none => .parent

/-- What an attribute reads of its entity's parents, by slot: single attributes first, then the parents
that it reads only as a whole. -/
def Attribute.reads (a : Attribute BoundExpr) : List (Nat × Cause) :=
  let refs := a.references
  let whole := refs.parents.filter fun slot => !refs.parentAttrs.any fun p => p.1 == slot
  (refs.parentAttrs.map fun p => (p.1, Cause.reference a.name (some p.2)))
    ++ whole.map fun slot => (slot, Cause.reference a.name none)

def Entity.edges (e : Entity BoundExpr) (i : Nat) : List Edge :=
  (e.parents.map fun p => { source := i, target := p.entity, cause := e.parentCause p })
    ++ (e.attributes.flatMap Attribute.reads).filterMap fun r =>
      (e.parents[r.1]?).map fun p => { source := i, target := p.entity, cause := r.2 }

namespace Model

def joinProblems (m : Model ε) (e : Entity ε) (p : Parent) : List Problem :=
  match p.collects?, m.parentEntity? p with
  | some join, some parent =>
    (if parent.isSchema join.parentKey then [] else [.joinKey join.parentKey parent.name]) ++
      match e.localKey? join with
      | none => [.joinWithoutKey parent.name e.name]
      | some key => if e.isSchema key then [] else [.joinKey key e.name]
  | _, _ => []

def joinDiagnostics (m : Model ε) : List Diagnostic :=
  m.entities.flatMap fun e => (e.parents.flatMap (m.joinProblems e)).map fun problem =>
    { problem, entity := e.name, span := e.span }

def toGraph (m : Model BoundExpr) : Graph :=
  { nodes := m.entities.map Entity.graphNode
    edges := (m.entities.zipIdx.flatMap fun p => p.1.edges p.2).eraseDups
    attrEdges := m.entities.map fun e => e.attributes.map fun a => a.references.siblings }

def graph (m : Model BoundExpr) : Checked Graph := Checked.report m.joinDiagnostics m.toGraph

end Model

end Tributary
