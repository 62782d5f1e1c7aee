import Tributary.Model.Build
import Tributary.Plan.Basic
import Tributary.Rules

/-!
# Planning

A model whose parts have been checked becomes a plan. A document is planned in stages: it is built into
a model, its names are bound, its graph is made, the rules are checked, and its expressions are
compiled. A stage that fails reports all that it found and ends the work.

* `Model.plan` : the plan of a compiled model;
* `Plan.compile` : the plan of a document.
-/

namespace Tributary

namespace Entity

/-- The fields that an operation takes, if it is offered: the supplied attributes that may be written,
among those given one by one if there are such. -/
def inputFields {ε : Type} (e : Entity ε) (op : Operation) (fields : Option (List String)) :
    Option (List String) :=
  if e.exposure.exposes op then
    some ((e.attributes.map Attribute.name).filter fun name =>
      (fields.all fun fs => fs.contains name) && e.isSchema name && !e.exposure.isReadonly name)
  else none

def parentSlot {ε : Type} (e : Entity ε) (p : Parent) : ParentSlot :=
  { name := p.name
    multiplicity := p.multiplicity
    join := p.join.map fun j => { j with localKey := e.localKey? j } }

def attributePlan (e : Entity BoundExpr) (a : Attribute BoundExpr) (c : Attribute Compiled) :
    AttributePlan :=
  { name := a.name
    ty := a.ty
    compiled := c.expr
    requiredParents := a.references.parents.filterMap fun slot =>
      (e.parents[slot]?).map Parent.name }

end Entity

/-- The order in which the attributes of an entity are evaluated, given what each of them reads. -/
def attributeOrder (needs : Schedule.Needs) : List Nat :=
  match Schedule.solve needs with
  | .order nodes => nodes
  | .cycle _ => List.range needs.length

namespace Model

def entityPlan (m : Model BoundExpr) (graph : Graph) (order : List Nat) (e : Entity BoundExpr)
    (c : Entity Compiled) (i : Nat) : EntityPlan :=
  { name := e.name
    role := e.role
    singleton := e.isSingleton
    source := e.source
    identityField := e.identityField
    exposure := e.exposure
    parents := e.parents.map e.parentSlot
    params := m.visibleParams i
    attributes := List.zipWith e.attributePlan e.attributes c.attributes
    attrOrder := attributeOrder ((graph.attrEdges[i]?).getD [])
    requires := (order.filter (graph.dependencies i).contains).map m.nameOf
    createInput := e.inputFields .create e.exposure.createFields
    updateInput := e.inputFields .update e.exposure.updateFields }

/-- The entities with a source that an entity's data comes from, by name, given those of all that it reads from. -/
def roots {ε : Type} (m : Model ε) (graph : Graph) (found : List (List String)) (i : Nat) : List String :=
  let own := if (graph.nodes[i]?).any GraphNode.isRoot then [m.nameOf i] else []
  Sorted.ofList compare (own ++ (graph.dependencies i).flatMap fun j => (found[j]?).getD [])

/-- The entities with a source that the data of each entity comes from, found in an order in which an entity comes
after all that it reads from. -/
def provenance {ε : Type} (m : Model ε) (graph : Graph) (order : List Nat) : List (List String) :=
  order.foldl (fun found i => found.set i (m.roots graph found i)) (m.entities.map fun _ => [])

def terminals {ε : Type} (m : Model ε) (graph : Graph) : List String :=
  Sorted.ofList compare
    (((List.range m.entities.length).filter fun i => (graph.dependents i).isEmpty).map m.nameOf)

def plan (m : Model BoundExpr) (graph : Graph) (compiled : Model Compiled) : Checked Plan :=
  match Schedule.solve graph.adjacency with
  | .cycle nodes => Checked.fail { problem := .unorderable (nodes.map m.nameOf) }
  | .order order =>
    .ok {
      entities := order.filterMap fun i => do
        let e ← m.entities[i]?
        let c ← compiled.entities[i]?
        some (m.entityPlan graph order e c i)
      provenance := Sorted.ofList (fun p q => compare p.1 q.1)
        ((m.entities.map Entity.name).zip (m.provenance graph order))
      terminals := m.terminals graph
      graph }

end Model

def Plan.compile (options : Options) (d : Document) : Checked Plan := do
  let model ← Model.build options d
  let bound ← model.resolve
  let graph ← bound.graph
  bound.validate graph options
  let compiled ← bound.compile options
  bound.plan graph compiled

end Tributary
