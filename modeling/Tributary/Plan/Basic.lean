import Tributary.Compiled
import Tributary.Graph.Basic
import Tributary.Node.Json

/-!
# Plans

A plan lists the entities of a model in an order in which they can be evaluated, each with all that its
evaluation needs.

* `EntityPlan` : what the evaluation of an entity needs;
* `Plan` : the entities in order, with where their data comes from.
-/

namespace Tributary

structure AttributePlan where
  name : String
  ty : Ty
  /-- How the attribute is computed; without one, the record supplies it. -/
  compiled : Option Compiled
  /-- The parents that the expression reads, by slot. -/
  requiredParents : List String
deriving Repr, Inhabited

def AttributePlan.toJson (a : AttributePlan) : Json :=
  .object [
    ("name", .string a.name),
    ("ty", a.ty.toJson),
    ("required_parents", .ofNames a.requiredParents),
    ("value", match a.compiled with
      | none => .object [("kind", .string "schema")]
      | some c =>
        .object [("kind", .string "computed"), ("root", c.root.toJson), ("result_type", c.ty.toJson)])]

structure ParentSlot where
  name : String
  multiplicity : Multiplicity
  join : Option Join
deriving DecidableEq, Repr, Inhabited

def ParentSlot.toJson (p : ParentSlot) : Json :=
  .object ([("name", .string p.name), ("multiplicity", .string p.multiplicity.name)]
    ++ (p.join.elim [] fun j => [("join", j.toJson)]))

structure EntityPlan where
  name : String
  role : Role
  singleton : Bool
  source : Option String
  identityField : Option String
  exposure : Exposure
  /-- The parents, by slot. -/
  parents : List ParentSlot
  /-- The parameters, by slot. -/
  params : List Param
  /-- The attributes, by slot. -/
  attributes : List AttributePlan
  /-- The slots of the attributes, in the order of their evaluation. -/
  attrOrder : List Nat
  /-- The entities that are evaluated before, in plan order. -/
  requires : List String
  /-- The fields of a new record, if records may be created. -/
  createInput : Option (List String)
  /-- The fields of a change, if records may be changed. -/
  updateInput : Option (List String)
deriving Repr, Inhabited

namespace EntityPlan

def attr? (p : EntityPlan) (name : String) : Option AttributePlan :=
  p.attributes.find? fun a => a.name == name

def toJson (p : EntityPlan) : Json :=
  .object [
    ("name", .string p.name),
    ("role", .string p.role.name),
    ("singleton", .bool p.singleton),
    ("source", .ofName? p.source),
    ("identity_field", .ofName? p.identityField),
    ("exposure", p.exposure.toJson),
    ("parents", .array (p.parents.map ParentSlot.toJson)),
    ("params", .array (p.params.map Param.toJson)),
    ("attributes", .array (p.attributes.map AttributePlan.toJson)),
    ("attribute_order", .ofNats p.attrOrder),
    ("requires", .ofNames p.requires),
    ("create_input", .orNull (p.createInput.map .ofNames)),
    ("update_input", .orNull (p.updateInput.map .ofNames))]

end EntityPlan

/-- An order in which the entities of a model can be evaluated. -/
structure Plan where
  /-- The entities, in the order of their evaluation. -/
  entities : List EntityPlan
  /-- The entities with a source that each entity's data comes from, by name. -/
  provenance : List (String × List String)
  /-- The entities that no other reads from, by name. -/
  terminals : List String
  graph : Graph
deriving Repr, Inhabited

namespace Plan

def entity? (p : Plan) (name : String) : Option EntityPlan :=
  p.entities.find? fun e => e.name == name

/-- The names of the entities, in the order of their evaluation. -/
def order (p : Plan) : List String := p.entities.map EntityPlan.name

/-- The entities with a source that an entity's data comes from. -/
def provenanceOf (p : Plan) (name : String) : Option (List String) := p.provenance.lookup name

def isTerminal (p : Plan) (name : String) : Bool := p.terminals.contains name

/-- Names that are needed, and the entities whose needs are still to be looked at, the latest first. -/
structure Demand where
  needed : List String := []
  pending : List EntityPlan

/-- A name that was not needed so far is needed now, and its entity is still to be looked at. -/
def require (p : Plan) (s : Demand) (name : String) : Demand :=
  if s.needed.contains name then s
  else { needed := Sorted.insert compare name s.needed, pending := (p.entity? name).toList ++ s.pending }

/-- All that is needed in the end, found with up to `n` looks. -/
def demand (p : Plan) : Nat → Demand → List String
  | _, ⟨needed, []⟩ => needed
  | 0, ⟨needed, _ :: _⟩ => needed
  | n + 1, ⟨needed, e :: pending⟩ => demand p n (e.requires.foldl p.require ⟨needed, pending⟩)

/-- All that has to be evaluated before an entity, in plan order. -/
def prerequisites (p : Plan) (name : String) : Option (List String) :=
  (p.entity? name).map fun e =>
    let needed := p.demand (p.entities.length + 1) { pending := [e] }
    p.order.filter needed.contains

def toJson (p : Plan) : Json :=
  .object [
    ("entities", .array (p.entities.map EntityPlan.toJson)),
    ("graph", p.graph.toJson),
    ("provenance", .object (p.provenance.map fun q => (q.1, .ofNames q.2))),
    ("terminals", .ofNames p.terminals)]

end Plan

end Tributary
