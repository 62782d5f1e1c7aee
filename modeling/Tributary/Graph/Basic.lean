import Tributary.Distinct
import Tributary.Json.Basic
import Tributary.Schedule

/-!
# Dependency graphs

Which entities read from which, and why; and within an entity, which attributes read which.

* `Graph` : entities, the edges between them, and the edges between attributes;
* `Graph.adjacency` : the entities that each entity reads from.
-/

namespace Tributary

inductive Role where
  /-- It has no parents. -/
  | base
  /-- It has parents. -/
  | composite
  /-- It collects the matching records of a parent. -/
  | aggregate
deriving DecidableEq, Repr, Inhabited

def Role.name : Role → String
  | base => "base"
  | composite => "composite"
  | aggregate => "aggregate"

structure GraphNode where
  name : String
  role : Role
  singleton : Bool
  source : Option String
deriving DecidableEq, Repr, Inhabited

def GraphNode.isRoot (n : GraphNode) : Bool := n.source.isSome

def GraphNode.toJson (n : GraphNode) : Json :=
  .object [
    ("name", .string n.name),
    ("role", .string n.role.name),
    ("singleton", .bool n.singleton),
    ("source", .ofName? n.source)]

inductive Cause where
  /-- The other is declared as a parent. -/
  | parent
  /-- An attribute reads the parent, as a whole or one of its attributes. -/
  | reference (attr : String) (parentAttr : Option String)
  /-- Records of the parent are matched by key. -/
  | aggregate (parentKey localKey : String)
deriving DecidableEq, Repr

def Cause.toJson : Cause → Json
  | parent => .object [("kind", .string "parent")]
  | reference attr none => .object [("kind", .string "attribute_reference"), ("attribute", .string attr)]
  | reference attr (some parentAttr) =>
    .object [("kind", .string "attribute_reference"), ("attribute", .string attr),
      ("parent_attribute", .string parentAttr)]
  | aggregate parentKey localKey =>
    .object [("kind", .string "aggregate"), ("parent_key", .string parentKey),
      ("local_key", .string localKey)]

/-- One entity reads from another. -/
structure Edge where
  source : Nat
  target : Nat
  cause : Cause
deriving DecidableEq, Repr

def Edge.toJson (e : Edge) : Json :=
  .object [("from", .int e.source), ("to", .int e.target), ("cause", e.cause.toJson)]

/-- Which entities read from which. -/
structure Graph where
  nodes : List GraphNode
  /-- Edges between entities, each once. -/
  edges : List Edge
  /-- For each attribute of each entity, the attributes that it reads. -/
  attrEdges : List (List (List Nat))
deriving DecidableEq, Repr, Inhabited

namespace Graph

/-- The entities that an entity reads from, in increasing order. -/
def dependencies (g : Graph) (entity : Nat) : List Nat :=
  Sorted.ofList compare ((g.edges.filter fun e => e.source == entity).map Edge.target)

/-- The entities that read from an entity, in increasing order. -/
def dependents (g : Graph) (entity : Nat) : List Nat :=
  Sorted.ofList compare ((g.edges.filter fun e => e.target == entity).map Edge.source)

def adjacency (g : Graph) : Schedule.Needs := (List.range g.nodes.length).map g.dependencies

def toJson (g : Graph) : Json :=
  .object [
    ("nodes", .array (g.nodes.map GraphNode.toJson)),
    ("edges", .array (g.edges.map Edge.toJson)),
    ("attribute_edges", .array (g.attrEdges.map fun attrs => .array (attrs.map .ofNats)))]

end Graph

end Tributary
