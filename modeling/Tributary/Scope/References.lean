import Tributary.Scope.Binding

/-!
# References

What an expression reads, collected from its nodes.

* `References` : attributes, parents, parameters and builtins that an expression reads;
* `BoundExpr.references` : the references of an expression;
* `Model.scopes` : for each entity of a model, the parameters it sees and the references of its attributes.
-/

namespace Tributary

/-- What an expression reads, each in increasing order. -/
structure References where
  /-- Slots of earlier attributes of the entity. -/
  siblings : List Nat := []
  /-- Slots of parents, read as a whole or through an attribute. -/
  parents : List Nat := []
  /-- Slots of single parents with the attribute that is read of them. -/
  parentAttrs : List (Nat × String) := []
  /-- Slots of parameters. -/
  params : List Nat := []
  /-- The names of the builtins that are called. -/
  builtins : List String := []
deriving DecidableEq, Repr, Inhabited

namespace BoundExpr

def sibling? : BoundExpr → Option Nat
  | .ident _ _ (.attr slot) => some slot
  | _ => none

def parent? : BoundExpr → Option Nat
  | .ident _ _ (.parent slot _ _) => some slot
  | .ident _ _ (.parentAttr slot _ _) => some slot
  | _ => none

/-- The attribute of a single parent that a node reads. -/
def parentAttr? : BoundExpr → Option (Nat × String)
  | .ident _ _ (.parentAttr slot _ attr) => some (slot, attr)
  | .access _ (.ident _ _ (.parent slot _ .one)) field _ _ => some (slot, field)
  | _ => none

def param? : BoundExpr → Option Nat
  | .ident _ _ (.param slot) => some slot
  | _ => none

def builtin? : BoundExpr → Option String
  | .call _ _ b _ => some b.name
  | _ => none

def references (e : BoundExpr) : References :=
  { siblings := Sorted.ofList compare (e.nodes.filterMap sibling?)
    parents := Sorted.ofList compare (e.nodes.filterMap parent?)
    parentAttrs := Sorted.ofList (Sorted.orderPair compare compare) (e.nodes.filterMap parentAttr?)
    params := Sorted.ofList compare (e.nodes.filterMap param?)
    builtins := Sorted.ofList compare (e.nodes.filterMap builtin?) }

end BoundExpr

/-- What the expression of an attribute reads; an attribute without one reads nothing. -/
def Attribute.references (a : Attribute BoundExpr) : References :=
  a.expr.elim {} BoundExpr.references

def References.toJson (r : References) : Json :=
  .object [
    ("siblings", .ofNats r.siblings),
    ("parents", .ofNats r.parents),
    ("parent_attributes", .array (r.parentAttrs.map fun p => .array [.int p.1, .string p.2])),
    ("params", .ofNats r.params),
    ("builtins", .ofNames r.builtins)]

structure EntityScope where
  /-- The visible parameters, by slot. -/
  params : List Param
  /-- What each attribute reads. -/
  references : List References
deriving DecidableEq, Repr

def EntityScope.toJson (s : EntityScope) : Json :=
  .object [
    ("params", .array (s.params.map Param.toJson)),
    ("references", .array (s.references.map References.toJson))]

def Model.scopes (m : Model BoundExpr) : List EntityScope :=
  m.entities.zipIdx.map fun p =>
    { params := m.visibleParams p.2, references := p.1.attributes.map Attribute.references }

end Tributary
