import Tributary.Document.Basic
import Tributary.Text.Basic

/-!
# Models

A model is a document whose declarations have been checked against each other: types are types, and
parents and the entities of endpoints are given by their place in the list of entities. What stands for
an expression is left open: a declared expression at first, a bound or a compiled one later.

* `Model` : sources, entities and endpoints;
* `Entity.attr?`, `Entity.isSchema` : the attributes of an entity by name;
* `Endpoint.pathIdentifiers` : what the path of an endpoint asks for.
-/

namespace Tributary

structure Param where
  name : String
  location : ParamLocation
  ty : Ty
deriving DecidableEq, Repr, Inhabited

def Param.toJson (p : Param) : Json :=
  .object [("name", .string p.name), ("location", .string p.location.name), ("ty", p.ty.toJson)]

structure Source where
  name : String
  kind : SourceKind
  url : Option String
  params : List Param
  span : Option Span
deriving DecidableEq, Repr, Inhabited

structure Parent where
  /-- The place of the parent among the entities. -/
  entity : Nat
  name : String
  multiplicity : Multiplicity
  join : Option Join
deriving DecidableEq, Repr, Inhabited

def Parent.isMany (p : Parent) : Bool := p.multiplicity == .many

structure Attribute (ε : Type) where
  name : String
  ty : Ty
  /-- How the attribute is computed; without one, records supply it. -/
  expr : Option ε
  span : Option Span
deriving Repr, Inhabited

def Attribute.isComputed {ε : Type} (a : Attribute ε) : Bool := a.expr.isSome

structure Entity (ε : Type) where
  name : String
  parents : List Parent
  source : Option String
  identityField : Option String
  attributes : List (Attribute ε)
  exposure : Exposure
  span : Option Span
deriving Repr, Inhabited

namespace Entity

variable {ε : Type}

def attr? (e : Entity ε) (name : String) : Option (Attribute ε) :=
  e.attributes.find? fun a => a.name == name

/-- Whether a name is that of an attribute that records supply. -/
def isSchema (e : Entity ε) (name : String) : Bool :=
  match e.attr? name with
  | some a => !a.isComputed
  | none => false

def hasParents (e : Entity ε) : Bool := !e.parents.isEmpty

def isSingleton (e : Entity ε) : Bool := e.identityField.isNone

/-- The attribute that a join compares with the parent's key. -/
def localKey? (e : Entity ε) (join : Join) : Option String := join.localKey.or e.identityField

end Entity

structure Endpoint where
  name : String
  /-- The place of the exposed entity among the entities. -/
  entity : Nat
  operation : Operation
  path : String
  params : List Param
  span : Option Span
deriving DecidableEq, Repr

namespace Endpoint

/-- What stands between braces, if that is the whole segment. -/
def identifier? (segment : List Char) : Option String :=
  match segment with
  | '\x7b' :: rest =>
    if rest.getLast? = some '\x7d' then some (String.ofList rest.dropLast) else none
  | _ => none

/-- The names that the path of an endpoint asks for. -/
def pathIdentifiers (e : Endpoint) : List String :=
  (Text.pieces ['/'] e.path.toList).filterMap identifier?

end Endpoint

structure Model (ε : Type) where
  sources : List Source
  entities : List (Entity ε)
  endpoints : List Endpoint
  /-- The names of the entities as they are declared, each once. -/
  index : List String
deriving Repr, Inhabited

namespace Model

variable {ε : Type}

def entityIndex? (m : Model ε) (name : String) : Option Nat := m.index.findIdx? (· == name)

def entity? (m : Model ε) (name : String) : Option (Entity ε) := (m.entityIndex? name).bind fun i => m.entities[i]?

def source? (m : Model ε) (name : String) : Option Source :=
  m.sources.find? fun s => s.name == name

def endpointsOf (m : Model ε) (entity : Nat) : List Endpoint :=
  m.endpoints.filter fun e => e.entity == entity

def parentEntity? (m : Model ε) (p : Parent) : Option (Entity ε) := m.entities[p.entity]?

def nameOf (m : Model ε) (entity : Nat) : String := ((m.entities[entity]?).map Entity.name).getD ""

end Model

end Tributary
