import Tributary.Expr.Basic

/-!
# Model documents

What a document declares, as it stands: types are names, entities refer to each other by name, and
nothing has been checked yet.

* `Document` : sources, entities and endpoints;
* `SourceDecl`, `EntityDecl`, `AttributeDecl`, `ParentDecl`, `EndpointDecl`, `ParamDecl` : declarations.
-/

namespace Tributary

inductive SourceKind where
  | rest
  | websocket
  | database
  | file
deriving DecidableEq, Repr, Inhabited

namespace SourceKind

def all : List SourceKind := [rest, websocket, database, file]

def name : SourceKind → String
  | rest => "rest"
  | websocket => "websocket"
  | database => "database"
  | file => "file"

def ofName? (s : String) : Option SourceKind := all.find? fun k => k.name == s

end SourceKind

inductive ParamLocation where
  | path
  | query
  | header
deriving DecidableEq, Repr, Inhabited

namespace ParamLocation

def all : List ParamLocation := [path, query, header]

def name : ParamLocation → String
  | path => "path"
  | query => "query"
  | header => "header"

def ofName? (s : String) : Option ParamLocation := all.find? fun l => l.name == s

end ParamLocation

/-- How many records of a parent an entity sees. -/
inductive Multiplicity where
  | one
  | many
deriving DecidableEq, Repr, Inhabited

namespace Multiplicity

def all : List Multiplicity := [one, many]

def name : Multiplicity → String
  | one => "one"
  | many => "many"

def ofName? (s : String) : Option Multiplicity := all.find? fun m => m.name == s

end Multiplicity

/-- How the records of a parent are matched. -/
structure Join where
  /-- The parent's attribute that is compared. -/
  parentKey : String
  /-- The entity's attribute that it is compared with; its identity field where none is given. -/
  localKey : Option String := none
deriving DecidableEq, Repr, Inhabited

def Join.toJson (j : Join) : Json :=
  .object [("parent_key", .string j.parentKey), ("local_key", .ofName? j.localKey)]

structure ParamDecl where
  name : String
  location : ParamLocation := .query
  /-- The name of the type. -/
  type : String := "any"
deriving DecidableEq, Repr, Inhabited

structure SourceDecl where
  name : String
  kind : SourceKind := .rest
  url : Option String := none
  params : List ParamDecl := []
  span : Option Span := none
deriving DecidableEq, Repr, Inhabited

structure ParentDecl where
  /-- The name of the parent. -/
  entity : String
  multiplicity : Multiplicity := .one
  join : Option Join := none
deriving DecidableEq, Repr, Inhabited

structure AttributeDecl where
  name : String
  /-- The name of the type. -/
  type : String := "any"
  /-- How the attribute is computed; without one, records supply it. -/
  expr : Option SourceExpr := none
  span : Option Span := none
deriving Repr, Inhabited

structure EntityDecl where
  name : String
  parents : List ParentDecl := []
  /-- The name of the source that records come from. -/
  source : Option String := none
  /-- The attribute that tells records apart; without one there is a single record. -/
  identityField : Option String := none
  attributes : List AttributeDecl := []
  exposure : Exposure := {}
  span : Option Span := none
deriving Repr, Inhabited

structure EndpointDecl where
  name : String
  /-- The name of the entity. -/
  entity : String
  operation : Operation
  path : String
  params : List ParamDecl := []
  span : Option Span := none
deriving DecidableEq, Repr

structure Document where
  sources : List SourceDecl := []
  entities : List EntityDecl := []
  endpoints : List EndpointDecl := []
deriving Repr, Inhabited

end Tributary
