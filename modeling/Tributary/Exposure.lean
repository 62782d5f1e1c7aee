import Tributary.Json.Basic

/-!
# Exposure

What clients may do with an entity.

* `Operation` : an operation on the records of an entity;
* `Exposure` : the operations that an entity offers, with the fields that they take.
-/

namespace Tributary

inductive Operation where
  | list
  | read
  | create
  | update
  | delete
  | subscribe
  | publish
deriving DecidableEq, Repr

namespace Operation

def all : List Operation := [list, read, create, update, delete, subscribe, publish]

def name : Operation → String
  | list => "list"
  | read => "read"
  | create => "create"
  | update => "update"
  | delete => "delete"
  | subscribe => "subscribe"
  | publish => "publish"

def ofName? (s : String) : Option Operation := all.find? fun op => op.name == s

def isMutation : Operation → Bool
  | create | update | delete => true
  | _ => false

/-- Whether an entity with parents may offer the operation. -/
def isDerivable : Operation → Bool
  | list | read | subscribe => true
  | _ => false

/-- The operations of a list, each once, in their usual order. -/
def normalize (ops : List Operation) : List Operation := all.filter ops.contains

end Operation

/-- The operations that an entity offers, with the fields that they take. -/
structure Exposure where
  operations : List Operation := []
  /-- Fields that clients may not write. -/
  readonlyFields : List String := []
  /-- Fields that lists may be filtered by. -/
  filters : List String := []
  /-- The fields of a new record, where they are given one by one. -/
  createFields : Option (List String) := none
  /-- The fields of a change, where they are given one by one. -/
  updateFields : Option (List String) := none
deriving DecidableEq, Repr, Inhabited

namespace Exposure

def exposes (e : Exposure) (op : Operation) : Bool := e.operations.contains op

def isReadonly (e : Exposure) (field : String) : Bool := e.readonlyFields.contains field

def toJson (e : Exposure) : Json :=
  .object [
    ("operations", .ofNames (e.operations.map Operation.name)),
    ("readonly_fields", .ofNames e.readonlyFields),
    ("filters", .ofNames e.filters),
    ("create_fields", .orNull (e.createFields.map Json.ofNames)),
    ("update_fields", .orNull (e.updateFields.map Json.ofNames))]

end Exposure

end Tributary
