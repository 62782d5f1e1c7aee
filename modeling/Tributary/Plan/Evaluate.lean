import Tributary.Node.Eval
import Tributary.Plan.Basic
import Tributary.Value.Order

/-!
# Evaluating a record

The attributes of a record are evaluated one after the other. Those that are supplied come from the
record as it was given; the others are computed from what has been evaluated so far, from the parents
and from the parameters.

* `EntityPlan.evaluate` : the record of an entity;
* `EntityPlan.bindParents`, `EntityPlan.bindParams` : values by name put into their slots.
-/

namespace Tributary

structure EvalInput where
  /-- One value for each parent. -/
  parents : List Value
  /-- One value for each parameter. -/
  params : List Value
  /-- The record that supplies attributes. -/
  record : Value
  /-- The time of the evaluation, in nanoseconds since the epoch. -/
  now : Int64
deriving Repr

/-- The items whose key is that of the record; none if the record has no key. -/
def matching (join : Join) (localKey : String) (record : Value) (items : List Value) : List Value :=
  match record.field? localKey with
  | none => []
  | some .null => []
  | some key => items.filter fun item => (item.field? join.parentKey).any (·.same key)

/-- What an entity sees of a parent: of many records that are joined, only those that match. -/
def ParentSlot.select (p : ParentSlot) (record value : Value) : Value :=
  match p.multiplicity, p.join, value with
  | .many, some join, .array items =>
    match join.localKey with
    | some key => .array (matching join key record items)
    | none => value
  | _, _, _ => value

/-- What an entity sees of its parents; values beyond the last slot are kept. -/
def selectParents (record : Value) : List ParentSlot → List Value → List Value
  | p :: ps, v :: vs => p.select record v :: selectParents record ps vs
  | _, vs => vs

/-- A supplied value as its type wants it: points in time may be given as text. -/
def coerce (ty : Ty) (v : Value) : Value :=
  match ty, v with
  | .datetime, .string s =>
    match Time.readMoment? s with
    | some ns => .time ns
    | none => v
  | _, v => v

namespace EntityPlan

/-- The value of an attribute, given those evaluated so far. -/
def evaluateAttr (input : EvalInput) (parents : List Value) (values : List Value) (a : AttributePlan) :
    Outcome :=
  match a.compiled with
  | none => .ok (coerce a.ty (input.record.field a.name))
  | some c =>
    c.root.eval { parents, attributes := values, params := input.params, now := input.now } []

def evaluateAttrs (p : EntityPlan) (input : EvalInput) (parents : List Value) :
    List Nat → List Value → Except EvalError (List Value)
  | [], values => .ok values
  | slot :: slots, values =>
    match p.attributes[slot]? with
    | none => evaluateAttrs p input parents slots values
    | some a => do
      let v ← evaluateAttr input parents values a
      evaluateAttrs p input parents slots (values.set slot v)

def evaluate (p : EntityPlan) (input : EvalInput) : Outcome := do
  let parents := selectParents input.record p.parents input.parents
  let values ← p.evaluateAttrs input parents p.attrOrder (p.attributes.map fun _ => .null)
  .ok (.ofFields ((p.attributes.map AttributePlan.name).zip values))

/-- The values of parents by slot, given by name; null for a parent that is not given. -/
def bindParents (p : EntityPlan) (parents : Value) : List Value :=
  p.parents.map fun slot => parents.field slot.name

/-- The values of parameters by slot, given by name; null for a parameter that is not given. -/
def bindParams (p : EntityPlan) (params : Value) : List Value :=
  p.params.map fun param => params.field param.name

end EntityPlan

end Tributary
