import Tributary.Proofs.Plan.Joins
import Tributary.Proofs.Plan.Record

/-!
# What a join compares

Records of a parent that are collected by key have gone through their own evaluation, in which a point in time that was
given as text has become one. The key that they are compared with is taken from the record as it was given. The two
agree with what the evaluated record has for its key, but for a point in time that is given as text.

* `withKey field key items` : the items that have this key;
* `EntityPlan.Sees p input i items` : what every expression sees in slot `i` of its parents;
* `IsMomentText ty v` : a point in time that is given as text; `coerce_of_not_isMomentText` : nothing else is changed;
* `EntityPlan.Returned q item` : the entity of a plan evaluates to the item;
* `coerce_datetime_same` : no point in time that was evaluated is the same as a text;
* `joined_by_given_key` : what a joined parent shows.
-/

namespace Tributary

/-- The items that have this key; none for null. -/
def withKey (field : String) (key : Value) (items : List Value) : List Value :=
  match key with
  | .null => []
  | key => items.filter fun item => (item.field? field).any (·.same key)

theorem matching_eq_withKey (join : Join) (localKey : String) (record : Value) (items : List Value) :
    matching join localKey record items = withKey join.parentKey (record.field localKey) items := by
  unfold matching withKey Value.field
  cases record.field? localKey with
  | none => rfl
  | some key => cases key <;> rfl

theorem ParentSlot.select_joined {slot : ParentSlot} (hmany : slot.multiplicity = .many) {join : Join}
    (hjoin : slot.join = some join) {key : String} (hkey : join.localKey = some key) (record : Value)
    (items : List Value) :
    slot.select record (.array items) = .array (withKey join.parentKey (record.field key) items) := by
  unfold select
  rw [hmany, hjoin]
  dsimp only
  rw [hkey, ← matching_eq_withKey]

/-! ## Texts that are read as points in time -/

/-- A value of this type is a point in time that is given as text. -/
def IsMomentText (ty : Ty) (v : Value) : Prop := ty = .datetime ∧ ∃ s ns, v = .string s ∧ Time.readMoment? s = some ns

theorem coerce_of_not_isMomentText {ty : Ty} {v : Value} (h : ¬ IsMomentText ty v) : coerce ty v = v := by
  unfold coerce
  split
  · next s =>
    split
    · next ns hns => exact absurd ⟨rfl, s, ns, rfl, hns⟩ h
    · rfl
  · rfl

/-- What is evaluated as a point in time is never the same as a text that stands for one. -/
theorem coerce_datetime_same {s : String} {ns : Int64} (h : Time.readMoment? s = some ns) (v : Value) :
    (coerce .datetime v).same (.string s) = false := by
  cases v with
  | string s' =>
    rw [coerce]
    split
    · rfl
    · next hnone =>
      have hne : s' ≠ s := by
        rintro rfl
        rw [h] at hnone
        cases hnone
      rw [Value.same, Value.order, Value.orderText, if_neg hne]
      split <;> rfl
  | _ => rfl

namespace EntityPlan

/-- In slot `i` of its parents every expression of the record sees these items. -/
def Sees (p : EntityPlan) (input : EvalInput) (i : Nat) (items : List Value) : Prop :=
  ∀ values, (p.frame input values).parents[i]? = some (.array items)

def Returned (q : EntityPlan) (item : Value) : Prop := ∃ input, q.evaluate input = .ok item

theorem selectParents_getElem? (record : Value) : ∀ (slots : List ParentSlot) (values : List Value) {i : Nat}
    {slot : ParentSlot} {v : Value}, slots[i]? = some slot → values[i]? = some v →
    (selectParents record slots values)[i]? = some (slot.select record v)
  | slot :: slots, v :: values, i, slot', v', hslot, hv => by
    rw [selectParents]
    cases i with
    | zero =>
      cases hslot
      cases hv
      rfl
    | succ i => exact selectParents_getElem? record slots values hslot hv
  | [], _, _, _, _, hslot, _ => by cases hslot
  | _ :: _, [], _, _, _, _, hv => by cases hv

theorem attr?_eq_some {p : EntityPlan} {name : String} {a : AttributePlan} (h : p.attr? name = some a) :
    a ∈ p.attributes ∧ a.name = name :=
  ⟨List.mem_of_find?_eq_some h, by simpa using List.find?_some h⟩

end EntityPlan

section Stages
variable {options : Options} {d : Document} {m : Model SourceExpr} {b : Model BoundExpr} {g : Graph}
  {c : Model Compiled} {plan : Plan} {p : EntityPlan} {input : EvalInput} {record : Value}

/-- A join has a key of its own entity and one of the parent, and records supply both. -/
theorem Stages.joined_keys (hs : Stages options d m b g c plan) (hp : p ∈ plan.entities) {slot : ParentSlot}
    (hslot : slot ∈ p.parents) (hmany : slot.multiplicity = .many) {join : Join} (hjoin : slot.join = some join) :
    ∃ key, join.localKey = some key ∧ p.Supplies key ∧
      ∃ q, plan.entity? slot.name = some q ∧ q.Supplies join.parentKey := by
  obtain ⟨i, e₀, e, e'', order, he, rfl⟩ := hs.mem_entities hp
  obtain ⟨parent, hparent, rfl⟩ := List.mem_map.mp hslot
  obtain ⟨declared, hdeclared, rfl⟩ := Option.map_eq_some_iff.mp hjoin
  have hc : parent.collects? = some declared := by
    rw [Parent.collects?, Parent.isMany, show parent.multiplicity = .many from hmany, hdeclared]
    rfl
  obtain ⟨entity, hentity, -⟩ := hs.drawn.parent_entity he.bound hparent
  obtain ⟨-, key, hkey, hschema⟩ := (Model.joinProblems_eq_nil hc hentity).mp
    (Model.joinProblems_of_graph hs.graph (List.mem_of_getElem? he.bound) hparent)
  obtain ⟨q, hq, hcollected, -⟩ := hs.isCollected he.bound hparent hc
  exact ⟨key, hkey, (he.supplies_iff order).mpr hschema, q, hq, hcollected.supplied⟩

/-- What a record supplies is in the evaluated one, as its type wants it. -/
theorem Stages.evaluate_supplied (hs : Stages options d m b g c plan) (hp : p ∈ plan.entities)
    (h : p.evaluate input = .ok record) {name : String} {a : AttributePlan} (ha : p.attr? name = some a)
    (hsupplied : a.compiled = none) : record.field? name = some (coerce a.ty (input.record.field name)) := by
  obtain ⟨i, e, e', e'', order, hentity, rfl⟩ := hs.mem_entities hp
  have hback := hentity.backward (g := g) order
  have hnodup := hentity.planned_names_nodup hs order
  have horder := hentity.attrOrder_eq hs order
  rw [← hentity.length_planned (g := g) order] at horder
  generalize b.entityPlan g order e' e'' i = p at *
  have hends := EntityPlan.evaluateAttrs_filled hback p.attributes.length (EntityPlan.Filled.nil : p.Filled input [])
    (by simp)
  rw [List.length_nil, List.nil_append] at hends
  rw [p.evaluate_eq input horder] at h
  obtain ⟨values, hvalues, hok⟩ := bind_eq_ok.mp h
  rw [hvalues] at hends
  obtain ⟨hfilled, hlen⟩ := hends
  obtain ⟨-, -, -, hall⟩ := hfilled.record hlen hback hnodup (Except.ok.inj hok).symm
  obtain ⟨hmem, rfl⟩ := EntityPlan.attr?_eq_some ha
  obtain ⟨v, hv, hvalue⟩ := hall a hmem
  rw [EntityPlan.outcome, EntityPlan.evaluateAttr, hsupplied] at hvalue
  rw [hv, Except.ok.inj hvalue]

end Stages

/-- What a joined parent shows. The keys on both sides are fields that records supply. Every expression sees the items
whose key is the one that the record was given with, in their order. That is the key of the evaluated record unless it is
a point in time that was given as text; and then, if the key of the parent is a point in time as well, no item of the
parent is seen at all. -/
theorem joined_by_given_key {options : Options} {d : Document} {plan : Plan} (h : Plan.compile options d = .ok plan)
    {p : EntityPlan} (hp : p ∈ plan.entities) {i : Nat} {slot : ParentSlot} (hslot : p.parents[i]? = some slot)
    (hmany : slot.multiplicity = .many) {join : Join} (hjoin : slot.join = some join) {input : EvalInput}
    {items : List Value} (hitems : input.parents[i]? = some (.array items)) {record : Value}
    (hrecord : p.evaluate input = .ok record) :
    ∃ key a q b, join.localKey = some key ∧ p.attr? key = some a ∧ plan.entity? slot.name = some q ∧
      q.attr? join.parentKey = some b ∧
      p.Sees input i (withKey join.parentKey (input.record.field key) items) ∧
      record.field key = coerce a.ty (input.record.field key) ∧
      (¬ IsMomentText a.ty (input.record.field key) →
        p.Sees input i (withKey join.parentKey (record.field key) items)) ∧
      (IsMomentText a.ty (input.record.field key) → b.ty = .datetime → (∀ item ∈ items, q.Returned item) →
        p.Sees input i []) := by
  obtain ⟨m, b, g, c, hs⟩ := Stages.of_compile h
  obtain ⟨key, hkey, ⟨a, ha, hsupplied⟩, q, hq, ⟨a', ha', hsupplied'⟩⟩ := hs.joined_keys hp (List.mem_of_getElem? hslot)
    hmany hjoin
  have hsees : p.Sees input i (withKey join.parentKey (input.record.field key) items) := by
    intro values
    have hselected := EntityPlan.selectParents_getElem? input.record p.parents input.parents hslot hitems
    rwa [ParentSlot.select_joined hmany hjoin hkey] at hselected
  have hfield : record.field key = coerce a.ty (input.record.field key) := by
    rw [Value.field, hs.evaluate_supplied hp hrecord ha hsupplied, Option.getD_some]
  refine ⟨key, a, q, a', hkey, ha, hq, ha', hsees, hfield, fun hnot => ?_, fun hmoment hty hreturned => ?_⟩
  · rwa [hfield, coerce_of_not_isMomentText hnot]
  · obtain ⟨-, s, ns, hs', hns⟩ := hmoment
    have hnone : withKey join.parentKey (input.record.field key) items = [] := by
      rw [hs']
      refine List.filter_eq_nil_iff.mpr fun item hitem => ?_
      -- The key of an evaluated item is a point in time, or a text that stands for none.
      obtain ⟨input', hitem⟩ := hreturned item hitem
      have hvalue := hs.evaluate_supplied (List.mem_of_find?_eq_some hq) hitem ha' hsupplied'
      rw [hvalue, Option.any_some, hty, coerce_datetime_same hns]
      exact Bool.false_ne_true
    rwa [hnone] at hsees

def placedOrders : List Value :=
  [.ofFields [("id", .string "o1"), ("customer", .string "c1")],
    .ofFields [("id", .string "o2"), ("customer", .string "c2")]]

def customer : EvalInput :=
  { parents := [.array placedOrders], params := [], record := .ofFields [("id", .string "c1")], now := 0 }

theorem customer_sees_own_order : ∃ plan p record, Plan.compile {} purchases = .ok plan ∧ p ∈ plan.entities ∧
    p.evaluate customer = .ok record ∧ p.Sees customer 0 (withKey "customer" (record.field "id") placedOrders) ∧
    (withKey "customer" (record.field "id") placedOrders).length = 1 := by
  have hevaluated : ((Plan.compile {} purchases).toOption.bind fun plan => (plan.entities[1]?).bind fun p =>
      (p.evaluate customer).toOption.map fun record => (p.parents, (p.attr? "id").map AttributePlan.ty,
        (withKey "customer" (record.field "id") placedOrders).length)) = some ([orderSlot], some .string, 1) := by
    decide +kernel
  obtain ⟨plan, hplan, h⟩ := Option.bind_eq_some_iff.mp hevaluated
  obtain ⟨p, hp, h⟩ := Option.bind_eq_some_iff.mp h
  obtain ⟨record, hrecord, heq⟩ := Option.map_eq_some_iff.mp h
  obtain ⟨hparents, heq⟩ := Prod.mk.inj heq
  obtain ⟨hty, hlength⟩ := Prod.mk.inj heq
  have hplan := toOption_eq_some.mp hplan
  have hp := List.mem_of_getElem? hp
  have hrecord := toOption_eq_some.mp hrecord
  have hslot : p.parents[0]? = some orderSlot := by rw [hparents]; rfl
  have hitems : customer.parents[0]? = some (.array placedOrders) := rfl
  obtain ⟨key, a, -, -, hkey, ha, -, -, -, -, hsees, -⟩ := joined_by_given_key hplan hp hslot rfl rfl hitems hrecord
  obtain rfl := Option.some.inj hkey
  refine ⟨plan, p, record, hplan, hp, hrecord, hsees fun hmoment => ?_, hlength⟩
  rw [ha, Option.map_some, hmoment.1] at hty
  cases hty

/-- Sessions with the readings that were taken when they were held. -/
def sessions : Document :=
  { sources := [{ name := "lab" }]
    entities := [
      { name := "Reading"
        source := some "lab"
        identityField := some "id"
        attributes := [{ name := "id", type := "string" }, { name := "taken", type := "datetime" }]
        exposure := { operations := [.list], filters := ["taken"] } },
      { name := "Session"
        source := some "lab"
        identityField := some "at"
        parents := [{
          entity := "Reading"
          multiplicity := .many
          join := some { parentKey := "taken", localKey := some "at" } }]
        attributes := [
          { name := "at", type := "datetime" },
          { name := "count", type := "integer", expr := some (.call none "len" () [.ident none "Reading" ()]) }] }] }

def reading : EvalInput :=
  { parents := []
    params := []
    record := .ofFields [("id", .string "r1"), ("taken", .string "1970-01-01T00:00:01Z")]
    now := 0 }

/-- A session that was held at the first second, with these readings. -/
def session (readings : List Value) : EvalInput :=
  { parents := [.array readings]
    params := []
    record := .ofFields [("at", .string "1970-01-01T00:00:01Z")]
    now := 0 }

/-- The reading has the key of the session, and is not counted. -/
theorem session_misses_reading : ∃ plan q p item record, Plan.compile {} sessions = .ok plan ∧
    plan.entity? "Reading" = some q ∧ plan.entity? "Session" = some p ∧ q.evaluate reading = .ok item ∧
    p.evaluate (session [item]) = .ok record ∧ withKey "taken" (record.field "at") [item] = [item] ∧
    (record.field "count").same (.ofNat 0) = true := by
  have hevaluated : ((Plan.compile {} sessions).toOption.bind fun plan => (plan.entity? "Reading").bind fun q =>
      (plan.entity? "Session").bind fun p => (q.evaluate reading).toOption.bind fun item =>
        (p.evaluate (session [item])).toOption.map fun record =>
          ((withKey "taken" (record.field "at") [item]).length, (record.field "count").same (.ofNat 0))) =
      some (1, true) := by decide +kernel
  obtain ⟨plan, hplan, h⟩ := Option.bind_eq_some_iff.mp hevaluated
  obtain ⟨q, hq, h⟩ := Option.bind_eq_some_iff.mp h
  obtain ⟨p, hp, h⟩ := Option.bind_eq_some_iff.mp h
  obtain ⟨item, hitem, h⟩ := Option.bind_eq_some_iff.mp h
  obtain ⟨record, hrecord, heq⟩ := Option.map_eq_some_iff.mp h
  obtain ⟨hlength, hcount⟩ := Prod.mk.inj heq
  have hsublist : (withKey "taken" (record.field "at") [item]).Sublist [item] := by
    unfold withKey
    split
    · exact List.nil_sublist _
    · exact List.filter_sublist
  exact ⟨plan, q, p, item, record, toOption_eq_some.mp hplan, hq, hp, toOption_eq_some.mp hitem,
    toOption_eq_some.mp hrecord, hsublist.eq_of_length hlength, hcount⟩

end Tributary
