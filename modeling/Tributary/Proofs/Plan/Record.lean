import Tributary.Plan.Evaluate
import Tributary.Proofs.Node.Reads
import Tributary.Proofs.Plan.Stages
import Tributary.Proofs.Scope.References
import Tributary.Proofs.Value.Fields

/-!
# Records are consistent

The attributes of a record are evaluated on values of which the later ones are still missing. No expression can tell:
it reads earlier attributes only, and these are evaluated before it. So each value is also the one that its expression
has when all values are there.

* `EntityStages.solve_attrEdges`, `EntityStages.attrOrder_eq` : attributes are evaluated in the order of their
  declaration;
* `EntityPlan.Backward` : expressions read earlier attributes only; `EntityStages.backward` : those of a plan do;
* `EntityPlan.Filled` : the values of the first attributes, each evaluated on those before it;
* `evaluateAttrs_filled` : an evaluation fills the slots one by one, up to the end or up to an error;
* `Filled.settled` : what was evaluated stays right when more values are added;
* `Given`, `Coerced`, `Shown` : what a record supplies, what becomes of it, and what is shown of parents;
* `Consistent` : a value is what its declaration says; `consistent_of_outcome` : one that was evaluated is;
* `evaluate_consistent` : the record, or the error, of an evaluation.
-/

namespace Tributary

/-! ## The order of evaluation -/

section Stages
variable {options : Options} {d : Document} {m : Model SourceExpr} {b : Model BoundExpr} {g : Graph}
  {c : Model Compiled} {p : Plan} {i : Nat} {e : Entity SourceExpr} {e' : Entity BoundExpr} {e'' : Entity Compiled}

theorem AttrStages.siblings_lt {j : Nat} {a : Attribute SourceExpr} {a' : Attribute BoundExpr}
    {a'' : Attribute Compiled} (h : AttrStages options m b i j e e' e'' a a' a'') {k : Nat}
    (hk : k ∈ a'.references.siblings) : k < j :=
  (Model.resolveAttr_inScope h.resolve).siblings k hk

theorem EntityStages.attrEdges (hs : Stages options d m b g c p) (h : EntityStages options m b c i e e' e'') :
    g.attrEdges[i]? = some (e'.attributes.map fun a => a.references.siblings) := by
  rw [Model.graph_eq_ok hs.graph]
  simp [Model.toGraph, h.bound]

/-- Expressions read earlier attributes only, so the first attribute that is left is always ready. -/
theorem EntityStages.solve_attrEdges (h : EntityStages options m b c i e e' e'') :
    Schedule.solve (e'.attributes.map fun a => a.references.siblings) = .order (List.range e.attributes.length) := by
  have hback : ∀ j k, Schedule.Leads (e'.attributes.map fun a => a.references.siblings) j k → k < j := by
    intro j k hk
    have hj : j < e.attributes.length := by
      rw [← h.length_bound]
      simpa using hk.lt_left
    obtain ⟨a', a'', ha⟩ := h.attr (List.getElem?_eq_getElem hj)
    have hmem := (List.mem_filter.mp hk).1
    rw [List.getElem?_map, ha.bound] at hmem
    exact ha.siblings_lt hmem
  rw [Schedule.solve_eq, Schedule.scheduled_of_backward hback, if_pos List.length_range, List.length_map, h.length_bound]

theorem EntityStages.attrOrder_eq (hs : Stages options d m b g c p) (h : EntityStages options m b c i e e' e'')
    (order : List Nat) :
    (b.entityPlan g order e' e'' i).attrOrder = List.range e.attributes.length := by
  show attributeOrder ((g.attrEdges[i]?).getD []) = _
  rw [h.attrEdges hs, Option.getD_some, attributeOrder, h.solve_attrEdges]

end Stages

/-! ## Filling the slots -/

namespace EntityPlan

def frame (p : EntityPlan) (input : EvalInput) (values : List Value) : Frame :=
  { parents := selectParents input.record p.parents input.parents
    attributes := values
    params := input.params
    now := input.now }

abbrev outcome (p : EntityPlan) (input : EvalInput) (values : List Value) (a : AttributePlan) : Outcome :=
  evaluateAttr input (selectParents input.record p.parents input.parents) values a

/-- Expressions read attributes of smaller slots only. -/
def Backward (p : EntityPlan) : Prop :=
  ∀ i a c, p.attributes[i]? = some a → a.compiled = some c → ∀ k, Read.attr k ∈ c.root.reads → k < i

variable {p : EntityPlan} {input : EvalInput}

/-- The values of the first attributes, each evaluated on those before it. -/
inductive Filled (p : EntityPlan) (input : EvalInput) : List Value → Prop where
  | nil : Filled p input []
  | snoc {values a v} (h : Filled p input values) (ha : p.attributes[values.length]? = some a)
      (hv : p.outcome input values a = .ok v) : Filled p input (values ++ [v])

theorem outcome_eq_error {values : List Value} {a : AttributePlan} {err : EvalError}
    (h : p.outcome input values a = .error err) :
    ∃ c, a.compiled = some c ∧ c.root.eval (p.frame input values) [] = .error err := by
  unfold outcome evaluateAttr at h
  split at h
  · cases h
  · next c hc => exact ⟨c, hc, h⟩

theorem slot_append_left {us vs : List Value} {k : Nat} (hk : k < us.length) : slot (us ++ vs) k = slot us k := by
  unfold slot
  rw [List.getElem?_append_left hk]

/-- What an attribute evaluates to depends on the values of earlier slots only. -/
theorem Backward.outcome_congr (hback : p.Backward) {i : Nat} {a : AttributePlan} (ha : p.attributes[i]? = some a)
    {us vs : List Value} (h : ∀ k < i, slot us k = slot vs k) : p.outcome input us a = p.outcome input vs a := by
  unfold outcome evaluateAttr
  cases hc : a.compiled with
  | none => rfl
  | some c =>
    refine c.root.eval_congr ⟨rfl, fun r hr => ?_⟩
    cases r with
    | attr k => exact congrArg Except.ok (h k (hback i a c ha hc k hr))
    | _ => rfl

/-- How an evaluation of all attributes ends: with all slots filled, or at the first expression that fails. -/
def Ends (p : EntityPlan) (input : EvalInput) : Except EvalError (List Value) → Prop
  | .ok values => Filled p input values ∧ values.length = p.attributes.length
  | .error err => ∃ values a c, Filled p input values ∧ p.attributes[values.length]? = some a ∧
      a.compiled = some c ∧ c.root.eval (p.frame input values) [] = .error err

/-- From slots that are filled so far the evaluation goes on slot by slot. -/
theorem evaluateAttrs_filled (hback : p.Backward) (n : Nat) {values : List Value} (h : Filled p input values)
    (hn : values.length + n = p.attributes.length) :
    Ends p input (p.evaluateAttrs input (selectParents input.record p.parents input.parents)
      (List.range' values.length n) (values ++ List.replicate n .null)) := by
  induction n generalizing values with
  | zero =>
    rw [List.range'_zero, evaluateAttrs, List.replicate_zero, List.append_nil]
    exact ⟨h, hn⟩
  | succ n ih =>
    have hlt : values.length < p.attributes.length := by omega
    obtain ⟨a, ha⟩ : ∃ a, p.attributes[values.length]? = some a := ⟨_, List.getElem?_eq_getElem hlt⟩
    -- The slots that are not filled yet are not read.
    have hread : p.outcome input (values ++ List.replicate (n + 1) .null) a = p.outcome input values a :=
      hback.outcome_congr ha fun k hk => slot_append_left hk
    rw [List.range'_succ, evaluateAttrs, ha]
    dsimp only
    rw [show evaluateAttr _ _ (values ++ _) a = _ from hread]
    cases hv : p.outcome input values a with
    | error err =>
      obtain ⟨c, hc, herr⟩ := outcome_eq_error hv
      exact ⟨values, a, c, h, ha, hc, herr⟩
    | ok v =>
      have hfilled : Filled p input (values ++ [v]) := .snoc h ha hv
      have hset : (values ++ List.replicate (n + 1) Value.null).set values.length v =
          values ++ [v] ++ List.replicate n Value.null := by
        rw [List.set_append_right _ _ (Nat.le_refl _), Nat.sub_self, List.replicate_succ, List.set_cons_zero,
          List.append_assoc]
        rfl
      have hlen : (values ++ [v]).length = values.length + 1 := by simp
      have := ih hfilled (by omega)
      rw [hlen, ← hset] at this
      exact this

/-- A value that was evaluated on those before it is also right when more values are added. -/
theorem Filled.settled (hback : p.Backward) {values : List Value} (h : Filled p input values) {us : List Value}
    (hus : values <+: us) {i : Nat} {a : AttributePlan} (hi : i < values.length)
    (ha : p.attributes[i]? = some a) : p.outcome input us a = .ok (slot us i) := by
  induction h generalizing us with
  | nil => simp at hi
  | @snoc values b v h hb hv ih =>
    obtain ⟨rest, rfl⟩ := hus
    by_cases hlt : i < values.length
    · exact ih ⟨[v] ++ rest, by simp⟩ hlt
    · obtain rfl : i = values.length := by
        rw [List.length_append, List.length_singleton] at hi
        omega
      obtain rfl : b = a := Option.some.inj (hb.symm.trans ha)
      have hslot : slot (values ++ [v] ++ rest) values.length = v := by simp [slot]
      rw [hslot, ← hv]
      refine hback.outcome_congr ha fun k hk => ?_
      rw [List.append_assoc]
      exact slot_append_left hk

theorem evaluate_eq (p : EntityPlan) (input : EvalInput) (horder : p.attrOrder = List.range p.attributes.length) :
    p.evaluate input =
      (p.evaluateAttrs input (selectParents input.record p.parents input.parents)
        (List.range' 0 p.attributes.length) (List.replicate p.attributes.length .null)).bind fun values =>
          .ok (.ofFields ((p.attributes.map AttributePlan.name).zip values)) := by
  unfold evaluate
  rw [horder, List.range_eq_range', List.map_const']
  rfl

end EntityPlan

/-! ## Records -/

section Record
variable {names : List String} {values : List Value}

theorem map_fst_zip_eq (hlen : values.length = names.length) : (names.zip values).map Prod.fst = names :=
  List.map_fst_zip (Nat.le_of_eq hlen.symm)

theorem ofFields_field? (hlen : values.length = names.length) (hnodup : names.Nodup) {i : Nat} {name : String}
    (hi : names[i]? = some name) :
    (Value.ofFields (names.zip values)).field? name = some (slot values i) := by
  have hlt : i < values.length := hlen ▸ (List.getElem?_eq_some_iff.mp hi).1
  have hmem : (name, slot values i) ∈ names.zip values := by
    refine List.mem_of_getElem? (i := i) ?_
    rw [List.getElem?_zip_eq_some]
    exact ⟨hi, by simp [slot, hlt]⟩
  exact Fields.get?_ofList (by rwa [map_fst_zip_eq hlen]) hmem

theorem map_ofFields_field (hlen : values.length = names.length) (hnodup : names.Nodup) :
    names.map (Value.ofFields (names.zip values)).field = values := by
  refine List.ext_getElem? fun i => ?_
  rw [List.getElem?_map]
  cases hi : names[i]? with
  | none =>
    have hge : values.length ≤ i := hlen ▸ List.getElem?_eq_none_iff.mp hi
    rw [List.getElem?_eq_none hge]
    rfl
  | some name =>
    have hlt : i < values.length := hlen ▸ (List.getElem?_eq_some_iff.mp hi).1
    rw [Option.map_some, Value.field, ofFields_field? hlen hnodup hi]
    simp [slot, hlt]

/-- A record made of filled slots has exactly the attributes, and their values are those on all values of the record. -/
theorem EntityPlan.Filled.record {p : EntityPlan} {input : EvalInput} (h : p.Filled input values)
    (hlen : values.length = p.attributes.length) (hback : p.Backward)
    (hnodup : (p.attributes.map AttributePlan.name).Nodup) {record : Value}
    (hrecord : record = .ofFields ((p.attributes.map AttributePlan.name).zip values)) :
    ∃ fields, record = .object fields ∧ (Fields.names fields).Perm (p.attributes.map AttributePlan.name) ∧
      ∀ a ∈ p.attributes, ∃ v, record.field? a.name = some v ∧
        p.outcome input (p.attributes.map fun b => record.field b.name) a = .ok v := by
  subst hrecord
  have hlen' : values.length = (p.attributes.map AttributePlan.name).length := by rw [List.length_map, hlen]
  refine ⟨_, rfl, ?_, fun a ha => ?_⟩
  · have hperm := Fields.names_ofList_perm ((map_fst_zip_eq hlen').symm ▸ hnodup)
    rwa [map_fst_zip_eq hlen'] at hperm
  · obtain ⟨i, hi⟩ := List.mem_iff_getElem?.mp ha
    have hlt : i < values.length := hlen ▸ (List.getElem?_eq_some_iff.mp hi).1
    refine ⟨slot values i, ofFields_field? hlen' hnodup (by rw [List.getElem?_map, hi]; rfl), ?_⟩
    have hvalues := map_ofFields_field hlen' hnodup
    rw [List.map_map] at hvalues
    rw [show (p.attributes.map fun b => (Value.ofFields _).field b.name) = values from hvalues]
    exact h.settled hback (List.prefix_refl values) hlt hi

end Record

section Plans
variable {options : Options} {d : Document} {m : Model SourceExpr} {b : Model BoundExpr} {g : Graph}
  {c : Model Compiled} {p : Plan} {i : Nat} {e : Entity SourceExpr} {e' : Entity BoundExpr} {e'' : Entity Compiled}

theorem EntityStages.backward (h : EntityStages options m b c i e e' e'') (order : List Nat) :
    (b.entityPlan g order e' e'' i).Backward := by
  intro j q r hq hr k hk
  obtain ⟨a, a', a'', ha, rfl⟩ := h.planned_attr hq
  obtain ⟨x, -, hcompiles⟩ := ha.declared_expr h hr
  exact hcompiles.attr_lt hk

theorem EntityStages.planned_names_nodup (hs : Stages options d m b g c p)
    (h : EntityStages options m b c i e e' e'') (order : List Nat) :
    ((b.entityPlan g order e' e'' i).attributes.map AttributePlan.name).Nodup := by
  rw [h.planned_names order]
  exact Model.build_attrs_nodup hs.build (List.mem_of_getElem? h.declared)

end Plans

/-! ## What declarations say -/

/-- What a record has under a name; null where it has nothing, or is no object. -/
inductive Given : Value → String → Value → Prop where
  | field {fields name v} (h : fields.lookup name = some v) : Given (.object fields) name v
  | absent {fields name} (h : fields.lookup name = none) : Given (.object fields) name .null
  | noObject {record name} (h : ∀ fields, record ≠ .object fields) : Given record name .null

/-- What becomes of a value where a type is wanted: a text that is read as a point in time becomes one where that is
wanted, and all else stays as it is. -/
inductive Coerced : Ty → Value → Value → Prop where
  | moment {s ns} (h : Time.readMoment? s = some ns) : Coerced .datetime (.string s) (.time ns)
  | text {s} (h : Time.readMoment? s = none) : Coerced .datetime (.string s) (.string s)
  | other {ty v} (h : ty = .datetime → ∀ s, v ≠ .string s) : Coerced ty v v

/-- What a record is shown of a parent. Of many records that are joined it is those with its own key under the parent's
key, in their order, and none if it has no key; of any other parent it is all. -/
inductive Shown (record : Value) (p : ParentSlot) : Value → Value → Prop where
  | joined {join key items k} {keep : Value → Bool} (hmany : p.multiplicity = .many) (hjoin : p.join = some join)
      (hkey : join.localKey = some key) (hk : Given record key k) (hne : k ≠ .null)
      (hkeep : ∀ item, keep item = true ↔
        ∃ fields w, item = .object fields ∧ fields.lookup join.parentKey = some w ∧ w.same k = true) :
      Shown record p (.array items) (.array (items.filter keep))
  | keyless {join key items} (hmany : p.multiplicity = .many) (hjoin : p.join = some join)
      (hkey : join.localKey = some key) (hk : Given record key .null) : Shown record p (.array items) (.array [])
  | whole {v} (h : p.multiplicity = .one ∨ p.join.bind Join.localKey = none ∨ ∀ items, v ≠ .array items) :
      Shown record p v v

/-- What a record is shown of its parents; values beyond the last of them are shown as they are. -/
inductive ShownAll (record : Value) : List ParentSlot → List Value → List Value → Prop where
  | done {values} : ShownAll record [] values values
  | missing {slots} : ShownAll record slots [] []
  | slot {p slots v values w shown} (h : Shown record p v w) (hs : ShownAll record slots values shown) :
      ShownAll record (p :: slots) (v :: values) (w :: shown)

/-- A value is what the declaration of its attribute says: what the record supplies, or what the expression comes to in
the frame. -/
def Consistent (record : Value) (frame : Frame) (a : AttributePlan) (v : Value) : Prop :=
  match a.compiled with
  | none => ∃ u, Given record a.name u ∧ Coerced a.ty u v
  | some c => c.root.eval frame [] = .ok v

theorem given_field (record : Value) (name : String) : Given record name (record.field name) := by
  cases record with
  | object fields =>
    rw [Value.field, Value.field?, Fields.get?_eq_lookup]
    cases h : fields.lookup name with
    | none => exact .absent h
    | some v => exact .field h
  | _ =>
    refine .noObject fun fields h => ?_
    cases h

theorem coerced_coerce (ty : Ty) (v : Value) : Coerced ty v (coerce ty v) := by
  unfold coerce
  split
  · next s =>
    split
    · next ns h => exact .moment h
    · next h => exact .text h
  · next h => exact .other fun hty s hv => h s hty hv

theorem any_field?_iff {item k : Value} {name : String} : (item.field? name).any (·.same k) = true ↔
    ∃ fields w, item = .object fields ∧ fields.lookup name = some w ∧ w.same k = true := by
  cases item with
  | object fields => simp [Value.field?, Fields.get?_eq_lookup, Option.any_eq_true]
  | _ => simp [Value.field?]

theorem shown_select (record : Value) (p : ParentSlot) (v : Value) : Shown record p v (p.select record v) := by
  unfold ParentSlot.select
  split
  · next join items hmany hjoin =>
    split
    · next key hkey =>
      have hk := given_field record key
      have hnokey (h : record.field key = .null) : Shown record p (.array items) (.array []) :=
        .keyless hmany hjoin hkey (h ▸ hk)
      unfold matching
      unfold Value.field at hk hnokey
      split
      · next hnone => exact hnokey (by rw [hnone]; rfl)
      · next hnull => exact hnokey (by rw [hnull]; rfl)
      · next k hne hsome =>
        rw [hsome, Option.getD_some] at hk
        exact .joined hmany hjoin hkey hk hne fun item => any_field?_iff
    · next hkey => exact .whole (.inr (.inl (by rw [hjoin, Option.bind_some, hkey])))
  · next h =>
    cases hm : p.multiplicity with
    | one => exact .whole (.inl hm)
    | many =>
      cases hj : p.join with
      | none => exact .whole (.inr (.inl (by rw [hj]; rfl)))
      | some join => exact .whole (.inr (.inr fun items => h join items hm hj))

theorem shownAll_selectParents (record : Value) : ∀ (slots : List ParentSlot) (values : List Value),
    ShownAll record slots values (selectParents record slots values)
  | [], _ => .done
  | _ :: _, [] => .missing
  | p :: slots, v :: values => .slot (shown_select record p v) (shownAll_selectParents record slots values)

theorem Given.eq_field {record v : Value} {name : String} (h : Given record name v) : v = record.field name := by
  cases h with
  | field h => rw [Value.field, Value.field?, Fields.get?_eq_lookup, h, Option.getD_some]
  | absent h => rw [Value.field, Value.field?, Fields.get?_eq_lookup, h, Option.getD_none]
  | noObject h =>
    cases record with
    | object fields => exact absurd rfl (h fields)
    | _ => rfl

theorem Shown.eq_select {record v w : Value} {p : ParentSlot} (h : Shown record p v w) : w = p.select record v := by
  unfold ParentSlot.select
  cases h with
  | @joined join key items k keep hmany hjoin hkey hk hne hkeep =>
    rw [hmany, hjoin]
    dsimp only
    rw [hkey]
    dsimp only
    have hfield : record.field? key = some k := by
      cases hk with
      | field h => rw [Value.field?, Fields.get?_eq_lookup, h]
      | absent h => exact absurd rfl hne
      | noObject h => exact absurd rfl hne
    unfold matching
    split
    · next hnone => cases hfield.symm.trans hnone
    · next hnull => exact absurd (Option.some.inj (hfield.symm.trans hnull)) hne
    · next k' _ hk' =>
      obtain rfl := Option.some.inj (hfield.symm.trans hk')
      exact congrArg Value.array (List.filter_congr fun item _ =>
        Bool.eq_iff_iff.mpr ((hkeep item).trans any_field?_iff.symm))
  | keyless hmany hjoin hkey hk =>
    rw [hmany, hjoin]
    dsimp only
    rw [hkey]
    dsimp only
    have hnull := hk.eq_field
    unfold matching
    unfold Value.field at hnull
    cases hfield : record.field? _ with
    | none => rfl
    | some k =>
      rw [hfield, Option.getD_some] at hnull
      subst hnull
      rfl
  | whole h =>
    split
    · next join items hmany hjoin =>
      rcases h with h | h | h
      · cases hmany.symm.trans h
      · rw [hjoin, Option.bind_some] at h
        rw [h]
      · exact absurd rfl (h items)
    · rfl

theorem ShownAll.eq_selectParents {record : Value} {slots : List ParentSlot} {values shown : List Value}
    (h : ShownAll record slots values shown) : shown = selectParents record slots values := by
  induction h with
  | done => rfl
  | @missing slots => cases slots <;> rfl
  | slot h _ ih => rw [selectParents, ← h.eq_select, ← ih]

theorem consistent_of_outcome {p : EntityPlan} {input : EvalInput} {values : List Value} {a : AttributePlan}
    {v : Value} (h : p.outcome input values a = .ok v) : Consistent input.record (p.frame input values) a v := by
  unfold EntityPlan.outcome EntityPlan.evaluateAttr at h
  unfold Consistent
  cases hc : a.compiled with
  | none =>
    rw [hc] at h
    cases h
    exact ⟨_, given_field _ _, coerced_coerce _ _⟩
  | some c =>
    rw [hc] at h
    exact h

/-- What the evaluation of an entity gives. A record has exactly the attributes of the entity, and each value in it is
what its declaration says when all attributes have the values of the record. An error is that of the expression of an
attribute, when the attributes before it have the values that their declarations say. -/
theorem evaluate_consistent {options : Options} {d : Document} {plan : Plan} (h : Plan.compile options d = .ok plan)
    {p : EntityPlan} (hp : p ∈ plan.entities) (input : EvalInput) :
    ∃ shown, ShownAll input.record p.parents input.parents shown ∧
      let frame (values : List Value) : Frame :=
        { parents := shown, attributes := values, params := input.params, now := input.now }
      match p.evaluate input with
      | .ok record =>
        ∃ fields, record = .object fields ∧ (Fields.names fields).Perm (p.attributes.map AttributePlan.name) ∧
          ∀ a ∈ p.attributes, ∃ v, record.field? a.name = some v ∧
            Consistent input.record (frame (p.attributes.map fun b => record.field b.name)) a v
      | .error err =>
        ∃ values a c, p.attributes[values.length]? = some a ∧ a.compiled = some c ∧
          c.root.eval (frame values) [] = .error err ∧
          ∀ (j : Nat) b v, p.attributes[j]? = some b → values[j]? = some v →
            Consistent input.record (frame values) b v := by
  obtain ⟨m, b, g, c, hs⟩ := Stages.of_compile h
  obtain ⟨i, e, e', e'', order, hentity, rfl⟩ := hs.mem_entities hp
  have hback := hentity.backward (g := g) order
  have hnodup := hentity.planned_names_nodup hs order
  have horder := hentity.attrOrder_eq hs order
  rw [← hentity.length_planned (g := g) order] at horder
  generalize b.entityPlan g order e' e'' i = p at *
  have hends := EntityPlan.evaluateAttrs_filled hback p.attributes.length (EntityPlan.Filled.nil : p.Filled input [])
    (by simp)
  rw [List.length_nil, List.nil_append] at hends
  rw [p.evaluate_eq input horder]
  refine ⟨selectParents input.record p.parents input.parents, shownAll_selectParents _ _ _, ?_⟩
  intro frame
  generalize p.evaluateAttrs input _ _ _ = r at hends
  cases r with
  | ok values =>
    obtain ⟨hfilled, hlen⟩ := hends
    obtain ⟨fields, hfields, hnames, hall⟩ := hfilled.record hlen hback hnodup rfl
    refine ⟨fields, hfields, hnames, fun a ha => ?_⟩
    obtain ⟨v, hv, hvalue⟩ := hall a ha
    exact ⟨v, hv, consistent_of_outcome hvalue⟩
  | error err =>
    obtain ⟨values, a, r, hfilled, ha, hr, herr⟩ := hends
    refine ⟨values, a, r, ha, hr, herr, fun j q v hq hv => consistent_of_outcome (p := p) ?_⟩
    obtain ⟨hj, rfl⟩ := List.getElem?_eq_some_iff.mp hv
    have hsettled := hfilled.settled hback (List.prefix_refl values) hj hq
    rwa [slot, List.getElem?_eq_getElem hj] at hsettled

/-- Invoices, with two computed attributes of which one reads the other, and with their own payments. -/
def invoices : Document :=
  { sources := [{ name := "ledger" }]
    entities := [
      { name := "Payment"
        source := some "ledger"
        identityField := some "id"
        attributes := [{ name := "id", type := "string" }, { name := "invoice", type := "string" }]
        exposure := { operations := [.list], filters := ["invoice"] } },
      { name := "Invoice"
        source := some "ledger"
        identityField := some "id"
        parents := [{ entity := "Payment", multiplicity := .many, join := some { parentKey := "invoice" } }]
        attributes := [
          { name := "id", type := "string" },
          { name := "net", type := "number" },
          { name := "due", type := "datetime" },
          { name := "gross"
            expr := some (.binary none .mul (.ident none "net" ()) (.literal none (.ofNat 2))) },
          { name := "overdue"
            expr := some (.conditional none (.binary none .lt (.ident none "due" ()) (.call none "now" () []))
              (.ident none "gross" ()) (.literal none .null)) },
          { name := "payments", expr := some (.call none "len" () [.ident none "Payment" ()]) }] }] }

def payment (id : String) : Value := .object [("invoice", .string id)]

/-- A record of an invoice, the due date as text, among the payments of two invoices. -/
def invoice : EvalInput :=
  { parents := [.array [payment "i2", payment "i1"]]
    params := []
    record := .ofFields
      [("id", .string "i1"), ("net", .ofNat 21), ("due", .string "1970-01-01T00:00:00Z"), ("note", .ofNat 1)]
    now := 1 }

/-- The due date has become a point in time, and one of the payments is that of the invoice. -/
theorem evaluate_invoice_consistent : ∃ plan p, Plan.compile {} invoices = .ok plan ∧ p ∈ plan.entities ∧
    p.attributes.map AttributePlan.name = ["id", "net", "due", "gross", "overdue", "payments"] ∧
    let record : Value := .object [("due", .time 0), ("gross", .ofNat 42), ("id", .string "i1"), ("net", .ofNat 21),
      ("overdue", .ofNat 42), ("payments", .ofNat 1)]
    let frame : Frame :=
      { parents := [.array [payment "i1"]]
        attributes := [.string "i1", .ofNat 21, .time 0, .ofNat 42, .ofNat 42, .ofNat 1]
        params := []
        now := 1 }
    p.evaluate invoice = .ok record ∧
    ∀ a ∈ p.attributes, ∃ v, record.field? a.name = some v ∧ Consistent invoice.record frame a v := by
  have hevaluated : ((Plan.compile {} invoices).toOption.bind fun plan => (plan.entities[1]?).map fun p =>
      (p.attributes.map AttributePlan.name, p.evaluate invoice, selectParents invoice.record p.parents invoice.parents)) =
      some (["id", "net", "due", "gross", "overdue", "payments"], .ok (.object [("due", .time 0), ("gross", .ofNat 42),
        ("id", .string "i1"), ("net", .ofNat 21), ("overdue", .ofNat 42), ("payments", .ofNat 1)]),
        [.array [payment "i1"]]) := by decide +kernel
  obtain ⟨plan, hplan, h⟩ := Option.bind_eq_some_iff.mp hevaluated
  obtain ⟨p, hp, h⟩ := Option.map_eq_some_iff.mp h
  obtain ⟨hnames, h⟩ := Prod.mk.inj h
  obtain ⟨hrecord, hparents⟩ := Prod.mk.inj h
  have hplan := toOption_eq_some.mp hplan
  have hp := List.mem_of_getElem? hp
  obtain ⟨shown, hshown, hconsistent⟩ := evaluate_consistent hplan hp invoice
  obtain rfl := hshown.eq_selectParents.trans hparents
  rw [hrecord] at hconsistent
  obtain ⟨-, -, -, hall⟩ := hconsistent
  have hvalues : ∀ record : Value, (p.attributes.map fun b => record.field b.name) =
      ["id", "net", "due", "gross", "overdue", "payments"].map record.field := by
    intro record
    rw [← hnames, List.map_map]
    rfl
  rw [hvalues] at hall
  exact ⟨plan, p, hplan, hp, hnames, hrecord, hall⟩

end Tributary
