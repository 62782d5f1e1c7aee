import Tributary.Proofs.Plan.Declared
import Tributary.Proofs.Rules

/-!
# What operations take

A plan says which fields a new record or a change may have. It leaves out what may not be written; the rules report
whatever would be left out of a list that is given field by field. So nothing that is given is lost.

* `EntityPlan.IsInput p op given input` : the fields that an operation takes;
* `Entity.mem_inputFields` : which fields are kept;
* `EntityStages.isInput` : what is kept is what is given, where the rules report nothing;
* `inputs_complete` : the inputs of every entity of a plan.
-/

namespace Tributary

/-- The fields that an operation takes: none if it is not offered, else distinct attributes in the order of their
declaration that may be written. Where fields are given one by one it is exactly these, else all that may be
written. -/
structure EntityPlan.IsInput (p : EntityPlan) (op : Operation) (given input : Option (List String)) : Prop where
  offered : input.isSome = true ↔ p.exposure.exposes op = true
  ordered : ∀ fields ∈ input, fields.Sublist (p.attributes.map AttributePlan.name)
  distinct : ∀ fields ∈ input, fields.Nodup
  writable : ∀ fields ∈ input, ∀ a ∈ p.attributes, a.name ∈ fields →
    a.compiled = none ∧ a.name ∉ p.exposure.readonlyFields
  exact_given : ∀ fields ∈ input, ∀ names ∈ given, ∀ name, name ∈ fields ↔ name ∈ names
  all_writable : given = none → ∀ fields ∈ input, ∀ a ∈ p.attributes, a.compiled = none →
    a.name ∉ p.exposure.readonlyFields → a.name ∈ fields

namespace Entity

variable {ε : Type} {e : Entity ε} {op : Operation} {given : Option (List String)} {fields : List String}

theorem name_mem_of_isSchema {name : String} (h : e.isSchema name = true) : name ∈ e.attributes.map Attribute.name := by
  unfold isSchema at h
  split at h
  · next a ha =>
    have hname : a.name = name := by simpa using List.find?_some ha
    exact hname ▸ List.mem_map_of_mem (List.mem_of_find?_eq_some ha)
  · cases h

theorem inputFields_isSome : (e.inputFields op given).isSome = true ↔ e.exposure.exposes op = true := by
  unfold inputFields
  split <;> simp_all

theorem inputFields_sublist (h : e.inputFields op given = some fields) :
    fields.Sublist (e.attributes.map Attribute.name) := by
  unfold inputFields at h
  split at h
  · cases h; exact List.filter_sublist
  · cases h

theorem mem_inputFields (h : e.inputFields op given = some fields) {name : String} :
    name ∈ fields ↔
      (∀ names ∈ given, name ∈ names) ∧ e.isSchema name = true ∧ e.exposure.isReadonly name = false := by
  unfold inputFields at h
  split at h
  · cases h
    have hgiven : given.all (fun names => names.contains name) = true ↔ ∀ names ∈ given, name ∈ names := by
      cases given <;> simp
    rw [List.mem_filter, Bool.and_eq_true, Bool.and_eq_true, hgiven, Bool.not_eq_true']
    constructor
    · rintro ⟨-, ⟨hnames, hschema⟩, hwritable⟩
      exact ⟨hnames, hschema, hwritable⟩
    · rintro ⟨hnames, hschema, hwritable⟩
      exact ⟨name_mem_of_isSchema hschema, ⟨hnames, hschema⟩, hwritable⟩
  · cases h

end Entity

section Stages
variable {options : Options} {d : Document} {m : Model SourceExpr} {b : Model BoundExpr} {g : Graph}
  {c : Model Compiled} {p : Plan} {i : Nat} {e : Entity SourceExpr} {e' : Entity BoundExpr} {e'' : Entity Compiled}

/-- The fields of an operation that the plan keeps, where the rule for them reports nothing. -/
theorem EntityStages.isInput (hs : Stages options d m b g c p) (h : EntityStages options m b c i e e' e'')
    (order : List Nat) {op : Operation} {given : Option (List String)} (hrule : e'.inputRule op given = []) :
    (b.entityPlan g order e' e'' i).IsInput op given (e'.inputFields op given) := by
  have hnodup : ((b.entityPlan g order e' e'' i).attributes.map AttributePlan.name).Nodup :=
    h.planned_names_nodup hs order
  have hnames : (b.entityPlan g order e' e'' i).attributes.map AttributePlan.name = e'.attributes.map Attribute.name :=
    forall₂_map_eq (h.planned_computed order) fun _ _ hq => hq.1
  have hschema : ∀ a ∈ (b.entityPlan g order e' e'' i).attributes, e'.isSchema a.name = true ↔ a.compiled = none := by
    intro a ha
    have hfind : (b.entityPlan g order e' e'' i).attr? a.name = some a := find?_key_eq_some hnodup ha
    rw [← h.supplies_iff (g := g) order, EntityPlan.Supplies, hfind]
    simp
  have hreadonly : ∀ name, e'.exposure.isReadonly name = false ↔
      name ∉ (b.entityPlan g order e' e'' i).exposure.readonlyFields := by
    intro name
    simp [Exposure.isReadonly, Model.entityPlan]
  refine ⟨Entity.inputFields_isSome, fun fields hf => ?_, fun fields hf => ?_, fun fields hf a ha hmem => ?_,
    fun fields hf names hn name => ?_, fun hnone fields hf a ha hcompiled hwritable => ?_⟩
  · rw [hnames]
    exact Entity.inputFields_sublist hf
  · exact (hnames ▸ hnodup).sublist (Entity.inputFields_sublist hf)
  · obtain ⟨-, hs, hr⟩ := (Entity.mem_inputFields hf).mp hmem
    exact ⟨(hschema a ha).mp hs, (hreadonly _).mp hr⟩
  · -- What is given passes the rule, and that is all that the plan asks for.
    obtain rfl : given = some names := hn
    rw [Entity.mem_inputFields hf]
    constructor
    · rintro ⟨hall, -⟩
      exact hall names rfl
    · intro hname
      refine ⟨fun names' hn' => ?_, Entity.inputRule_eq_nil.mp hrule name hname⟩
      obtain rfl := Option.some.inj hn'
      exact hname
  · rw [Entity.mem_inputFields hf]
    refine ⟨fun names hn => ?_, (hschema a ha).mpr hcompiled, (hreadonly _).mpr hwritable⟩
    rw [hnone] at hn
    cases hn

end Stages

/-- The inputs of the operations of a plan. Records are created and changed only with the fields that are declared for
it, all of them and in their order, and only where they go to a source and do not come from parents. -/
theorem inputs_complete {options : Options} {d : Document} {plan : Plan} (h : Plan.compile options d = .ok plan)
    {p : EntityPlan} (hp : p ∈ plan.entities) :
    (∃ decl ∈ d.entities, p.Keeps decl) ∧
    p.IsInput .create p.exposure.createFields p.createInput ∧
    p.IsInput .update p.exposure.updateFields p.updateInput ∧
    ∀ op ∈ [Operation.create, .update, .delete], p.exposure.exposes op = true →
      p.source.isSome = true ∧ p.parents = [] := by
  obtain ⟨m, b, g, c, hs⟩ := Stages.of_compile h
  obtain ⟨i, e, e', e'', order, he, rfl⟩ := hs.mem_entities hp
  have hrules := Model.passes_of_validate hs.validate he.bound
  obtain ⟨decl, hdecl, hkeeps⟩ := he.keeps hs order
  refine ⟨⟨decl, List.mem_of_getElem? hdecl, hkeeps⟩, he.isInput hs order hrules.create,
    he.isInput hs order hrules.update, fun op hop hexposes => ?_⟩
  have hwrites : op.isMutation = true ∧ op.isDerivable = false := by
    simp only [List.mem_cons, List.not_mem_nil, or_false] at hop
    rcases hop with rfl | rfl | rfl <;> exact ⟨rfl, rfl⟩
  have hmem : op ∈ e'.exposure.operations := List.contains_iff_mem.mp hexposes
  refine ⟨Entity.mutationRule_eq_nil.mp hrules.mutation op hmem hwrites.1, ?_⟩
  exact List.map_eq_nil_iff.mpr (Entity.compositeRule_eq_nil.mp hrules.composite op hmem hwrites.2)

/-- Articles whose prices are changed; the fields of a change are given out of order and one of them twice. -/
def articles : Document :=
  { sources := [{ name := "shop" }]
    entities := [
      { name := "Article"
        source := some "shop"
        identityField := some "id"
        attributes := [
          { name := "id", type := "string" },
          { name := "title", type := "string" },
          { name := "price", type := "number" },
          { name := "label", expr := some (.call none "upper" () [.ident none "title" ()]) }]
        exposure := {
          operations := [.update, .list, .create]
          readonlyFields := ["id", "label"]
          updateFields := some ["price", "title", "price"] } }] }

theorem articles_inputs : ∃ plan p, Plan.compile {} articles = .ok plan ∧ p ∈ plan.entities ∧
    p.createInput = some ["title", "price"] ∧ p.updateInput = some ["title", "price"] ∧
    p.exposure.exposes .update = true ∧ p.source.isSome = true ∧ p.parents = [] ∧
    p.IsInput .create none (some ["title", "price"]) ∧
    p.IsInput .update (some ["price", "title", "price"]) (some ["title", "price"]) := by
  have hinputs : (Plan.compile {} articles).toOption.map (fun plan => plan.entities.map fun p =>
      [p.exposure.createFields, p.createInput, p.exposure.updateFields, p.updateInput]) =
      some [[none, some ["title", "price"], some ["price", "title", "price"], some ["title", "price"]]] := by
    decide +kernel
  obtain ⟨plan, hplan, hinputs⟩ := Option.map_eq_some_iff.mp hinputs
  have hplan := toOption_eq_some.mp hplan
  obtain ⟨p, hp, hinputs⟩ := List.map_eq_singleton_iff.mp hinputs
  have hmem : p ∈ plan.entities := hp ▸ List.mem_singleton_self p
  obtain ⟨-, hcreate, hupdate, hwrites⟩ := inputs_complete hplan hmem
  simp only [List.cons.injEq, and_true] at hinputs
  obtain ⟨hcreateFields, hcreateInput, hupdateFields, hupdateInput⟩ := hinputs
  rw [hcreateFields, hcreateInput] at hcreate
  rw [hupdateFields, hupdateInput] at hupdate
  have hexposes : p.exposure.exposes .update = true := hupdate.offered.mp rfl
  obtain ⟨hsource, hparents⟩ := hwrites .update (by decide) hexposes
  exact ⟨plan, p, hplan, hmem, hcreateInput, hupdateInput, hexposes, hsource, hparents, hcreate, hupdate⟩

end Tributary
