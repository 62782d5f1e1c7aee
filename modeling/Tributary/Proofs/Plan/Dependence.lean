import Tributary.Proofs.Plan.Record
import Tributary.Proofs.Scope.Recorded

/-!
# What an expression depends on

The references of an attribute are all that its expression depends on: where two frames agree on them, it has the same
outcome in both. Of a single parent that occurs only by its attributes, the recorded ones are enough.

* `EntityStages.parent_of_recorded` : a recorded parent is one of the entity;
* `Recorded.get_eq` : frames that agree on what is recorded have the same at every recorded read;
* `eval_depends_on_recorded` : the outcome depends on what is recorded.
-/

namespace Tributary

/-- Two values are objects that are the same in some fields. -/
structure Value.AgreeOn (v w : Value) (fields : String → Prop) : Prop where
  left : ∃ fs, v = .object fs
  right : ∃ gs, w = .object gs
  field : ∀ name, fields name → v.field name = w.field name

theorem Value.AgreeOn.readParent_eq {v w : Value} {fields : String → Prop} (h : v.AgreeOn w fields) {name : String}
    (hname : fields name) : readParent v name = readParent w name := by
  obtain ⟨⟨fs, rfl⟩, ⟨gs, rfl⟩, hfield⟩ := h
  exact congrArg Except.ok (hfield name hname)

/-- Frames that agree on what is recorded have the same at every read that is recorded. -/
theorem Recorded.get_eq {single : Nat → Bool} {nodes : List BoundExpr} {whole : List Nat} {r : Read} {f g : Frame}
    (h : Recorded single nodes whole r)
    (hsiblings : ∀ k ∈ nodes.filterMap BoundExpr.sibling?, slot f.attributes k = slot g.attributes k)
    (hparams : ∀ k ∈ nodes.filterMap BoundExpr.param?, slot f.params k = slot g.params k)
    (hparents : ∀ k ∈ nodes.filterMap BoundExpr.parent?, slot f.parents k = slot g.parents k ∨
      (single k = true ∧ k ∉ whole ∧ (slot f.parents k).AgreeOn (slot g.parents k) fun name =>
        (k, name) ∈ nodes.filterMap BoundExpr.parentAttr?)) : f.get r = g.get r := by
  cases r with
  | attr k => exact congrArg Except.ok (hsiblings k h)
  | param k => exact congrArg Except.ok (hparams k h)
  | parent k =>
    rcases hparents k h.1 with heq | ⟨hsingle, hnot, -⟩
    · exact congrArg Except.ok heq
    · exact absurd (h.2 hsingle) hnot
  | parentField k name =>
    rcases hparents k h.1 with heq | ⟨hsingle, -, hagree⟩
    · rw [Frame.get, Frame.get, heq]
    · exact hagree.readParent_eq (h.2 hsingle)

section Stages
variable {options : Options} {d : Document} {m : Model SourceExpr} {b : Model BoundExpr} {g : Graph}
  {c : Model Compiled} {p : Plan} {i j : Nat} {e : Entity SourceExpr} {e' : Entity BoundExpr} {e'' : Entity Compiled}
  {a : Attribute SourceExpr} {a' : Attribute BoundExpr} {a'' : Attribute Compiled}

/-- A parent that a bound expression refers to is one of the entity. -/
theorem EntityStages.parent_of_recorded (h : EntityStages options m b c i e e' e'') {x : SourceExpr} {y : BoundExpr}
    (hbind : (m.attrScope e i a j).bind [] x = .ok y) {k : Nat} (hk : k ∈ y.nodes.filterMap BoundExpr.parent?) :
    ∃ parent, e'.parents[k]? = some parent := by
  have hlt := bind_parent hbind hk
  rw [Model.attrScope, List.length_map, ← h.parents_eq] at hlt
  exact ⟨_, List.getElem?_eq_getElem hlt⟩

end Stages

/-- The outcome of an expression depends only on what is recorded of it: on the time, on the attributes, parents and
parameters that it refers to, and of a single parent that occurs only by its attributes on those that are recorded. -/
theorem eval_depends_on_recorded {options : Options} {d : Document} {m : Model SourceExpr} {b : Model BoundExpr}
    {plan : Plan} (hm : Model.build options d = .ok m) (hb : m.resolve = .ok b)
    (hplan : Plan.compile options d = .ok plan) {i j : Nat} {e : Entity BoundExpr} {a : Attribute BoundExpr}
    {x : BoundExpr} (he : b.entities[i]? = some e) (ha : e.attributes[j]? = some a) (hx : a.expr = some x) :
    ∃ p q r siblings, plan.entity? e.name = some p ∧ p.attributes[j]? = some q ∧ q.compiled = some r ∧
      ((plan.graph.attrEdges[i]?).bind fun edges => edges[j]?) = some siblings ∧
      ∀ f g : Frame, f.now = g.now →
        (∀ k ∈ siblings, slot f.attributes k = slot g.attributes k) →
        (∀ k ∈ a.references.params, slot f.params k = slot g.params k) →
        (∀ (k : Nat) parent, p.parents[k]? = some parent → parent.name ∈ q.requiredParents →
          slot f.parents k = slot g.parents k ∨
          (parent.multiplicity = .one ∧ k ∉ BoundExpr.wholeParents x ∧
            (slot f.parents k).AgreeOn (slot g.parents k) fun name => (k, name) ∈ a.references.parentAttrs)) →
        r.root.eval f [] = r.root.eval g [] := by
  obtain ⟨g, c, hs⟩ := Stages.of_resolve hm hb hplan
  obtain ⟨e₀, e'', hentity⟩ := hs.entity_of_bound he
  obtain ⟨a₀, a'', hattr⟩ := hentity.attr_of_bound ha
  obtain ⟨⟨x₀, hx₀, hbind⟩, -, hcompiled⟩ := hattr.bound_expr hx
  obtain ⟨order, hplanned⟩ := hs.entity?_name hentity
  rw [← hentity.name_eq] at hplanned
  refine ⟨_, _, _, a.references.siblings, hplanned, hattr.planned order, hcompiled, ?_, ?_⟩
  · rw [hs.plan_graph, hentity.attrEdges hs, Option.bind_some, List.getElem?_map, ha]
    rfl
  · intro f g' hnow hsiblings hparams hparents
    have hrefs : a.references = BoundExpr.references x := by rw [Attribute.references, hx]; rfl
    have hmem : ∀ {k : Nat} {ks : List Nat}, k ∈ Sorted.ofList compare ks ↔ k ∈ ks :=
      Sorted.mem_ofList fun _ _ => Nat.compare_eq_eq.mp
    have hpairs : ∀ {p : Nat × String} {ps : List (Nat × String)},
        p ∈ Sorted.ofList (Sorted.orderPair compare compare) ps ↔ p ∈ ps := Sorted.mem_ofList Sorted.eq_of_orderPair
    rw [hrefs] at hsiblings hparams hparents
    refine Node.eval_congr _ ⟨hnow, fun r hr => ?_⟩
    have hrecorded := TypeEnv.reads_recorded x [] (hentity.matched hbind) r hr
    refine hrecorded.get_eq (fun k hk => hsiblings k (hmem.mpr hk)) (fun k hk => hparams k (hmem.mpr hk)) fun k hk => ?_
    obtain ⟨parent, hparent⟩ := hentity.parent_of_recorded hbind hk
    have hslot : (e.parents.map e.parentSlot)[k]? = some (e.parentSlot parent) := by
      rw [List.getElem?_map, hparent]
      rfl
    have hrequired : parent.name ∈ (e.attributePlan a a'').requiredParents := by
      refine List.mem_filterMap.mpr ⟨k, hrefs ▸ hmem.mpr hk, ?_⟩
      rw [hparent]
      rfl
    rcases hparents k _ hslot hrequired with heq | ⟨hone, hnot, hagree⟩
    · exact .inl heq
    · have hsingle : (b.typeEnv options (b.visibleParams i) e a).isSingle k = true := by
        have hone : parent.multiplicity = .one := hone
        simp [TypeEnv.isSingle, Model.typeEnv, hparent, Model.parentTypesOf, hone]
      exact .inr ⟨hsingle, hnot, hagree.left, hagree.right, fun name hname => hagree.field name (hpairs.mpr hname)⟩

/-- Tickets, with a line made of an attribute, a parameter, and two attributes of a parent. -/
def tickets : Document :=
  { sources := [{ name := "desk", params := [{ name := "mark" }] }]
    entities := [
      { name := "User", source := some "desk", attributes := [{ name := "mail" }, { name := "home" }, { name := "age" }] },
      { name := "Ticket"
        parents := [{ entity := "User" }]
        attributes := [
          { name := "title" },
          { name := "note" },
          { name := "line"
            expr := some (.call none "concat" () [
              .call none "concat" () [.ident none "title" (), .ident none "mail" ()],
              .call none "concat" ()
                [.ident none "mark" (), .access none (.ident none "User" ()) "home" true none]]) }] }] }

def ticketFrame (age note : Value) : Frame :=
  { parents := [.object [("age", age), ("mail", .string "a@b")]]
    attributes := [.string "door", note]
    params := [.string "!"]
    now := 0 }

theorem eval_ticket_depends : ∃ m b plan e a x p q r, Model.build {} tickets = .ok m ∧ m.resolve = .ok b ∧
    Plan.compile {} tickets = .ok plan ∧ b.entities[1]? = some e ∧ e.attributes[2]? = some a ∧ a.expr = some x ∧
    plan.entity? e.name = some p ∧ p.attributes[2]? = some q ∧ q.compiled = some r ∧
    ∀ age note age' note', r.root.eval (ticketFrame age note) [] = r.root.eval (ticketFrame age' note') [] := by
  have hbound : ((Model.build {} tickets).toOption.bind fun m => m.resolve.toOption.bind fun b =>
      (b.entities[1]?).bind fun e => (e.attributes[2]?).bind fun a => a.expr.map fun x =>
        (e.name, a.references.params, a.references.parentAttrs, BoundExpr.wholeParents x)) =
      some ("Ticket", [0], [(0, "home"), (0, "mail")], []) := by decide +kernel
  have hplanned : ((Plan.compile {} tickets).toOption.bind fun plan => (plan.entity? "Ticket").bind fun p =>
      (plan.graph.attrEdges[1]?).bind fun edges => (edges[2]?).map fun siblings =>
        (p.parents.map ParentSlot.multiplicity, siblings)) = some ([.one], [0]) := by decide +kernel
  obtain ⟨m, hm, h⟩ := Option.bind_eq_some_iff.mp hbound
  obtain ⟨b, hb, h⟩ := Option.bind_eq_some_iff.mp h
  obtain ⟨e, he, h⟩ := Option.bind_eq_some_iff.mp h
  obtain ⟨a, ha, h⟩ := Option.bind_eq_some_iff.mp h
  obtain ⟨x, hx, hrefs⟩ := Option.map_eq_some_iff.mp h
  simp only [Prod.mk.injEq] at hrefs
  obtain ⟨hname, hparams, hattrs, hwhole⟩ := hrefs
  obtain ⟨plan, hplan, h⟩ := Option.bind_eq_some_iff.mp hplanned
  obtain ⟨p, hp, h⟩ := Option.bind_eq_some_iff.mp h
  obtain ⟨edges, hedges, h⟩ := Option.bind_eq_some_iff.mp h
  obtain ⟨siblings, hown, h⟩ := Option.map_eq_some_iff.mp h
  simp only [Prod.mk.injEq] at h
  obtain ⟨hsingle, rfl⟩ := h
  have hm := toOption_eq_some.mp hm
  have hb := toOption_eq_some.mp hb
  have hplan := toOption_eq_some.mp hplan
  obtain ⟨p', q, r, siblings', hp', hq, hr, hsiblings, hdepends⟩ := eval_depends_on_recorded hm hb hplan he ha hx
  rw [hedges, Option.bind_some, hown] at hsiblings
  obtain rfl := Option.some.inj hsiblings
  obtain rfl : p = p' := Option.some.inj (hp.symm.trans (hname ▸ hp'))
  refine ⟨m, b, plan, e, a, x, p, q, r, hm, hb, hplan, he, ha, hx, hp', hq, hr, fun age note age' note' => ?_⟩
  refine hdepends _ _ rfl (by simp [ticketFrame, slot]) (by simp [ticketFrame, slot]) fun k parent hk _ => ?_
  cases k with
  | succ k => exact .inl rfl
  | zero =>
    have hone : (p.parents.map ParentSlot.multiplicity)[0]? = some parent.multiplicity := by
      rw [List.getElem?_map, hk]
      rfl
    rw [hsingle] at hone
    refine .inr ⟨(Option.some.inj hone).symm, by simp [hwhole], ⟨_, rfl⟩, ⟨_, rfl⟩, fun name hread => ?_⟩
    simp only [hattrs, List.mem_cons, Prod.mk.injEq, true_and, List.not_mem_nil, or_false] at hread
    rcases hread with rfl | rfl <;> simp [ticketFrame, slot, Value.field, Value.field?, Fields.get?]

end Tributary
