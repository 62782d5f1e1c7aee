import Tributary.Proofs.Graph.Cycle
import Tributary.Proofs.Graph.Parents
import Tributary.Proofs.Plan.Record
import Tributary.Proofs.Schedule.Order

/-!
# The order of a plan

A document that passes the rules has no cycles of parents, so its entities can be put in order, and planning succeeds.

* `Cycle.acyclic_of_all_eq_nil`, `Cycle.all_eq_nil_of_acyclic` : a cycle is found exactly where there is one;
* `Model.acyclic_of_validate` : what passes the rules has no cycle;
* `Drawn.exists_stages` : what passes the rules and compiles has a plan;
* `Stages.planned` : the entities of a plan, one by one;
* `plan_ordered` : the order of a plan.
-/

namespace Tributary

open Relation Schedule

/-! ## No cycles -/

/-- Where no cycle is found there is none. -/
theorem Cycle.acyclic_of_all_eq_nil {needs : Needs} (h : Cycle.all needs = []) (k : Nat) :
    ¬ TransGen (Leads needs) k k := by
  intro hk
  obtain ⟨a, hka, hak⟩ := TransGen.tail'_iff.mp hk
  have hstuck : k ∈ stuck needs := mem_stuck.mpr ⟨hak.lt_right, not_mem_scheduled_of_cycle hk⟩
  obtain ⟨c, hfound, hmem⟩ := (components_spec needs).2.1 k hstuck
  have hc := (mem_components.mp hfound).1
  obtain ⟨n, hn⟩ := reflTransGen_iff_steps.mp hka
  have hinside := steps_inside (fun d => (hc.mem_iff k hmem d).mpr) (hn.succ hak) .refl
  have hcyclic := isCyclic_of_steps hc hmem (Nat.succ_pos n) hinside
  have hreported := mem_reported_fst.mpr ⟨hc, hcyclic⟩
  rw [all_eq_map_reported, List.map_eq_nil_iff] at h
  rw [h] at hreported
  cases hreported

/-- Where there is no cycle none is found. -/
theorem Cycle.all_eq_nil_of_acyclic {needs : Needs} (h : ∀ k, ¬ TransGen (Leads needs) k k) :
    Cycle.all needs = [] := by
  rw [all_eq_map_reported, List.map_eq_nil_iff, List.eq_nil_iff_forall_not_mem]
  intro q hq
  obtain ⟨hc, hcyclic⟩ := mem_reported_fst.mp (List.mem_map_of_mem hq)
  obtain ⟨a, ha⟩ := List.exists_mem_of_ne_nil q.1 hc.ne_nil
  obtain ⟨k, hk, hback⟩ := hcyclic.exists_steps hc ha
  cases hback with
  | zero => omega
  | succ hb hba => exact h a (.tail' (reflTransGen_iff_steps.mpr ⟨_, hb⟩) hba)

section Drawn
variable {options : Options} {d : Document} {m : Model SourceExpr} {b : Model BoundExpr} {g : Graph}

theorem Model.acyclic_of_validate (hv : b.validate g options = .ok ()) (k : Nat) :
    ¬ TransGen (Leads g.adjacency) k k := by
  have hnone := (Checked.report_eq_ok.mp hv).1
  have hcycles : b.cycleRule g.adjacency = [] := (List.append_eq_nil_iff.mp (List.append_eq_nil_iff.mp hnone).1).2
  exact Cycle.acyclic_of_all_eq_nil (List.map_eq_nil_iff.mp hcycles) k

theorem Drawn.isOrder_iff (h : Drawn options d m b g) {order : List Nat} :
    IsOrder g.adjacency.length (Leads g.adjacency) order ↔ IsOrder d.entities.length d.Declares order := by
  rw [h.adjacency_length, show Leads g.adjacency = d.Declares from funext₂ fun i j => propext h.leads_iff]

/-- What passes the rules and compiles has a plan. -/
theorem Drawn.exists_stages (h : Drawn options d m b g) (hv : b.validate g options = .ok ()) {c : Model Compiled}
    (hc : b.compile options = .ok c) : ∃ p, Stages options d m b g c p := by
  have hsolve := solve_of_acyclic (Model.acyclic_of_validate hv)
  have hplan : ∃ p, b.plan g c = .ok p := by
    rw [Model.plan, hsolve]
    exact ⟨_, rfl⟩
  obtain ⟨p, hp⟩ := hplan
  exact ⟨p, h.build, h.resolve, h.graph, hv, hc, hp⟩

end Drawn

/-! ## The entities of a plan -/

section Stages
variable {options : Options} {d : Document} {m : Model SourceExpr} {b : Model BoundExpr} {g : Graph}
  {c : Model Compiled} {p : Plan}

theorem forall₂_filterMap {α β : Type} {r : α → β → Prop} {f : α → Option β} {l : List α}
    (h : ∀ a ∈ l, ∃ b, f a = some b ∧ r a b) : List.Forall₂ r l (l.filterMap f) := by
  induction l with
  | nil => exact .nil
  | cons a l ih =>
    obtain ⟨b, hb, hr⟩ := h a List.mem_cons_self
    rw [List.filterMap_cons_some hb]
    exact .cons hr (ih fun x hx => h x (List.mem_cons_of_mem a hx))

/-- The entities of a plan are those of the model, in the order of the schedule. -/
theorem Stages.planned (hs : Stages options d m b g c p) :
    List.Forall₂ (fun i q => ∃ e e' e'', EntityStages options m b c i e e' e'' ∧
      q = b.entityPlan g (scheduled g.adjacency) e' e'' i) (scheduled g.adjacency) p.entities := by
  obtain ⟨order, ho, -, hp⟩ := hs.plan_entities
  obtain ⟨rfl, hperm⟩ := solve_eq_order ho
  rw [hp]
  refine forall₂_filterMap fun i hi => ?_
  have hlt : i < m.entities.length := hs.length_adjacency ▸ List.mem_range.mp (hperm.mem_iff.mp hi)
  obtain ⟨e', e'', he⟩ := hs.entity (List.getElem?_eq_getElem hlt)
  exact ⟨b.entityPlan g (scheduled g.adjacency) e' e'' i, by rw [he.bound, he.compiled]; rfl, _, e', e'', he, rfl⟩

theorem Stages.order_eq (hs : Stages options d m b g c p) : p.order = (scheduled g.adjacency).map b.nameOf := by
  refine forall₂_map_eq hs.planned ?_
  rintro i q ⟨e, e', e'', he, rfl⟩
  rw [Model.nameOf, he.bound]
  rfl

/-- A plan has the declared names, in the order of the schedule. -/
theorem Stages.order_names (hs : Stages options d m b g c p) :
    p.order.map some = (scheduled g.adjacency).map fun i => (d.entities[i]?).map EntityDecl.name := by
  have hlt : ∀ i ∈ scheduled g.adjacency, i < d.entities.length := fun i hi =>
    hs.drawn.adjacency_length ▸ (scheduled_isPartial g.adjacency).lt i hi
  rw [hs.order_eq, List.map_map]
  refine List.map_congr_left fun i hi => ?_
  have hi := List.getElem?_eq_getElem (hlt i hi)
  rw [Function.comp_apply, hs.drawn.nameOf_eq hi, hi]
  rfl

theorem Stages.order_perm (hs : Stages options d m b g c p) : p.order.Perm (d.entities.map EntityDecl.name) := by
  have hall : (scheduled g.adjacency).Perm (List.range d.entities.length) := by
    rw [← hs.drawn.adjacency_length]
    exact scheduled_perm_of_acyclic (Model.acyclic_of_validate hs.validate)
  rw [hs.order_eq, ← hs.drawn.map_nameOf]
  exact hall.map b.nameOf

theorem Stages.exists_entity (hs : Stages options d m b g c p) {i : Nat} {decl : EntityDecl}
    (hi : d.entities[i]? = some decl) : ∃ e e' e'', EntityStages options m b c i e e' e'' ∧ e.name = decl.name ∧
      e.attributes.length = decl.attributes.length := by
  obtain ⟨e, he, hcheck⟩ := Model.build_entity hs.build hi
  obtain ⟨e', e'', hstages⟩ := hs.entity he
  obtain ⟨hname, -, -, hattrs⟩ := EntityDecl.check_eq_ok hcheck
  exact ⟨e, e', e'', hstages, hname, (EntityDecl.checkAttributes_eq_ok hattrs).2.length_eq.symm⟩

end Stages

/-- The order of a plan. What passes the rules and compiles has a plan. It lists each declared entity once, each after
its parents, and is the first such order by the places of the declarations. The attributes of an entity are evaluated
in the order in which they are declared, and no expression reads an attribute at its own place or at a later one. -/
theorem plan_ordered {options : Options} {d : Document} {m : Model SourceExpr} {b : Model BoundExpr} {g : Graph}
    {c : Model Compiled} (hm : Model.build options d = .ok m) (hb : m.resolve = .ok b) (hg : b.graph = .ok g)
    (hv : b.validate g options = .ok ()) (hc : b.compile options = .ok c) :
    g.adjacency.length = d.entities.length ∧
    (∀ i < d.entities.length, ∃ parents, g.adjacency[i]? = some parents ∧ parents.Pairwise (· < ·) ∧
      ∀ j, j ∈ parents ↔ d.Declares i j) ∧
    ∃ plan, b.plan g c = .ok plan ∧ Plan.compile options d = .ok plan ∧
      plan.order.Nodup ∧ plan.order.Perm (d.entities.map EntityDecl.name) ∧
      (∃ order, plan.order.map some = (order.map fun i => (d.entities[i]?).map EntityDecl.name) ∧
        IsOrder d.entities.length d.Declares order ∧
        ∀ other, IsOrder d.entities.length d.Declares other → order = other ∨ List.Lex (· < ·) order other) ∧
      ∀ (i : Nat) decl, d.entities[i]? = some decl → ∃ p siblings,
        plan.entity? decl.name = some p ∧ p.attributes.length = decl.attributes.length ∧
        plan.graph.attrEdges[i]? = some siblings ∧ solve siblings = .order (List.range decl.attributes.length) ∧
        p.attrOrder = List.range decl.attributes.length ∧
        ∀ (j : Nat) a, p.attributes[j]? = some a →
          (∃ own, siblings[j]? = some own ∧ ∀ k ∈ own, k < j) ∧
          ∀ r, a.compiled = some r → ∀ k, Read.attr k ∈ r.root.reads → k < j := by
  have hdrawn : Drawn options d m b g := ⟨hm, hb, hg⟩
  obtain ⟨plan, hs⟩ := hdrawn.exists_stages hv hc
  have hacyclic := Model.acyclic_of_validate hv
  refine ⟨hdrawn.adjacency_length, fun i hi => ?_, plan, hs.plan, hs.compile_eq, ?_, hs.order_perm,
    ⟨scheduled g.adjacency, hs.order_names, ?_, fun other hother => ?_⟩, fun i decl hi => ?_⟩
  · exact ⟨g.dependencies i, hdrawn.adjacency_getElem? hi, g.dependencies_sorted i, fun j => hdrawn.mem_dependencies⟩
  · exact hs.order_perm.nodup_iff.mpr (Model.build_decls_nodup hm)
  · exact hdrawn.isOrder_iff.mp (scheduled_isOrder hacyclic)
  · exact scheduled_least (hdrawn.isOrder_iff.mpr hother)
  · obtain ⟨e, e', e'', he, hname, hlen⟩ := hs.exists_entity hi
    obtain ⟨order, hentity⟩ := hs.entity?_name he
    refine ⟨b.entityPlan g order e' e'' i, _, hname ▸ hentity, (he.length_planned order).trans hlen,
      hs.plan_graph ▸ he.attrEdges hs, hlen ▸ he.solve_attrEdges, hlen ▸ he.attrOrder_eq hs order,
      fun j q hq => ⟨?_, fun r hr k hk => he.backward order j q r hq hr k hk⟩⟩
    obtain ⟨a, a', a'', ha, -⟩ := he.planned_attr hq
    refine ⟨a'.references.siblings, by rw [List.getElem?_map, ha.bound]; rfl, fun k hk => ha.siblings_lt hk⟩

/-- Returns of orders, declared before what they come from. -/
def returns : Document :=
  { sources := [{ name := "shop" }]
    entities := [
      { name := "Return"
        parents := [{ entity := "Order" }, { entity := "Customer" }]
        attributes := [
          { name := "reason" },
          { name := "tag", expr := some (.call none "concat" () [.ident none "reason" (), .ident none "mail" ()]) },
          { name := "line", expr := some (.call none "concat" () [.ident none "tag" (), .ident none "reason" ()]) }] },
      { name := "Order", parents := [{ entity := "Customer" }], attributes := [{ name := "total" }] },
      { name := "Customer", source := some "shop", attributes := [{ name := "mail", type := "string" }] },
      { name := "Store", source := some "shop", attributes := [{ name := "city" }] }] }

theorem returns_ordered : ∃ m b g c plan, Model.build {} returns = .ok m ∧ m.resolve = .ok b ∧ b.graph = .ok g ∧
    b.validate g {} = .ok () ∧ b.compile {} = .ok c ∧ b.plan g c = .ok plan ∧
    plan.order = ["Customer", "Order", "Return", "Store"] ∧
    ∃ order, plan.order.map some = (order.map fun i => (returns.entities[i]?).map EntityDecl.name) ∧
      IsOrder 4 returns.Declares order ∧
      ∀ other, IsOrder 4 returns.Declares other → order = other ∨ List.Lex (· < ·) order other := by
  have horder : (Plan.compile {} returns).toOption.map Plan.order = some ["Customer", "Order", "Return", "Store"] := by
    decide +kernel
  obtain ⟨plan, hplan, horder⟩ := Option.map_eq_some_iff.mp horder
  have hplan := toOption_eq_some.mp hplan
  obtain ⟨m, b, g, c, hs⟩ := Stages.of_compile hplan
  obtain ⟨-, -, plan', hplan', -, -, -, hleast, -⟩ :=
    plan_ordered hs.build hs.resolve hs.graph hs.validate hs.compile
  obtain rfl : plan = plan' := Except.ok.inj (hs.plan.symm.trans hplan')
  exact ⟨m, b, g, c, plan, hs.build, hs.resolve, hs.graph, hs.validate, hs.compile, hs.plan, horder, hleast⟩

end Tributary
