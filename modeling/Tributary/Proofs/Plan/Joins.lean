import Tributary.Proofs.Plan.Closure
import Tributary.Proofs.Plan.Declared
import Tributary.Proofs.Rules
import Tributary.Proofs.Value.Fields

/-!
# Records that are collected by key

Of a parent of which there are many, a join picks the records whose key is that of the record itself. What the graph
checks about keys, what the rules ask of the parent, and the key that planning fills in again are three separate pieces
of code; together they give that no plan has a join without a key, or with a key that nothing supplies.

* `Graph.IsAt g k name` : node `k` has this name; `Graph.JoinedBy g i j pk lk` : one edge by these keys, and no plain one;
* `EntityPlan.IsCollected q key` : what a parent is whose records are collected by `key`;
* `Entity.mem_edges` : why an entity reads from another;
* `Drawn.joinedBy`, `Stages.isCollected` : both for a join of a model that passes the rules;
* `joins_keyed` : both for every join of a plan.
-/

namespace Tributary

open Relation

namespace Graph

def IsAt (g : Graph) (k : Nat) (name : String) : Prop := (g.nodes[k]?).map GraphNode.name = some name

/-- Of the edges from node `i` to node `j` exactly one is by keys, by these, and none is there for the declaration of a
parent alone. -/
structure JoinedBy (g : Graph) (i j : Nat) (parentKey localKey : String) : Prop where
  once : g.edges.count { source := i, target := j, cause := .aggregate parentKey localKey } = 1
  only : ∀ x ∈ g.edges, x.source = i → x.target = j → ∀ pk lk, x.cause = .aggregate pk lk →
    pk = parentKey ∧ lk = localKey
  not_plain : { source := i, target := j, cause := .parent } ∉ g.edges

end Graph

structure EntityPlan.IsCollected (q : EntityPlan) (key : String) : Prop where
  base : q.role = .base
  no_parents : q.parents = []
  identity : q.identityField.isSome = true
  listed : q.exposure.exposes .list = true
  filtered : key ∈ q.exposure.filters
  supplied : q.Supplies key

/-! ## Edges -/

namespace Entity

/-- An edge from an entity is there for a parent, or for an attribute that reads one. -/
theorem mem_edges {e : Entity BoundExpr} {i : Nat} {x : Edge} (hx : x ∈ e.edges i) :
    x.source = i ∧ ((∃ p ∈ e.parents, x.target = p.entity ∧ x.cause = e.parentCause p) ∨
      ∃ attr field, x.cause = .reference attr field) := by
  rcases List.mem_append.mp hx with hx | hx
  · obtain ⟨p, hp, rfl⟩ := List.mem_map.mp hx
    exact ⟨rfl, .inl ⟨p, hp, rfl, rfl⟩⟩
  · obtain ⟨r, hr, hx⟩ := List.mem_filterMap.mp hx
    obtain ⟨p, -, rfl⟩ := Option.map_eq_some_iff.mp hx
    refine ⟨rfl, .inr ?_⟩
    obtain ⟨a, -, hr⟩ := List.mem_flatMap.mp hr
    rcases List.mem_append.mp hr with hr | hr
    · obtain ⟨q, -, rfl⟩ := List.mem_map.mp hr
      exact ⟨_, _, rfl⟩
    · obtain ⟨slot, -, rfl⟩ := List.mem_map.mp hr
      exact ⟨_, _, rfl⟩

theorem mem_edges_parent {e : Entity BoundExpr} {p : Parent} (hp : p ∈ e.parents) (i : Nat) :
    { source := i, target := p.entity, cause := e.parentCause p } ∈ e.edges i :=
  List.mem_append_left _ (List.mem_map_of_mem hp)

theorem parentCause_of_collects {ε : Type} {e : Entity ε} {p : Parent} {join : Join} {key : String}
    (hc : p.collects? = some join) (hk : e.localKey? join = some key) :
    e.parentCause p = .aggregate join.parentKey key := by
  rw [parentCause, hc]
  dsimp only
  rw [hk]

end Entity

section Drawn
variable {options : Options} {d : Document} {m : Model SourceExpr} {b : Model BoundExpr} {g : Graph} {i : Nat}
  {e : Entity BoundExpr} {p : Parent} {join : Join} {key : String}

theorem Drawn.isAt_iff (h : Drawn options d m b g) (he : b.entities[i]? = some e) {k : Nat} :
    g.IsAt k e.name ↔ k = i := by
  have hnode : ∀ k : Nat, (g.nodes[k]?).map GraphNode.name = (b.entities[k]?).map Entity.name := by
    intro k
    rw [Model.graph_eq_ok h.graph, Model.toGraph, List.getElem?_map, Option.map_map]
    rfl
  rw [Graph.IsAt, hnode]
  constructor
  · intro hk
    obtain ⟨e', he', hname⟩ := Option.map_eq_some_iff.mp hk
    exact place_eq_of_key_eq h.names_nodup he' he hname
  · rintro rfl
    rw [he]
    rfl

/-- A parent whose records are collected has an edge by the keys, and no other but for attributes that read it. -/
theorem Drawn.joinedBy (h : Drawn options d m b g) (he : b.entities[i]? = some e) (hp : p ∈ e.parents)
    (hc : p.collects? = some join) (hk : e.localKey? join = some key) :
    g.JoinedBy i p.entity join.parentKey key := by
  have hcause := Entity.parentCause_of_collects hc hk
  have hedges : g.edges = b.toGraph.edges := by rw [Model.graph_eq_ok h.graph]
  -- The entity has each parent once, so any edge to it that is there for a parent is there for this one.
  have hall : ∀ x ∈ g.edges, x.source = i → x.target = p.entity →
      x.cause = .aggregate join.parentKey key ∨ ∃ attr field, x.cause = .reference attr field := by
    intro x hx hsource htarget
    rw [hedges] at hx
    obtain ⟨k, e', he', hx⟩ := (Model.mem_edges b).mp hx
    obtain ⟨hk', hwhy⟩ := Entity.mem_edges hx
    obtain rfl : k = i := hk'.symm.trans hsource
    obtain rfl := Option.some.inj (he'.symm.trans he)
    refine hwhy.imp_left fun ⟨q, hq, hqtarget, hqcause⟩ => ?_
    have hpq : q = p := List.inj_on_of_nodup_map (h.parents_nodup he) hq hp (hqtarget.symm.trans htarget)
    rw [hqcause, hpq, hcause]
  refine ⟨?_, fun x hx hsource htarget pk lk hx' => ?_, fun hx => ?_⟩
  · have hmem : { source := i, target := p.entity, cause := .aggregate join.parentKey key } ∈ b.toGraph.edges := by
      rw [← hcause]
      exact (Model.mem_edges b).mpr ⟨i, e, he, Entity.mem_edges_parent hp i⟩
    rw [hedges]
    exact List.count_eq_one_of_mem (nodup_eraseDups _) hmem
  · rcases hall x hx hsource htarget with hjoin | ⟨attr, field, href⟩
    · rw [hx'] at hjoin
      cases hjoin
      exact ⟨rfl, rfl⟩
    · rw [hx'] at href
      cases href
  · rcases hall _ hx rfl rfl with hjoin | ⟨attr, field, href⟩
    · cases hjoin
    · cases href

end Drawn

/-! ## Parents -/

section Stages
variable {options : Options} {d : Document} {m : Model SourceExpr} {b : Model BoundExpr} {g : Graph}
  {c : Model Compiled} {plan : Plan} {i : Nat} {e : Entity BoundExpr} {p : Parent} {join : Join}

/-- What the rules leave of a parent whose records are collected. -/
theorem Stages.isCollected (hs : Stages options d m b g c plan) (he : b.entities[i]? = some e) (hp : p ∈ e.parents)
    (hc : p.collects? = some join) : ∃ q, plan.entity? p.name = some q ∧ q.IsCollected join.parentKey ∧
      (options.allowOrphans = false → q.source.isSome = true) := by
  obtain ⟨parent, hparent, hname⟩ := hs.drawn.parent_entity he hp
  have hrules := Model.passes_of_validate hs.validate he
  have hrules' := Model.passes_of_validate hs.validate hparent
  obtain ⟨hlisted, hfiltered⟩ := Model.joinRule_eq_nil.mp hrules.join p hp join parent hc hparent
  obtain ⟨hparents, hschema⟩ := Entity.filterRule_eq_nil.mp hrules'.filters _ hfiltered
  obtain ⟨e₀, e'', hstages⟩ := hs.entity_of_bound hparent
  obtain ⟨order, hentity⟩ := hs.entity?_name hstages
  refine ⟨_, (hstages.name_eq.symm.trans hname) ▸ hentity, ⟨?_, ?_, ?_, hlisted, hfiltered, ?_⟩, fun hallow => ?_⟩
  · show parent.role = .base
    simp [Entity.role, Entity.hasParents, hparents]
  · exact List.map_eq_nil_iff.mpr hparents
  · exact Model.identityField_of_singletonRule hrules'.singleton hlisted
  · exact (hstages.supplies_iff order).mpr hschema
  · -- Nothing can be reached from an entity without parents but itself.
    obtain ⟨decl, hdecl, hcheck⟩ := hs.drawn.declared hparent
    have hnone : decl.parents = [] := by
      rw [hparents] at hcheck
      exact List.length_eq_zero_iff.mp (EntityDecl.checkParents_eq_ok hcheck).length_eq
    obtain ⟨k, hway, hsourced⟩ := hs.reachesSource hallow hdecl
    rcases ReflTransGen.cases_head hway with rfl | ⟨j, ⟨decl', f, hdecl', -, q, hq, -⟩, -⟩
    · have hsource := hs.drawn.hasSource_iff.mpr hsourced
      rwa [Model.hasSource, hparent, Option.any_some] at hsource
    · obtain rfl := Option.some.inj (hdecl.symm.trans hdecl')
      rw [hnone] at hq
      cases hq

end Stages

/-- The joins of a plan. Where records of a parent are collected, the plan has a key to collect them by, so that no
record is let through that does not match. Records supply the key, and it is that of the only edge by keys to the
parent. The parent stands by itself, lists its records and filters them by its own key. -/
theorem joins_keyed {options : Options} {d : Document} {plan : Plan} (h : Plan.compile options d = .ok plan)
    {p : EntityPlan} (hp : p ∈ plan.entities) {slot : ParentSlot} (hslot : slot ∈ p.parents)
    (hmany : slot.multiplicity = .many) {join : Join} (hjoin : slot.join = some join) :
    ∃ key, join.localKey = some key ∧
      (∀ record items, slot.select record (.array items) = .array (matching join key record items)) ∧
      p.Supplies key ∧
      (∃ i j, (∀ k, plan.graph.IsAt k p.name ↔ k = i) ∧ (∀ k, plan.graph.IsAt k slot.name ↔ k = j) ∧
        plan.graph.JoinedBy i j join.parentKey key) ∧
      ∃ q, plan.entity? slot.name = some q ∧ q.IsCollected join.parentKey ∧
        (options.allowOrphans = false → q.source.isSome = true) := by
  obtain ⟨m, b, g, c, hs⟩ := Stages.of_compile h
  obtain ⟨i, e₀, e, e'', order, he, rfl⟩ := hs.mem_entities hp
  obtain ⟨parent, hparent, rfl⟩ := List.mem_map.mp hslot
  obtain ⟨declared, hdeclared, rfl⟩ := Option.map_eq_some_iff.mp hjoin
  have hc : parent.collects? = some declared := by
    rw [Parent.collects?, Parent.isMany, show parent.multiplicity = .many from hmany, hdeclared]
    rfl
  obtain ⟨entity, hentity, hname⟩ := hs.drawn.parent_entity he.bound hparent
  obtain ⟨-, key, hkey, hschema⟩ := (Model.joinProblems_eq_nil hc hentity).mp
    (Model.joinProblems_of_graph hs.graph (List.mem_of_getElem? he.bound) hparent)
  have hjoined := hs.drawn.joinedBy he.bound hparent hc hkey
  have hcollected := hs.isCollected he.bound hparent hc
  refine ⟨key, hkey, fun record items => ?_, (he.supplies_iff order).mpr hschema, ⟨i, parent.entity, ?_⟩, hcollected⟩
  · unfold ParentSlot.select
    rw [hmany, hjoin]
    dsimp only
    rw [hkey]
  · rw [hs.plan_graph]
    refine ⟨fun k => hs.drawn.isAt_iff he.bound, fun k => ?_, hjoined⟩
    rw [show (e.parentSlot parent).name = entity.name from hname.symm]
    exact hs.drawn.isAt_iff hentity

/-- Customers with their orders, matched by the identity field of the customer. -/
def purchases : Document :=
  { sources := [{ name := "shop" }]
    entities := [
      { name := "Customer"
        source := some "shop"
        identityField := some "id"
        parents := [{ entity := "Order", multiplicity := .many, join := some { parentKey := "customer" } }]
        attributes := [
          { name := "id", type := "string" },
          { name := "orders", expr := some (.call none "len" () [.ident none "Order" ()]) }] },
      { name := "Order"
        source := some "shop"
        identityField := some "id"
        attributes := [{ name := "id", type := "string" }, { name := "customer", type := "string" }]
        exposure := { operations := [.list], filters := ["customer"] } }] }

def orderSlot : ParentSlot :=
  { name := "Order", multiplicity := .many, join := some { parentKey := "customer", localKey := some "id" } }

/-- The first customer sees the first of two orders, and the edge by keys is that from the first entity to the second. -/
theorem purchases_keyed : ∃ plan p q, Plan.compile {} purchases = .ok plan ∧ plan.entity? "Customer" = some p ∧
    p.parents = [orderSlot] ∧
    orderSlot.select (.object [("id", .string "c1")])
        (.array [.object [("customer", .string "c1")], .object [("customer", .string "c2")]]) =
      .array [.object [("customer", .string "c1")]] ∧
    p.Supplies "id" ∧ (∀ k, plan.graph.IsAt k "Customer" ↔ k = 0) ∧ (∀ k, plan.graph.IsAt k "Order" ↔ k = 1) ∧
    plan.graph.JoinedBy 0 1 "customer" "id" ∧
    plan.entity? "Order" = some q ∧ q.IsCollected "customer" ∧ q.source.isSome = true := by
  have hshape : ((Plan.compile {} purchases).toOption.bind fun plan => (plan.entity? "Customer").map fun p =>
      (p.parents, p.name, plan.graph.nodes.map GraphNode.name)) =
      some ([orderSlot], "Customer", ["Customer", "Order"]) := by decide +kernel
  obtain ⟨plan, hplan, h⟩ := Option.bind_eq_some_iff.mp hshape
  obtain ⟨p, hp, h⟩ := Option.map_eq_some_iff.mp h
  obtain ⟨hparents, h⟩ := Prod.mk.inj h
  obtain ⟨hname, hnodes⟩ := Prod.mk.inj h
  have hplan := toOption_eq_some.mp hplan
  have hslot : orderSlot ∈ p.parents := hparents ▸ List.mem_singleton_self orderSlot
  obtain ⟨key, hkey, hselect, hsupplies, ⟨i, j, hi, hj, hjoined⟩, q, hq, hcollected, hsource⟩ :=
    joins_keyed hplan (List.mem_of_find?_eq_some hp) hslot rfl rfl
  obtain rfl := Option.some.inj hkey
  have hat : ∀ k : Nat, (plan.graph.nodes[k]?).map GraphNode.name = ["Customer", "Order"][k]? := by
    intro k
    rw [← hnodes, List.getElem?_map]
  rw [hname] at hi
  obtain rfl : 0 = i := (hi 0).mp (hat 0)
  obtain rfl : 1 = j := (hj 1).mp (hat 1)
  exact ⟨plan, p, q, hplan, hp, hparents, (hselect _ _).trans (by decide +kernel), hsupplies, hi, hj, hjoined, hq,
    hcollected, hsource rfl⟩

end Tributary
