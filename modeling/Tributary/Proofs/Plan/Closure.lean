import Tributary.Proofs.Graph.Orphans
import Tributary.Proofs.Plan.Demand
import Tributary.Proofs.Plan.Order

/-!
# What a plan says about its entities

Where the data of an entity comes from, what has to be evaluated before it, and whether anything reads from it. All of
these are closures of one relation: an entity declares another as a parent.

* `Model.origins` : the sources that can be reached from an entity, `Drawn.mem_origins` : which these are;
* `Drawn.provenance_eq` : one pass in an order finds them for all entities;
* `Drawn.mem_terminals` : the entities that no other declares as a parent;
* `Stages.requires` : the parents of an entity;
* `Stages.transGen_requires` : ways of requirements are ways along declared parents;
* `Stages.prerequisites` : all that can be reached from an entity;
* `plan_closures` : all of these, and the orphans of a document.
-/

namespace Tributary

open Relation Schedule

def Document.HasName (d : Document) (k : Nat) (name : String) : Prop := ∃ e, d.entities[k]? = some e ∧ e.name = name

theorem reflTransGen_lt_length {d : Document} {i k : Nat} (hi : i < d.entities.length)
    (h : ReflTransGen d.Declares i k) : k < d.entities.length := by
  rcases ReflTransGen.cases_tail h with rfl | ⟨_, -, hk⟩
  · exact hi
  · exact hk.lt_right

/-! ## Sources and ends -/

/-- The entities with a source that can be reached from an entity, by name. -/
def Model.origins {ε : Type} (m : Model ε) (g : Graph) (i : Nat) : List String :=
  Sorted.ofList compare (((reach g.dependencies g.nodes.length i).filter m.hasSource).map m.nameOf)

namespace Drawn

variable {options : Options} {d : Document} {m : Model SourceExpr} {b : Model BoundExpr} {g : Graph} {i j k : Nat}
  {name : String} {decl : EntityDecl}

theorem hasName_iff (h : Drawn options d m b g) (hk : k < d.entities.length) : d.HasName k name ↔ b.nameOf k = name := by
  have hdecl := List.getElem?_eq_getElem hk
  rw [Document.HasName, h.nameOf_eq hdecl, hdecl]
  constructor
  · rintro ⟨e, he, hname⟩
    obtain rfl := Option.some.inj he
    exact hname
  · intro hname
    exact ⟨_, rfl, hname⟩

theorem nameOf_inj (h : Drawn options d m b g) (hi : i < d.entities.length) (hj : j < d.entities.length)
    (heq : b.nameOf i = b.nameOf j) : i = j := by
  have hi := List.getElem?_eq_getElem hi
  have hj := List.getElem?_eq_getElem hj
  rw [h.nameOf_eq hi, h.nameOf_eq hj] at heq
  exact place_eq_of_key_eq (Model.build_decls_nodup h.build) hi hj heq

theorem mem_origins (h : Drawn options d m b g) (hi : i < d.entities.length) :
    name ∈ b.origins g i ↔ ∃ k, ReflTransGen d.Declares i k ∧ d.IsSourced k ∧ d.HasName k name := by
  have hrel : (fun x y => y ∈ g.dependencies x) = d.Declares := funext₂ fun x y => propext h.mem_dependencies
  have hnext : ∀ x, ∀ y ∈ g.dependencies x, y < g.nodes.length := by
    intro x y hy
    rw [h.nodes_length]
    exact (h.mem_dependencies.mp hy).lt_right
  have hreach : ∀ k, k ∈ reach g.dependencies g.nodes.length i ↔ ReflTransGen d.Declares i k := by
    intro k
    rw [mem_reach hnext (h.nodes_length ▸ hi), hrel]
  rw [Model.origins, Sorted.mem_ofList fun _ _ => Std.LawfulEqCmp.eq_of_compare, List.mem_map]
  constructor
  · rintro ⟨k, hk, hname⟩
    obtain ⟨hk, hsource⟩ := List.mem_filter.mp hk
    have hway := (hreach k).mp hk
    exact ⟨k, hway, h.hasSource_iff.mp hsource, (h.hasName_iff (reflTransGen_lt_length hi hway)).mpr hname⟩
  · rintro ⟨k, hway, hsource, hname⟩
    refine ⟨k, List.mem_filter.mpr ⟨(hreach k).mpr hway, h.hasSource_iff.mpr hsource⟩, ?_⟩
    exact (h.hasName_iff (reflTransGen_lt_length hi hway)).mp hname

theorem map_name (h : Drawn options d m b g) :
    b.entities.map Entity.name = (List.range d.entities.length).map b.nameOf := by
  refine List.ext_getElem (by simp [h.length_eq]) fun i hi hi' => ?_
  rw [List.length_map] at hi
  simp [Model.nameOf, hi]

theorem isRoot_iff (h : Drawn options d m b g) : (g.nodes[i]?).any GraphNode.isRoot = true ↔ d.IsSourced i := by
  rw [← h.hasSource_iff, Model.graph_eq_ok h.graph, Model.toGraph, List.getElem?_map, Model.hasSource]
  cases b.entities[i]? <;> rfl

/-- Where the origins of all that an entity reads from are found, so are its own. -/
theorem roots_eq (h : Drawn options d m b g) {found : List (List String)} (hi : i < d.entities.length)
    (hfound : ∀ j, d.Declares i j → found[j]? = some (b.origins g j)) : b.roots g found i = b.origins g i := by
  refine Sorted.eq_of_mem_iff (Sorted.ofList_sorted _) (Sorted.ofList_sorted _) fun name => ?_
  show name ∈ b.roots g found i ↔ name ∈ b.origins g i
  rw [Model.roots, Sorted.mem_ofList fun _ _ => Std.LawfulEqCmp.eq_of_compare, List.mem_append, List.mem_flatMap,
    h.mem_origins hi]
  constructor
  · rintro (hown | ⟨j, hj, hname⟩)
    · split at hown
      · next hroot =>
        obtain rfl := List.mem_singleton.mp hown
        exact ⟨i, .refl, h.isRoot_iff.mp hroot, (h.hasName_iff hi).mpr rfl⟩
      · cases hown
    · have hdeclares := h.mem_dependencies.mp hj
      rw [hfound j hdeclares, Option.getD_some, h.mem_origins hdeclares.lt_right] at hname
      obtain ⟨k, hway, hk⟩ := hname
      exact ⟨k, .head hdeclares hway, hk⟩
  · rintro ⟨k, hway, hsource, hname⟩
    rcases hway.cases_head with rfl | ⟨j, hdeclares, hway⟩
    · left
      rw [if_pos (h.isRoot_iff.mpr hsource), (h.hasName_iff hi).mp hname]
      exact List.mem_singleton_self _
    · refine .inr ⟨j, h.mem_dependencies.mpr hdeclares, ?_⟩
      rw [hfound j hdeclares, Option.getD_some, h.mem_origins hdeclares.lt_right]
      exact ⟨k, hway, hsource, hname⟩

/-- What the pass has found after some of the entities, when they are taken in an order. -/
theorem foldl_roots (h : Drawn options d m b g) {order done rest : List Nat}
    (ho : IsOrder d.entities.length d.Declares order) (hsplit : order = done ++ rest) {found : List (List String)}
    (hlen : found.length = d.entities.length) (hfound : ∀ i ∈ done, found[i]? = some (b.origins g i)) :
    let found' := rest.foldl (fun found i => found.set i (b.roots g found i)) found
    found'.length = d.entities.length ∧ ∀ i ∈ order, found'[i]? = some (b.origins g i) := by
  induction rest generalizing done found with
  | nil =>
    rw [List.append_nil] at hsplit
    exact ⟨hlen, hsplit ▸ hfound⟩
  | cons i rest ih =>
    have hnodup : order.Nodup := ho.perm.nodup_iff.mpr List.nodup_range
    have hi : i < d.entities.length := List.mem_range.mp (ho.perm.mem_iff.mp (hsplit ▸ by simp))
    have hnot : i ∉ done := by
      rw [hsplit] at hnodup
      exact fun hmem => List.disjoint_of_nodup_append hnodup hmem List.mem_cons_self
    -- All that the entity reads from comes before it.
    have hbefore : ∀ j, d.Declares i j → j ∈ done := by
      intro j hdeclares
      have hlt := ho.before i j hdeclares
      by_contra hj
      rw [hsplit, List.idxOf_append_of_notMem hnot, List.idxOf_append_of_notMem hj, List.idxOf_cons_self] at hlt
      omega
    have hroots : b.roots g found i = b.origins g i := h.roots_eq hi fun j hj => hfound j (hbefore j hj)
    rw [List.append_cons] at hsplit
    refine ih hsplit (by rw [List.length_set, hlen]) fun k hk => ?_
    show (found.set i (b.roots g found i))[k]? = _
    rw [hroots, List.getElem?_set]
    split
    · next heq => rw [if_pos (hlen ▸ heq ▸ hi), heq]
    · next hne =>
      refine hfound k ((List.mem_append.mp hk).resolve_right fun hki => hne ?_)
      exact (List.mem_singleton.mp hki).symm

theorem provenance_eq (h : Drawn options d m b g) {order : List Nat} (ho : IsOrder d.entities.length d.Declares order) :
    b.provenance g order = (List.range d.entities.length).map (b.origins g) := by
  have hblank : (b.entities.map fun _ => ([] : List String)).length = d.entities.length := by
    rw [List.length_map, h.length_eq]
  obtain ⟨hlen, hfound⟩ := h.foldl_roots ho (List.nil_append order).symm hblank (by simp)
  refine List.ext_getElem? fun i => ?_
  by_cases hi : i < d.entities.length
  · rw [Model.provenance, hfound i (ho.perm.mem_iff.mpr (List.mem_range.mpr hi)), List.getElem?_map,
      List.getElem?_range hi]
    rfl
  · rw [Model.provenance, List.getElem?_eq_none (by omega), List.getElem?_eq_none (by simp; omega)]

theorem mem_terminals (h : Drawn options d m b g) (hi : d.entities[i]? = some decl) :
    decl.name ∈ b.terminals g ↔ ∀ k, ¬ d.Declares k i := by
  have hlt := (List.getElem?_eq_some_iff.mp hi).1
  have hempty : ∀ j, (g.dependents j).isEmpty = true ↔ ∀ k, ¬ d.Declares k j := by
    intro j
    rw [List.isEmpty_iff, List.eq_nil_iff_forall_not_mem]
    exact forall_congr' fun k => not_congr h.mem_dependents
  rw [Model.terminals, Sorted.mem_ofList fun _ _ => Std.LawfulEqCmp.eq_of_compare, List.mem_map]
  constructor
  · rintro ⟨j, hj, hname⟩
    obtain ⟨hj, hfree⟩ := List.mem_filter.mp hj
    have hjlt : j < d.entities.length := h.length_eq ▸ List.mem_range.mp hj
    obtain rfl := h.nameOf_inj hjlt hlt (hname.trans (h.nameOf_eq hi).symm)
    exact (hempty j).mp hfree
  · intro hfree
    refine ⟨i, List.mem_filter.mpr ⟨List.mem_range.mpr (h.length_eq.symm ▸ hlt), (hempty i).mpr hfree⟩, ?_⟩
    exact h.nameOf_eq hi

end Drawn

/-! ## What is evaluated before -/

section Stages
variable {options : Options} {d : Document} {m : Model SourceExpr} {b : Model BoundExpr} {g : Graph}
  {c : Model Compiled} {p : Plan} {i j k l : Nat} {name : String} {decl : EntityDecl}

theorem Stages.acyclic (hs : Stages options d m b g c p) (k : Nat) : ¬ TransGen d.Declares k k := by
  have hrel : Leads g.adjacency = d.Declares := funext₂ fun x y => propext hs.drawn.leads_iff
  rw [← hrel]
  exact Model.acyclic_of_validate hs.validate k

/-- Where orphans are not allowed, every entity of a plan has its data from somewhere. -/
theorem Stages.reachesSource (hs : Stages options d m b g c p) (hallow : options.allowOrphans = false)
    (hi : d.entities[i]? = some decl) : d.ReachesSource i := by
  by_contra hnot
  have hcount := (hs.drawn.count_orphan hallow hi).1.mpr hnot
  rw [hs.validate] at hcount
  cases hcount

theorem Stages.isOrder (hs : Stages options d m b g c p) :
    IsOrder d.entities.length d.Declares (scheduled g.adjacency) :=
  hs.drawn.isOrder_iff.mp (scheduled_isOrder (Model.acyclic_of_validate hs.validate))

theorem Stages.mem_scheduled (hs : Stages options d m b g c p) : i ∈ scheduled g.adjacency ↔ i < d.entities.length := by
  rw [hs.isOrder.perm.mem_iff, List.mem_range]

theorem Stages.entity_at (hs : Stages options d m b g c p) (hk : (scheduled g.adjacency)[k]? = some i) :
    ∃ q, p.entities[k]? = some q ∧ q.name = b.nameOf i ∧
      q.requires = ((scheduled g.adjacency).filter (g.dependencies i).contains).map b.nameOf := by
  obtain ⟨q, hq, e, e', e'', he, rfl⟩ := forall₂_getElem?_left hs.planned hk
  refine ⟨_, hq, ?_, rfl⟩
  rw [Model.nameOf, he.bound]
  rfl

theorem Stages.planned_names_nodup (hs : Stages options d m b g c p) : (p.entities.map EntityPlan.name).Nodup :=
  hs.order_perm.nodup_iff.mpr (Model.build_decls_nodup hs.build)

theorem Stages.name_notMem_prerequisites (hs : Stages options d m b g c p) (hi : d.entities[i]? = some decl) :
    ¬ ∃ k, TransGen d.Declares i k ∧ d.HasName k decl.name := by
  rintro ⟨k, hway, e, he, hname⟩
  obtain rfl := place_eq_of_key_eq (Model.build_decls_nodup hs.build) he hi hname
  exact hs.acyclic k hway

theorem Stages.requires (hs : Stages options d m b g c p) (hi : d.entities[i]? = some decl) :
    ∃ q, p.entity? decl.name = some q ∧ q.requires.Sublist p.order ∧
      ∀ name, name ∈ q.requires ↔ ∃ k, d.Declares i k ∧ d.HasName k name := by
  have hlt := (List.getElem?_eq_some_iff.mp hi).1
  obtain ⟨k, hk⟩ := List.mem_iff_getElem?.mp (hs.mem_scheduled.mpr hlt)
  obtain ⟨q, hq, hname, hrequires⟩ := hs.entity_at hk
  have hfind : p.entity? decl.name = some q := by
    rw [← hs.drawn.nameOf_eq hi, ← hname]
    exact find?_key_eq_some hs.planned_names_nodup (List.mem_of_getElem? hq)
  refine ⟨q, hfind, ?_, fun name => ?_⟩
  · rw [hrequires, hs.order_eq]
    exact List.filter_sublist.map _
  · rw [hrequires, List.mem_map]
    constructor
    · rintro ⟨j, hj, hname⟩
      have hdeclares := hs.drawn.mem_dependencies.mp (List.contains_iff_mem.mp (List.mem_filter.mp hj).2)
      exact ⟨j, hdeclares, (hs.drawn.hasName_iff hdeclares.lt_right).mpr hname⟩
    · rintro ⟨j, hdeclares, hname⟩
      refine ⟨j, List.mem_filter.mpr ⟨hs.mem_scheduled.mpr hdeclares.lt_right, ?_⟩, ?_⟩
      · exact List.contains_iff_mem.mpr (hs.drawn.mem_dependencies.mpr hdeclares)
      · exact (hs.drawn.hasName_iff hdeclares.lt_right).mp hname

/-- What an entity of a plan requires is what its declaration declares. -/
theorem Stages.requires_iff (hs : Stages options d m b g c p) (hname : d.HasName i name) {need : String} :
    p.Requires name need ↔ ∃ k, d.Declares i k ∧ d.HasName k need := by
  obtain ⟨decl, hi, rfl⟩ := hname
  obtain ⟨q, hq, -, hrequires⟩ := hs.requires hi
  rw [← hrequires]
  constructor
  · rintro ⟨q', hq', hneed⟩
    obtain rfl := Option.some.inj (hq.symm.trans hq')
    exact hneed
  · exact fun hneed => ⟨q, hq, hneed⟩

theorem Stages.transGen_requires (hs : Stages options d m b g c p) (hname : d.HasName i name) {need : String} :
    TransGen p.Requires name need ↔ ∃ k, TransGen d.Declares i k ∧ d.HasName k need := by
  constructor
  · intro hway
    induction hway with
    | single hfirst =>
      obtain ⟨k, hdeclares, hk⟩ := (hs.requires_iff hname).mp hfirst
      exact ⟨k, .single hdeclares, hk⟩
    | tail _ hnext ih =>
      obtain ⟨j, hway, hj⟩ := ih
      obtain ⟨k, hdeclares, hk⟩ := (hs.requires_iff hj).mp hnext
      exact ⟨k, .tail hway hdeclares, hk⟩
  · rintro ⟨k, hway, hk⟩
    induction hway generalizing need with
    | single hdeclares => exact .single ((hs.requires_iff hname).mpr ⟨_, hdeclares, hk⟩)
    | tail _ hdeclares ih =>
      have hj := List.getElem?_eq_getElem hdeclares.lt_left
      have hj : d.HasName _ _ := ⟨_, hj, rfl⟩
      exact (ih hj).tail ((hs.requires_iff hj).mpr ⟨_, hdeclares, hk⟩)

theorem Stages.prerequisites (hs : Stages options d m b g c p) (hi : d.entities[i]? = some decl) :
    ∃ before, p.prerequisites decl.name = some before ∧ before.Sublist p.order ∧
      ∀ name, name ∈ before ↔ ∃ k, TransGen d.Declares i k ∧ d.HasName k name := by
  obtain ⟨q, hq, -⟩ := hs.requires hi
  refine ⟨_, by rw [Plan.prerequisites, hq]; rfl, List.filter_sublist, fun name => ?_⟩
  rw [List.mem_filter, List.contains_iff_mem, Plan.mem_demand hq, hs.transGen_requires ⟨decl, hi, rfl⟩]
  refine and_iff_right_of_imp ?_
  rintro ⟨k, -, e, he, rfl⟩
  exact hs.order_perm.mem_iff.mpr (List.mem_map_of_mem (List.mem_of_getElem? he))

theorem Stages.plan_sets (hs : Stages options d m b g c p) : p.terminals = b.terminals g ∧
    p.provenance = Sorted.ofList (fun p q => compare p.1 q.1)
      ((List.range d.entities.length).map fun i => (b.nameOf i, b.origins g i)) := by
  have h := hs.plan
  unfold Model.plan at h
  split at h
  · cases h
  · next order ho =>
    have hprovenance := hs.drawn.provenance_eq hs.isOrder
    obtain ⟨rfl, -⟩ := solve_eq_order ho
    cases h
    rw [hprovenance, hs.drawn.map_name, List.zip_map']
    exact ⟨rfl, rfl⟩

/-- A plan says for each entity where its data comes from. -/
theorem Stages.provenance_perm (hs : Stages options d m b g c p) :
    p.provenance.Perm ((List.range d.entities.length).map fun i => (b.nameOf i, b.origins g i)) ∧
      (p.provenance.map Prod.fst).Nodup := by
  rw [hs.plan_sets.2]
  generalize hpairs : (List.range d.entities.length).map (fun i => (b.nameOf i, b.origins g i)) = pairs
  have hnodup : (pairs.map Prod.fst).Nodup := by
    rw [← hpairs, List.map_map]
    exact hs.drawn.map_nameOf ▸ Model.build_decls_nodup hs.build
  have hperm : (Sorted.ofList (fun p q => compare p.1 q.1) pairs).Perm pairs :=
    Sorted.ofList_perm ((List.pairwise_map.mp hnodup).imp fun hne heq => hne (Std.LawfulEqCmp.eq_of_compare heq))
  exact ⟨hperm, (hperm.map Prod.fst).nodup_iff.mpr hnodup⟩

theorem Stages.mem_provenance (hs : Stages options d m b g c p) {entry : String × List String} :
    entry ∈ p.provenance ↔ ∃ i < d.entities.length, (b.nameOf i, b.origins g i) = entry := by
  simp [hs.provenance_perm.1.mem_iff]

theorem Stages.provenanceOf_eq (hs : Stages options d m b g c p) (hi : d.entities[i]? = some decl) :
    p.provenanceOf decl.name = some (b.origins g i) := by
  refine lookup_eq_some_of_mem hs.provenance_perm.2 (hs.mem_provenance.mpr ⟨i, ?_, ?_⟩)
  · exact (List.getElem?_eq_some_iff.mp hi).1
  · rw [hs.drawn.nameOf_eq hi]

end Stages

/-- The sets that a plan gives are closures of the declared parents. Where orphans are not allowed, an entity is reported
as one once if no way along declared parents leads from it to an entity with a source, and else not at all; this does
not depend on whether parents go in circles. -/
theorem plan_closures {options : Options} {d : Document} {m : Model SourceExpr} {b : Model BoundExpr} {g : Graph}
    (hm : Model.build options d = .ok m) (hb : m.resolve = .ok b) (hg : b.graph = .ok g) {i : Nat} {decl : EntityDecl}
    (hi : d.entities[i]? = some decl) :
    (options.allowOrphans = false →
      (((b.validate g options).diagnostics.map Diagnostic.problem).count (.orphan decl.name) = 1 ↔
        ¬ ∃ k, ReflTransGen d.Declares i k ∧ d.IsSourced k) ∧
      ((b.validate g options).diagnostics.map Diagnostic.problem).count (.orphan decl.name) ≤ 1) ∧
    ∀ plan, Plan.compile options d = .ok plan → ∃ p sources before,
      plan.entity? decl.name = some p ∧ plan.provenanceOf decl.name = some sources ∧
      plan.prerequisites decl.name = some before ∧
      (∀ name, name ∈ sources ↔ ∃ k, ReflTransGen d.Declares i k ∧ d.IsSourced k ∧ d.HasName k name) ∧
      (options.allowOrphans = false → sources ≠ []) ∧
      (∀ name, name ∈ before ↔ ∃ k, TransGen d.Declares i k ∧ d.HasName k name) ∧
      decl.name ∉ before ∧ before.Sublist plan.order ∧
      (plan.isTerminal decl.name = true ↔ ∀ k, ¬ d.Declares k i) ∧
      (∀ name, name ∈ p.requires ↔ ∃ k, d.Declares i k ∧ d.HasName k name) ∧ p.requires.Sublist plan.order := by
  have hdrawn : Drawn options d m b g := ⟨hm, hb, hg⟩
  have hlt := (List.getElem?_eq_some_iff.mp hi).1
  refine ⟨fun hallow => hdrawn.count_orphan hallow hi, fun plan hplan => ?_⟩
  obtain ⟨g', c, hs⟩ := Stages.of_resolve hm hb hplan
  obtain rfl : g = g' := Except.ok.inj (hg.symm.trans hs.graph)
  obtain ⟨p, hp, hsub, hrequires⟩ := hs.requires hi
  obtain ⟨before, hbefore, hbeforeSub, hmem⟩ := hs.prerequisites hi
  refine ⟨p, b.origins g i, before, hp, hs.provenanceOf_eq hi, hbefore, fun name => hdrawn.mem_origins hlt,
    fun hallow => ?_, hmem, fun hself => hs.name_notMem_prerequisites hi ((hmem _).mp hself), hbeforeSub, ?_,
    hrequires, hsub⟩
  · obtain ⟨k, hway, hsource⟩ := hs.reachesSource hallow hi
    have ⟨e, he, _⟩ := hsource
    exact List.ne_nil_of_mem ((hdrawn.mem_origins hlt).mpr ⟨k, hway, hsource, e, he, rfl⟩)
  · rw [Plan.isTerminal, List.contains_iff_mem, hs.plan_sets.1]
    exact hdrawn.mem_terminals hi

/-- Two entities that are parents of each other and have no source. -/
def circle : Document :=
  { sources := [{ name := "shop" }]
    entities := [
      { name := "Left", parents := [{ entity := "Right" }], attributes := [{ name := "a" }] },
      { name := "Right", parents := [{ entity := "Left" }], attributes := [{ name := "a" }] },
      { name := "Store", source := some "shop", attributes := [{ name := "city" }] }] }

theorem circle_and_returns_closures :
    (∃ m b g, Model.build {} circle = .ok m ∧ m.resolve = .ok b ∧ b.graph = .ok g ∧
      ((b.validate g {}).diagnostics.map Diagnostic.problem).count (.orphan "Left") = 1 ∧
      ¬ ∃ k, ReflTransGen circle.Declares 0 k ∧ circle.IsSourced k) ∧
    ∃ plan, Plan.compile {} returns = .ok plan ∧
      plan.provenanceOf "Return" = some ["Customer"] ∧ plan.prerequisites "Return" = some ["Customer", "Order"] ∧
      plan.isTerminal "Return" = true ∧
      (∀ name, name ∈ ["Customer"] ↔
        ∃ k, ReflTransGen returns.Declares 0 k ∧ returns.IsSourced k ∧ returns.HasName k name) ∧
      (∀ name, name ∈ ["Customer", "Order"] ↔ ∃ k, TransGen returns.Declares 0 k ∧ returns.HasName k name) ∧
      ∀ k, ¬ returns.Declares k 0 := by
  constructor
  · have hgraph : ((Model.build {} circle).toOption.bind fun m => m.resolve.toOption.bind fun b =>
        b.graph.toOption.map fun g =>
          ((b.validate g {}).diagnostics.map Diagnostic.problem).count (.orphan "Left")) = some 1 := by decide +kernel
    obtain ⟨m, hm, h⟩ := Option.bind_eq_some_iff.mp hgraph
    obtain ⟨b, hb, h⟩ := Option.bind_eq_some_iff.mp h
    obtain ⟨g, hg, hcount⟩ := Option.map_eq_some_iff.mp h
    have hm := toOption_eq_some.mp hm
    have hb := toOption_eq_some.mp hb
    have hg := toOption_eq_some.mp hg
    obtain ⟨decl, hi⟩ : ∃ decl, circle.entities[0]? = some decl := ⟨_, rfl⟩
    have hname : decl.name = "Left" := by cases hi; rfl
    refine ⟨m, b, g, hm, hb, hg, hcount, ((plan_closures hm hb hg hi).1 rfl).1.mp ?_⟩
    rw [hname]
    exact hcount
  · have hvalues : (Plan.compile {} returns).toOption.map (fun plan =>
        (plan.provenanceOf "Return", plan.prerequisites "Return", plan.isTerminal "Return")) =
        some (some ["Customer"], some ["Customer", "Order"], true) := by decide +kernel
    obtain ⟨plan, hplan, h⟩ := Option.map_eq_some_iff.mp hvalues
    obtain ⟨hprovenance, h⟩ := Prod.mk.inj h
    obtain ⟨hprerequisites, hlast⟩ := Prod.mk.inj h
    have hplan := toOption_eq_some.mp hplan
    obtain ⟨m, b, g, c, hs⟩ := Stages.of_compile hplan
    obtain ⟨decl, hi⟩ : ∃ decl, returns.entities[0]? = some decl := ⟨_, rfl⟩
    have hname : decl.name = "Return" := by cases hi; rfl
    obtain ⟨p, sources, before, -, hsources, hbefore, hmem, -, hmem', -, -, hterminal, -⟩ :=
      (plan_closures hs.build hs.resolve hs.graph hi).2 plan hplan
    rw [hname] at hsources hbefore hterminal
    obtain rfl := Option.some.inj (hprovenance.symm.trans hsources)
    obtain rfl := Option.some.inj (hprerequisites.symm.trans hbefore)
    exact ⟨plan, hplan, hprovenance, hprerequisites, hlast, hmem, hmem', hterminal.mp hlast⟩

end Tributary
