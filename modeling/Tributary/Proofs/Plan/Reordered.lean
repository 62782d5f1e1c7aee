import Tributary.Proofs.Graph.Renaming
import Tributary.Proofs.Plan.Closure

/-!
# Declarations in another order

Entities and sources are declared in some order, and entities may come before their parents. The order decides only
in which of several possible orders a plan lists its entities: what compiles in one order compiles in every other, and
every entity has the same plan, up to the order of what it requires.

* `Document.Reordered` : the same declarations in another order;
* `Model.build_reordered` : the models of such documents have their entities at other places;
* `Drawn.validate_eq_ok` : what passes the rules, said without places;
* `Stages.reordered` : all stages go the same way;
* `Stages.agrees`, `Stages.provenance_eq`, `Stages.terminals_eq` : plans of such documents;
* `plan_of_reordered` : compiling declarations in another order.
-/

namespace Tributary

open Relation Schedule

/-- The same declarations, with entities and sources in another order. -/
structure Document.Reordered (d d' : Document) : Prop where
  entities : d.entities.Perm d'.entities
  sources : d.sources.Perm d'.sources
  endpoints : d'.endpoints = d.endpoints

theorem Document.Reordered.symm {d d' : Document} (h : d.Reordered d') : d'.Reordered d :=
  ⟨h.entities.symm, h.sources.symm, h.endpoints.symm⟩

variable {σ : Equiv.Perm Nat} {options : Options} {d d' : Document}

/-! ## Building -/

section Names
variable {sources sources' names names' : List String}
  (hnames : ∀ name i, names.findIdx? (· == name) = some i → names'.findIdx? (· == name) = some (σ i))

include hnames

theorem EntityDecl.checkParents_renamed {decl : EntityDecl} {parents : List Parent}
    (h : decl.checkParents names = .ok parents) :
    decl.checkParents names' = .ok (parents.map (Parent.rename σ)) := by
  obtain ⟨hnodup, hall⟩ := EntityDecl.checkParents_iff.mp h
  refine EntityDecl.checkParents_iff.mpr ⟨hnodup, List.forall₂_map_right_iff.mpr (hall.imp fun p q hpq => ?_)⟩
  exact ⟨hnames _ _ hpq.1, hpq.2⟩

theorem EntityDecl.check_renamed (hsources : sources.Perm sources') {limit : Nat} {decl : EntityDecl}
    {e : Entity SourceExpr} (h : decl.check limit sources names = .ok e) :
    decl.check limit sources' names' = .ok (e.rename σ) := by
  obtain ⟨hs, hp, ha, he⟩ := EntityDecl.check_iff.mp h
  refine EntityDecl.check_iff.mpr ⟨?_, EntityDecl.checkParents_renamed hnames hp, ha, ?_⟩
  · unfold EntityDecl.checkSource at hs ⊢
    simp only [← hsources.contains_eq]
    exact hs
  · rw [he]
    rfl

theorem EndpointDecl.check_renamed {decl : EndpointDecl} {e : Endpoint} (h : decl.check names false = .ok e) :
    decl.check names' false = .ok (e.rename σ) := by
  unfold EndpointDecl.check at h ⊢
  rw [if_neg Bool.false_ne_true] at h ⊢
  split at h
  · cases h
  · next i hi =>
    obtain ⟨params, hparams, rfl⟩ := map_eq_ok.mp h
    rw [hnames _ _ hi]
    exact map_eq_ok.mpr ⟨params, hparams, rfl⟩

theorem EndpointDecl.eachSeen_renamed {decls : List EndpointDecl} {endpoints : List Endpoint}
    (h : Checked.eachSeen EndpointDecl.name (EndpointDecl.check names) [] decls = .ok endpoints) :
    Checked.eachSeen EndpointDecl.name (EndpointDecl.check names') [] decls =
      .ok (endpoints.map (Endpoint.rename σ)) := by
  obtain ⟨hdistinct, hall⟩ := EndpointDecl.eachSeen_eq_ok.mp h
  refine EndpointDecl.eachSeen_eq_ok.mpr ⟨hdistinct, List.forall₂_map_right_iff.mpr ?_⟩
  exact hall.imp fun decl e => EndpointDecl.check_renamed hnames

end Names

/-- Sources in another order are found by the same names. -/
theorem SourceDecl.exists_checked {decls decls' : List SourceDecl} (hperm : decls.Perm decls') {sources : List Source}
    (h : Checked.eachSeen SourceDecl.name SourceDecl.check [] decls = .ok sources) :
    ∃ sources', Checked.eachSeen SourceDecl.name SourceDecl.check [] decls' = .ok sources' ∧
      ∀ name, sources'.find? (fun s => s.name == name) = sources.find? fun s => s.name == name := by
  obtain ⟨hnodup, hall⟩ := SourceDecl.eachSeen_eq_ok.mp h
  obtain ⟨sources', hall', hperm'⟩ := List.perm_comp_forall₂ hperm.symm hall
  have hnames : sources.map Source.name = decls.map SourceDecl.name :=
    forall₂_map_eq hall fun _ _ => SourceDecl.check_name
  refine ⟨sources', SourceDecl.eachSeen_eq_ok.mpr ⟨?_, hall'⟩, fun name => ?_⟩
  · exact (hperm.map SourceDecl.name).nodup_iff.mp hnodup
  · exact find?_key_perm (hnames ▸ hnodup) hperm'.symm name

/-- A name is found at the place to which the declaration of that name has moved. -/
theorem findIdx?_moved (hnodup : (d.entities.map EntityDecl.name).Nodup)
    (hnodup' : (d'.entities.map EntityDecl.name).Nodup) (h : Moved σ id d.entities d'.entities) (name : String) (i : Nat)
    (hi : (d.entities.map EntityDecl.name).findIdx? (· == name) = some i) :
    (d'.entities.map EntityDecl.name).findIdx? (· == name) = some (σ i) := by
  obtain ⟨decl, hdecl, hname⟩ := (Model.findIdx?_decls hnodup).mp hi
  exact (Model.findIdx?_decls hnodup').mpr ⟨decl, h.some hdecl, hname⟩

/-- The models of documents that differ in order have the same entities at other places. -/
theorem Model.build_reordered (h : d.Reordered d') (hmoved : Moved σ id d.entities d'.entities) {m : Model SourceExpr}
    (hm : Model.build options d = .ok m) : ∃ m', Model.build options d' = .ok m' ∧ m.Renamed σ m' := by
  obtain ⟨hsources, hnodup, hentities, hendpoints, -⟩ := Model.build_eq_ok.mp hm
  have hnodup' := (h.entities.map EntityDecl.name).nodup_iff.mp hnodup
  have hnames := findIdx?_moved hnodup hnodup' hmoved
  obtain ⟨sources', hsources', hfind⟩ := SourceDecl.exists_checked h.sources hsources
  obtain ⟨entities', hentities', hmoved'⟩ := hmoved.each hentities
    (EntityDecl.check options.maxExpressionDepth (d'.sources.map SourceDecl.name) (d'.entities.map EntityDecl.name))
    fun decl e => EntityDecl.check_renamed hnames (h.sources.map SourceDecl.name)
  refine ⟨⟨sources', entities', m.endpoints.map (Endpoint.rename σ), d'.entities.map EntityDecl.name⟩, ?_, hmoved', rfl,
    hfind⟩
  refine Model.build_eq_ok.mpr ⟨hsources', hnodup', hentities', ?_, rfl⟩
  rw [h.endpoints]
  exact EndpointDecl.eachSeen_renamed hnames hendpoints

/-! ## Rules -/

/-- A model passes the rules if each entity does by itself, parents do not go in circles, and every entity has a way to
a source unless orphans are allowed. -/
theorem Drawn.validate_eq_ok {m : Model SourceExpr} {b : Model BoundExpr} {g : Graph} (h : Drawn options d m b g) :
    b.validate g options = .ok () ↔
      (∀ (i : Nat) e, b.entities[i]? = some e → b.entityRules e i = []) ∧ (∀ k, ¬ TransGen d.Declares k k) ∧
      (options.allowOrphans = false → ∀ i < d.entities.length, d.ReachesSource i) := by
  have hrules : b.entities.zipIdx.flatMap (fun p => b.entityRules p.1 p.2) = [] ↔
      ∀ (i : Nat) e, b.entities[i]? = some e → b.entityRules e i = [] := by
    simp only [List.flatMap_eq_nil_iff, Prod.forall, List.mem_zipIdx_iff_getElem?]
    exact forall_comm
  have hcycles : b.cycleRule g.adjacency = [] ↔ ∀ k, ¬ TransGen d.Declares k k := by
    rw [Model.cycleRule, List.map_eq_nil_iff, ← show Leads g.adjacency = d.Declares from
      funext₂ fun x y => propext h.leads_iff]
    exact ⟨Cycle.acyclic_of_all_eq_nil, Cycle.all_eq_nil_of_acyclic⟩
  have horphans : b.orphanRule g.adjacency = [] ↔ ∀ i < d.entities.length, d.ReachesSource i := by
    rw [Model.orphanRule_eq b h.entities_length, List.map_eq_nil_iff, List.eq_nil_iff_forall_not_mem]
    constructor
    · intro hnone i hi
      by_contra hnot
      have hlt : i < b.entities.length := h.length_eq.symm ▸ hi
      exact hnone (b.entities[i], i) (h.mem_orphans.mpr ⟨List.getElem?_eq_getElem hlt, hnot⟩)
    · rintro hall ⟨e, i⟩ hmem
      obtain ⟨he, hnot⟩ := h.mem_orphans.mp hmem
      exact hnot (hall i (h.length_eq ▸ (List.getElem?_eq_some_iff.mp he).1))
  rw [Model.validate, Checked.report_eq_ok, Model.violations, List.append_eq_nil_iff, List.append_eq_nil_iff, hrules,
    hcycles]
  cases options.allowOrphans with
  | true => simp
  | false => simp [horphans, and_assoc]

/-! ## Places -/

section Places
variable {i j k : Nat} {name : String}

theorem Document.Declares.moved (hij : d.Declares i j) (h : Moved σ id d.entities d'.entities) :
    d'.Declares (σ i) (σ j) := by
  obtain ⟨e, f, he, hf, hp⟩ := hij
  exact ⟨e, f, h.some he, h.some hf, hp⟩

theorem Document.IsSourced.moved (hi : d.IsSourced i) (h : Moved σ id d.entities d'.entities) : d'.IsSourced (σ i) := by
  obtain ⟨e, he, hs⟩ := hi
  exact ⟨e, h.some he, hs⟩

theorem Document.HasName.moved (hi : d.HasName i name) (h : Moved σ id d.entities d'.entities) :
    d'.HasName (σ i) name := by
  obtain ⟨e, he, hname⟩ := hi
  exact ⟨e, h.some he, hname⟩

theorem Document.reflTransGen_moved (h : Moved σ id d.entities d'.entities) (hway : ReflTransGen d.Declares i k) :
    ReflTransGen d'.Declares (σ i) (σ k) :=
  hway.lift σ fun _ _ hij => hij.moved h

theorem Document.ReachesSource.moved (hi : d.ReachesSource i) (h : Moved σ id d.entities d'.entities) :
    d'.ReachesSource (σ i) := by
  obtain ⟨k, hway, hk⟩ := hi
  exact ⟨σ k, Document.reflTransGen_moved h hway, hk.moved h⟩

end Places

/-! ## Stages -/

section Stages
variable {m m' : Model SourceExpr} {b b' : Model BoundExpr} {g g' : Graph} {c c' : Model Compiled} {p p' : Plan}

theorem Drawn.validate_renamed (h : Drawn options d m b g) (h' : Drawn options d' m' b' g') (hr : b.Renamed σ b')
    (hmoved : Moved σ id d.entities d'.entities) (hv : b.validate g options = .ok ()) :
    b'.validate g' options = .ok () := by
  obtain ⟨hrules, hacyclic, hsources⟩ := h.validate_eq_ok.mp hv
  refine h'.validate_eq_ok.mpr ⟨fun j e' he' => ?_, fun k hk => ?_, fun hallow j hj => ?_⟩
  · obtain ⟨i, e, rfl, he, rfl⟩ := hr.entities.exists_place he'
    rw [hr.entityRules]
    exact hrules i e he
  · -- A circle of parents would be one at the places from which they have moved.
    exact hacyclic (σ.symm k) (hk.lift σ.symm fun _ _ hij => hij.moved hmoved.symm)
  · rw [← σ.apply_symm_apply j] at hj ⊢
    exact (hsources hallow _ ((hmoved.lt_iff _).mp hj)).moved hmoved

/-- All stages go the same way for declarations in another order. -/
theorem Stages.reordered (hs : Stages options d m b g c p) (h : d.Reordered d')
    (hmoved : Moved σ id d.entities d'.entities) :
    ∃ m' b' g' c' p', Stages options d' m' b' g' c' p' ∧ b.Renamed σ b' ∧ c.Renamed σ c' := by
  obtain ⟨m', hm', hrm⟩ := Model.build_reordered h hmoved hs.build
  obtain ⟨b', hb', hrb⟩ := hrm.resolve hs.resolve
  obtain ⟨c', hc', hrc⟩ := hrb.compile hs.compile
  have hdrawn : Drawn options d' m' b' b'.toGraph := ⟨hm', hb', hrb.graph hs.graph⟩
  obtain ⟨p', hs'⟩ := hdrawn.exists_stages (hs.drawn.validate_renamed hdrawn hrb hmoved hs.validate) hc'
  exact ⟨m', b', _, c', p', hs', hrb, hrc⟩

/-! ## Plans -/

/-- Two plans of an entity are the same, up to the order in which they list what it requires. -/
structure EntityPlan.Agrees (q q' : EntityPlan) : Prop where
  eq : q' = { q with requires := q'.requires }
  requires : q'.requires.Perm q.requires
  evaluate : ∀ input, q'.evaluate input = q.evaluate input

theorem EntityPlan.evaluateAttrs_congr {q q' : EntityPlan} (h : q'.attributes = q.attributes) (input : EvalInput)
    (parents : List Value) (slots : List Nat) (values : List Value) :
    q'.evaluateAttrs input parents slots values = q.evaluateAttrs input parents slots values := by
  induction slots generalizing values with
  | nil => rfl
  | cons slot slots ih => simp only [evaluateAttrs, h, ih]

/-- An evaluation looks at parents, attributes and their order only. -/
theorem EntityPlan.evaluate_congr {q q' : EntityPlan} (hattrs : q'.attributes = q.attributes)
    (hparents : q'.parents = q.parents) (horder : q'.attrOrder = q.attrOrder) (input : EvalInput) :
    q'.evaluate input = q.evaluate input := by
  simp only [evaluate, evaluateAttrs_congr hattrs, hattrs, hparents, horder]

theorem Entity.attributePlan_rename (e : Entity BoundExpr) : (e.rename σ).attributePlan = e.attributePlan := by
  funext a c
  unfold Entity.attributePlan
  congr 1
  refine List.filterMap_congr fun slot _ => ?_
  rw [show (e.rename σ).parents = e.parents.map (Parent.rename σ) from rfl, List.getElem?_map, Option.map_map]
  rfl

theorem Model.Renamed.entityPlan (h : b.Renamed σ b') (order order' : List Nat) (e : Entity BoundExpr)
    (x : Entity Compiled) (i : Nat) :
    let q' := b'.entityPlan b'.toGraph order' (e.rename σ) (x.rename σ) (σ i)
    q' = { b.entityPlan b.toGraph order e x i with requires := q'.requires } := by
  have hslots : (e.rename σ).parents.map (e.rename σ).parentSlot = e.parents.map e.parentSlot :=
    Entity.map_parents_rename (fun p => rfl) e
  simp only [Model.entityPlan, e.role_rename, h.visibleParams, hslots, e.attributePlan_rename, h.attrEdges]
  rfl

theorem Stages.requires_perm (hs : Stages options d m b g c p) (hs' : Stages options d' m' b' g' c' p')
    (hmoved : Moved σ id d.entities d'.entities) {i : Nat} {decl : EntityDecl} (hi : d.entities[i]? = some decl) :
    ∃ q q', p.entity? decl.name = some q ∧ p'.entity? decl.name = some q' ∧ q'.requires.Perm q.requires := by
  obtain ⟨q, hq, hsub, hmem⟩ := hs.requires hi
  obtain ⟨q', hq', hsub', hmem'⟩ := hs'.requires (hmoved.some hi)
  have hnodup : q.requires.Nodup := hs.planned_names_nodup.sublist hsub
  have hnodup' : q'.requires.Nodup := hs'.planned_names_nodup.sublist hsub'
  refine ⟨q, q', hq, hq', (List.perm_ext_iff_of_nodup hnodup' hnodup).mpr fun name => ?_⟩
  rw [hmem, hmem']
  constructor
  · rintro ⟨k, hk, hname⟩
    have hk := hk.moved hmoved.symm
    rw [Equiv.symm_apply_apply] at hk
    exact ⟨σ.symm k, hk, hname.moved hmoved.symm⟩
  · rintro ⟨k, hk, hname⟩
    exact ⟨σ k, hk.moved hmoved, hname.moved hmoved⟩

/-- The plans of an entity agree. -/
theorem Stages.agrees (hs : Stages options d m b g c p) (hs' : Stages options d' m' b' g' c' p')
    (hmoved : Moved σ id d.entities d'.entities) (hb : b.Renamed σ b') (hc : c.Renamed σ c') {i : Nat}
    {decl : EntityDecl} (hi : d.entities[i]? = some decl) :
    ∃ q q', p.entity? decl.name = some q ∧ p'.entity? decl.name = some q' ∧ q.Agrees q' := by
  obtain ⟨q, q', hq, hq', hrequires⟩ := hs.requires_perm hs' hmoved hi
  obtain ⟨e, x, y, he, hname, -⟩ := hs.exists_entity hi
  obtain ⟨e', x', y', he', hname', -⟩ := hs'.exists_entity (hmoved.some hi)
  obtain ⟨order, hentity⟩ := hs.entity?_name he
  obtain ⟨order', hentity'⟩ := hs'.entity?_name he'
  -- Both models have the entity of this name at one place only, so its stages are those of the other, renamed.
  obtain rfl := Option.some.inj (he'.bound.symm.trans (hb.entities.some he.bound))
  obtain rfl := Option.some.inj (he'.compiled.symm.trans (hc.entities.some he.compiled))
  rw [hname, Model.graph_eq_ok hs.graph] at hentity
  rw [hname', Model.graph_eq_ok hs'.graph] at hentity'
  obtain rfl := Option.some.inj (hq.symm.trans hentity)
  obtain rfl := Option.some.inj (hq'.symm.trans hentity')
  have heq := hb.entityPlan order order' x y i
  refine ⟨_, _, hq, hq', heq, hrequires, EntityPlan.evaluate_congr ?_ ?_ ?_⟩
  · rw [heq]
  · rw [heq]
  · rw [heq]

/-- A plan has the entities that are declared and no others. -/
theorem Stages.entity?_eq_none (hs : Stages options d m b g c p) {name : String} (h : ∀ k, ¬ d.HasName k name) :
    p.entity? name = none := by
  refine List.find?_eq_none.mpr fun q hq hname => ?_
  have hmem : name ∈ d.entities.map EntityDecl.name := by
    rw [← hs.order_perm.mem_iff, ← beq_iff_eq.mp hname]
    exact List.mem_map_of_mem hq
  obtain ⟨decl, hdecl, hname⟩ := List.mem_map.mp hmem
  obtain ⟨k, hk⟩ := List.mem_iff_getElem?.mp hdecl
  exact h k ⟨decl, hk, hname⟩

theorem Stages.entity?_agrees (hs : Stages options d m b g c p) (hs' : Stages options d' m' b' g' c' p')
    (hmoved : Moved σ id d.entities d'.entities) (hb : b.Renamed σ b') (hc : c.Renamed σ c') (name : String) :
    Option.Rel EntityPlan.Agrees (p.entity? name) (p'.entity? name) := by
  by_cases hdeclared : ∃ i, d.HasName i name
  · obtain ⟨i, decl, hi, rfl⟩ := hdeclared
    obtain ⟨q, q', hq, hq', hagrees⟩ := hs.agrees hs' hmoved hb hc hi
    rw [hq, hq']
    exact .some hagrees
  · have hnone : ∀ k, ¬ d.HasName k name := fun k hk => hdeclared ⟨k, hk⟩
    rw [hs.entity?_eq_none hnone, hs'.entity?_eq_none fun k hk => hnone _ (hk.moved hmoved.symm)]
    exact .none

theorem Drawn.mem_origins_moved (h : Drawn options d m b g) (h' : Drawn options d' m' b' g')
    (hmoved : Moved σ id d.entities d'.entities) {i : Nat} (hi : i < d.entities.length) {name : String}
    (hname : name ∈ b.origins g i) : name ∈ b'.origins g' (σ i) := by
  obtain ⟨k, hway, hsource, hname⟩ := (h.mem_origins hi).mp hname
  refine (h'.mem_origins ((hmoved.lt_iff i).mpr hi)).mpr ⟨σ k, ?_, hsource.moved hmoved, hname.moved hmoved⟩
  exact Document.reflTransGen_moved hmoved hway

theorem Drawn.origins_moved (h : Drawn options d m b g) (h' : Drawn options d' m' b' g')
    (hmoved : Moved σ id d.entities d'.entities) {i : Nat} (hi : i < d.entities.length) :
    b'.origins g' (σ i) = b.origins g i := by
  refine Sorted.eq_of_mem_iff (Sorted.ofList_sorted _) (Sorted.ofList_sorted _) fun name => ⟨fun hname => ?_, ?_⟩
  · have hback := h'.mem_origins_moved h hmoved.symm ((hmoved.lt_iff i).mpr hi) hname
    rwa [Equiv.symm_apply_apply] at hback
  · exact h.mem_origins_moved h' hmoved hi

theorem Drawn.mem_terminals_iff (h : Drawn options d m b g) {name : String} :
    name ∈ b.terminals g ↔ ∃ i, d.HasName i name ∧ ∀ k, ¬ d.Declares k i := by
  constructor
  · intro hmem
    have hmem' := hmem
    rw [Model.terminals, Sorted.mem_ofList fun _ _ => Std.LawfulEqCmp.eq_of_compare] at hmem'
    obtain ⟨i, hi, rfl⟩ := List.mem_map.mp hmem'
    have hlt : i < d.entities.length := h.length_eq ▸ List.mem_range.mp (List.mem_filter.mp hi).1
    have hdecl := List.getElem?_eq_getElem hlt
    rw [h.nameOf_eq hdecl] at hmem ⊢
    exact ⟨i, ⟨_, hdecl, rfl⟩, (h.mem_terminals hdecl).mp hmem⟩
  · rintro ⟨i, ⟨decl, hi, rfl⟩, hfree⟩
    exact (h.mem_terminals hi).mpr hfree

theorem Drawn.mem_terminals_moved (h : Drawn options d m b g) (h' : Drawn options d' m' b' g')
    (hmoved : Moved σ id d.entities d'.entities) {name : String} (hname : name ∈ b.terminals g) :
    name ∈ b'.terminals g' := by
  obtain ⟨i, hi, hfree⟩ := h.mem_terminals_iff.mp hname
  refine h'.mem_terminals_iff.mpr ⟨σ i, hi.moved hmoved, fun k hk => hfree (σ.symm k) ?_⟩
  have hk := hk.moved hmoved.symm
  rwa [Equiv.symm_apply_apply] at hk

theorem Stages.terminals_eq (hs : Stages options d m b g c p) (hs' : Stages options d' m' b' g' c' p')
    (hmoved : Moved σ id d.entities d'.entities) : p'.terminals = p.terminals := by
  rw [hs.plan_sets.1, hs'.plan_sets.1]
  exact Sorted.eq_of_mem_iff (Sorted.ofList_sorted _) (Sorted.ofList_sorted _) fun name =>
    ⟨hs'.drawn.mem_terminals_moved hs.drawn hmoved.symm, hs.drawn.mem_terminals_moved hs'.drawn hmoved⟩

theorem Stages.provenance_sorted (hs : Stages options d m b g c p) :
    p.provenance.Pairwise fun x y => compare x.1 y.1 = .lt := by
  rw [hs.plan_sets.2]
  exact Sorted.ofList_sorted _

theorem Stages.mem_provenance_moved (hs : Stages options d m b g c p) (hs' : Stages options d' m' b' g' c' p')
    (hmoved : Moved σ id d.entities d'.entities) {entry : String × List String} (h : entry ∈ p.provenance) :
    entry ∈ p'.provenance := by
  obtain ⟨i, hi, rfl⟩ := hs.mem_provenance.mp h
  have hdecl := List.getElem?_eq_getElem hi
  refine hs'.mem_provenance.mpr ⟨σ i, (hmoved.lt_iff i).mpr hi, ?_⟩
  rw [hs.drawn.origins_moved hs'.drawn hmoved hi, hs.drawn.nameOf_eq hdecl, hs'.drawn.nameOf_eq (hmoved.some hdecl)]
  rfl

theorem Stages.provenance_eq (hs : Stages options d m b g c p) (hs' : Stages options d' m' b' g' c' p')
    (hmoved : Moved σ id d.entities d'.entities) : p'.provenance = p.provenance := by
  exact Sorted.eq_of_mem_iff hs'.provenance_sorted hs.provenance_sorted fun entry =>
    ⟨hs'.mem_provenance_moved hs hmoved.symm, hs.mem_provenance_moved hs' hmoved⟩

end Stages

/-- The order in which entities and sources are declared does not decide what compiles. It does not change the plan of
any entity either, but for the order in which what it requires is listed; nor where data comes from, nor what nothing
else reads from. -/
theorem plan_of_reordered {options : Options} {d d' : Document} (h : d.Reordered d') :
    ((∃ p, Plan.compile options d = .ok p) ↔ ∃ p', Plan.compile options d' = .ok p') ∧
    ∀ p p', Plan.compile options d = .ok p → Plan.compile options d' = .ok p' →
      (∀ name, Option.Rel EntityPlan.Agrees (p.entity? name) (p'.entity? name)) ∧
      p'.provenance = p.provenance ∧ p'.terminals = p.terminals := by
  have hsucceeds : ∀ {d d' : Document}, d.Reordered d' → (∃ p, Plan.compile options d = .ok p) →
      ∃ p', Plan.compile options d' = .ok p' := by
    rintro d d' h ⟨p, hp⟩
    obtain ⟨σ, hmoved⟩ := exists_moved h.entities
    obtain ⟨m, b, g, c, hs⟩ := Stages.of_compile hp
    obtain ⟨_, _, _, _, p', hs', -, -⟩ := hs.reordered h hmoved
    exact ⟨p', hs'.compile_eq⟩
  refine ⟨⟨hsucceeds h, hsucceeds h.symm⟩, fun p p' hp hp' => ?_⟩
  obtain ⟨σ, hmoved⟩ := exists_moved h.entities
  obtain ⟨m, b, g, c, hs⟩ := Stages.of_compile hp
  obtain ⟨_, _, _, _, p₁, hs', hb, hc⟩ := hs.reordered h hmoved
  obtain rfl : p' = p₁ := Except.ok.inj (hp'.symm.trans hs'.compile_eq)
  exact ⟨hs.entity?_agrees hs' hmoved hb hc, hs.provenance_eq hs' hmoved, hs.terminals_eq hs' hmoved⟩

/-- Deliveries, declared before the routes and drivers that they come from; their label reads a parameter of a source. -/
def deliveries : Document :=
  { sources := [{ name := "depot", params := [{ name := "region", type := "string" }] }, { name := "fleet" }]
    entities := [
      { name := "Delivery"
        parents := [{ entity := "Route" }, { entity := "Driver" }]
        attributes := [
          { name := "label", expr := some (.call none "concat" () [.ident none "town" (), .ident none "region" ()]) }] },
      { name := "Route", source := some "depot", attributes := [{ name := "town", type := "string" }] },
      { name := "Driver", source := some "fleet", attributes := [{ name := "phone", type := "string" }] }]
    endpoints := [{ name := "delivery", entity := "Delivery", operation := .read, path := "/delivery" }] }

def deliveriesBackwards : Document :=
  { deliveries with sources := deliveries.sources.reverse, entities := deliveries.entities.reverse }

theorem deliveries_reordered : ∃ p p', Plan.compile {} deliveries = .ok p ∧
    Plan.compile {} deliveriesBackwards = .ok p' ∧ deliveries.Reordered deliveriesBackwards ∧
    p.order = ["Route", "Driver", "Delivery"] ∧ p'.order = ["Driver", "Route", "Delivery"] ∧
    (∀ name, Option.Rel EntityPlan.Agrees (p.entity? name) (p'.entity? name)) ∧
    p'.provenance = p.provenance ∧ p'.terminals = p.terminals := by
  have horder : (Plan.compile {} deliveries).toOption.map Plan.order = some ["Route", "Driver", "Delivery"] := by
    decide +kernel
  have horder' : (Plan.compile {} deliveriesBackwards).toOption.map Plan.order =
      some ["Driver", "Route", "Delivery"] := by decide +kernel
  have hreordered : deliveries.Reordered deliveriesBackwards :=
    ⟨(List.reverse_perm _).symm, (List.reverse_perm _).symm, rfl⟩
  obtain ⟨p, hp, horder⟩ := Option.map_eq_some_iff.mp horder
  obtain ⟨p', hp', horder'⟩ := Option.map_eq_some_iff.mp horder'
  have hp := toOption_eq_some.mp hp
  have hp' := toOption_eq_some.mp hp'
  exact ⟨p, p', hp, hp', hreordered, horder, horder', (plan_of_reordered hreordered).2 p p' hp hp'⟩

end Tributary
