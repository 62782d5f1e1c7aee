import Mathlib.Logic.Relation
import Tributary.Proofs.Plan.Stages

/-!
# Declared parents

What a document declares about the parents and the sources of its entities is what its model, its bound model and its
graph have. Entities are given by their place in the document.

* `Document.Declares d i j` : entity `i` declares entity `j` as a parent; `Document.IsSourced d i` : it has a source;
* `EntityDecl.checkParents_iff`, `EntityDecl.checkParents_nodup` : parents as they are declared, each once;
* `Model.build_entity` : the entity of a model at a place;
* `Model.mem_parentsOf` : the parents of a model are those that are declared;
* `Model.mem_edges` : the edges of the graph are those of the entities;
* `Model.mem_dependencies` : an entity reads from its parents and from nothing else;
* `Drawn` : the stages up to the graph; `Drawn.leads_iff` : the adjacency of the graph is what is declared;
* `Drawn.parent_entity`, `Drawn.parents_nodup` : the parents of an entity are entities, each once.
-/

namespace Tributary

namespace Document

def Declares (d : Document) (i j : Nat) : Prop :=
  ∃ e f, d.entities[i]? = some e ∧ d.entities[j]? = some f ∧ ∃ p ∈ e.parents, p.entity = f.name

def IsSourced (d : Document) (i : Nat) : Prop := ∃ e, d.entities[i]? = some e ∧ e.source.isSome = true

end Document

def Model.hasSource {ε : Type} (m : Model ε) (i : Nat) : Bool := (m.entities[i]?).any fun e => e.source.isSome

/-! ## Declarations -/

namespace EntityDecl

variable {d : EntityDecl}

theorem checkSource_eq_ok {sources : List String} {source : Option String}
    (h : d.checkSource sources = .ok source) : source = d.source := by
  unfold checkSource at h
  split at h
  · next hs => cases h; exact hs.symm
  · next s hs =>
    split at h
    · cases h; exact hs.symm
    · cases h

/-- The parents of an entity are what is declared, each at the place of its name and none declared twice. -/
theorem checkParents_iff {entities : List String} {parents : List Parent} :
    d.checkParents entities = .ok parents ↔ (d.parents.map ParentDecl.entity).Nodup ∧
      List.Forall₂ (fun p q => entities.findIdx? (· == p.entity) = some q.entity ∧ q.name = p.entity ∧
        q.multiplicity = p.multiplicity ∧ q.join = p.join) d.parents parents := by
  rw [checkParents, Checked.eachSeen_eq_ok fun p q => by split <;> simp [Checked.fail]]
  constructor
  · rintro ⟨-, hnodup, hall⟩
    refine ⟨hnodup, hall.imp fun p q hpq => ?_⟩
    split at hpq
    · cases hpq
    · next i hi =>
      cases hpq
      exact ⟨hi, rfl, rfl, rfl⟩
  · rintro ⟨hnodup, hall⟩
    refine ⟨by simp, hnodup, hall.imp fun p q hpq => ?_⟩
    obtain ⟨hi, hname, hmultiplicity, hjoin⟩ := hpq
    rw [hi]
    dsimp only
    rw [if_neg Bool.false_ne_true, ← hname, ← hmultiplicity, ← hjoin]

theorem checkParents_eq_ok {entities : List String} {parents : List Parent}
    (h : d.checkParents entities = .ok parents) :
    List.Forall₂ (fun p q => entities.findIdx? (· == p.entity) = some q.entity ∧ q.name = p.entity ∧
      q.multiplicity = p.multiplicity ∧ q.join = p.join) d.parents parents :=
  (checkParents_iff.mp h).2

/-- An entity has each of its parents once. -/
theorem checkParents_nodup {entities : List String} {parents : List Parent}
    (h : d.checkParents entities = .ok parents) : (parents.map Parent.entity).Nodup := by
  obtain ⟨hnodup, hall⟩ := checkParents_iff.mp h
  have hnames : d.parents.map ParentDecl.entity = (parents.map Parent.entity).map fun k => (entities[k]?).getD "" := by
    rw [List.map_map]
    refine (forall₂_map_eq hall fun p q hpq => ?_).symm
    obtain ⟨hlt, heq, -⟩ := List.findIdx?_eq_some_iff_getElem.mp hpq.1
    rw [Function.comp_apply, List.getElem?_eq_getElem hlt]
    exact beq_iff_eq.mp heq
  rw [hnames] at hnodup
  exact hnodup.of_map _

end EntityDecl

namespace Model

variable {options : Options} {d : Document} {m : Model SourceExpr} {b : Model BoundExpr} {i j : Nat}

theorem build_length (h : Model.build options d = .ok m) : m.entities.length = d.entities.length :=
  (build_decls h).length_eq.symm

theorem build_entity (h : Model.build options d = .ok m) {decl : EntityDecl} (hi : d.entities[i]? = some decl) :
    ∃ e, m.entities[i]? = some e ∧ EntityDecl.check options.maxExpressionDepth (d.sources.map SourceDecl.name)
      (d.entities.map EntityDecl.name) decl = .ok e :=
  forall₂_getElem?_left (build_decls h) hi

/-- The place that a name is looked up at is that of the declaration of that name. -/
theorem findIdx?_decls (h : (d.entities.map EntityDecl.name).Nodup) {name : String} :
    (d.entities.map EntityDecl.name).findIdx? (· == name) = some j ↔
      ∃ f, d.entities[j]? = some f ∧ f.name = name := by
  rw [List.findIdx?_map]
  exact findIdx?_key_eq_some h

theorem mem_parentsOf (h : Model.build options d = .ok m) : j ∈ m.parentsOf i ↔ d.Declares i j := by
  unfold parentsOf
  cases hi : d.entities[i]? with
  | none =>
    have hm : m.entities[i]? = none := by
      rw [List.getElem?_eq_none_iff, build_length h]
      exact List.getElem?_eq_none_iff.mp hi
    simp [hm, Document.Declares, hi]
  | some decl =>
    obtain ⟨e, he, hcheck⟩ := build_entity h hi
    have hall := EntityDecl.checkParents_eq_ok (EntityDecl.check_eq_ok hcheck).2.2.1
    simp only [he, List.mem_map]
    constructor
    · rintro ⟨q, hq, rfl⟩
      obtain ⟨p, hp, hidx, -⟩ := forall₂_mem_right hall hq
      obtain ⟨f, hf, hname⟩ := (findIdx?_decls (build_decls_nodup h)).mp hidx
      exact ⟨decl, f, hi, hf, p, hp, hname.symm⟩
    · rintro ⟨decl', f, hdecl, hf, p, hp, hname⟩
      obtain rfl : decl = decl' := Option.some.inj (hi.symm.trans hdecl)
      obtain ⟨q, hq, hidx, -⟩ := forall₂_mem_left hall hp
      have hj := (findIdx?_decls (build_decls_nodup h)).mpr ⟨f, hf, hname.symm⟩
      exact ⟨q, hq, Option.some.inj (hidx.symm.trans hj)⟩

end Model

/-! ## The graph -/

/-- Every edge from an entity starts at its place and ends at one of its parents, and every parent has an edge. -/
theorem Entity.edges_target {e : Entity BoundExpr} {i k t : Nat} :
    (∃ x ∈ e.edges i, x.source = k ∧ x.target = t) ↔ i = k ∧ ∃ p ∈ e.parents, p.entity = t := by
  unfold Entity.edges
  constructor
  · rintro ⟨x, hx, rfl, rfl⟩
    rcases List.mem_append.mp hx with hx | hx
    · obtain ⟨p, hp, rfl⟩ := List.mem_map.mp hx
      exact ⟨rfl, p, hp, rfl⟩
    · obtain ⟨r, -, hr⟩ := List.mem_filterMap.mp hx
      obtain ⟨p, hp, rfl⟩ := Option.map_eq_some_iff.mp hr
      exact ⟨rfl, p, List.mem_of_getElem? hp, rfl⟩
  · rintro ⟨rfl, p, hp, rfl⟩
    exact ⟨_, List.mem_append_left _ (List.mem_map_of_mem hp), rfl, rfl⟩

namespace Model

variable (b : Model BoundExpr) {i j : Nat}

theorem mem_edges {x : Edge} :
    x ∈ b.toGraph.edges ↔ ∃ (k : Nat) (e : Entity BoundExpr), b.entities[k]? = some e ∧ x ∈ e.edges k := by
  simp only [toGraph, List.mem_eraseDups, List.mem_flatMap, Prod.exists, List.mem_zipIdx_iff_getElem?]
  exact exists_comm

theorem mem_toGraph_edges : (∃ x ∈ b.toGraph.edges, x.source = i ∧ x.target = j) ↔ j ∈ b.parentsOf i := by
  simp only [mem_edges]
  constructor
  · rintro ⟨x, ⟨k, e, he, hx⟩, hsource, htarget⟩
    obtain ⟨rfl, p, hp, hj⟩ := Entity.edges_target.mp ⟨x, hx, hsource, htarget⟩
    rw [parentsOf, he]
    exact List.mem_map.mpr ⟨p, hp, hj⟩
  · intro hj
    unfold parentsOf at hj
    split at hj
    · next e he =>
      obtain ⟨x, hx, hends⟩ := Entity.edges_target.mpr ⟨rfl, List.mem_map.mp hj⟩
      exact ⟨x, ⟨i, e, he, hx⟩, hends⟩
    · cases hj

theorem mem_dependencies : j ∈ b.toGraph.dependencies i ↔ j ∈ b.parentsOf i := by
  rw [← mem_toGraph_edges, Graph.dependencies, Sorted.mem_ofList fun _ _ => Nat.compare_eq_eq.mp]
  simp [and_assoc]

theorem mem_dependents : i ∈ b.toGraph.dependents j ↔ j ∈ b.parentsOf i := by
  rw [← mem_toGraph_edges, Graph.dependents, Sorted.mem_ofList fun _ _ => Nat.compare_eq_eq.mp]
  simp only [List.mem_map, List.mem_filter, beq_iff_eq]
  constructor
  · rintro ⟨x, ⟨hx, htarget⟩, hsource⟩
    exact ⟨x, hx, hsource, htarget⟩
  · rintro ⟨x, hx, hsource, htarget⟩
    exact ⟨x, ⟨hx, htarget⟩, hsource⟩

end Model

theorem Graph.dependencies_sorted (g : Graph) (i : Nat) : (g.dependencies i).Pairwise (· < ·) :=
  (Sorted.ofList_sorted _).imp fun h => Nat.compare_eq_lt.mp h

structure Drawn (options : Options) (d : Document) (m : Model SourceExpr) (b : Model BoundExpr) (g : Graph) : Prop where
  build : Model.build options d = .ok m
  resolve : m.resolve = .ok b
  graph : b.graph = .ok g

theorem Stages.drawn {options : Options} {d : Document} {m : Model SourceExpr} {b : Model BoundExpr} {g : Graph}
    {c : Model Compiled} {p : Plan} (hs : Stages options d m b g c p) : Drawn options d m b g :=
  ⟨hs.build, hs.resolve, hs.graph⟩

theorem Document.Declares.lt_left {d : Document} {i j : Nat} (h : d.Declares i j) : i < d.entities.length := by
  obtain ⟨e, -, he, -⟩ := h
  exact (List.getElem?_eq_some_iff.mp he).1

theorem Document.Declares.lt_right {d : Document} {i j : Nat} (h : d.Declares i j) : j < d.entities.length := by
  obtain ⟨-, f, -, hf, -⟩ := h
  exact (List.getElem?_eq_some_iff.mp hf).1

namespace Drawn

variable {options : Options} {d : Document} {m : Model SourceExpr} {b : Model BoundExpr} {g : Graph} {i j : Nat}
  {decl : EntityDecl}

theorem length_eq (h : Drawn options d m b g) : b.entities.length = d.entities.length :=
  (Model.resolve_length h.resolve).trans (Model.build_length h.build)

theorem names_nodup (h : Drawn options d m b g) : (b.entities.map Entity.name).Nodup := by
  rw [Model.resolve_names h.resolve]
  exact Model.build_names_nodup h.build

/-- The entity at a place has the name and the source that are declared there. -/
theorem entity (h : Drawn options d m b g) (hi : d.entities[i]? = some decl) :
    ∃ e, b.entities[i]? = some e ∧ e.name = decl.name ∧ e.source = decl.source := by
  obtain ⟨e, he, hcheck⟩ := Model.build_entity h.build hi
  obtain ⟨e', he', heq⟩ := Model.resolve_entity h.resolve he
  obtain ⟨hname, hsource, -⟩ := EntityDecl.check_eq_ok hcheck
  refine ⟨e', he', ?_, ?_⟩
  · rw [heq]; exact hname
  · rw [heq]; exact EntityDecl.checkSource_eq_ok hsource

/-- The parents of an entity are what its declaration declares. -/
theorem declared (h : Drawn options d m b g) {e : Entity BoundExpr} (he : b.entities[i]? = some e) :
    ∃ decl, d.entities[i]? = some decl ∧ decl.checkParents (d.entities.map EntityDecl.name) = .ok e.parents := by
  have hlt : i < m.entities.length := Model.resolve_length h.resolve ▸ (List.getElem?_eq_some_iff.mp he).1
  obtain ⟨decl, hdecl, hcheck⟩ := forall₂_getElem?_right (Model.build_decls h.build) (List.getElem?_eq_getElem hlt)
  obtain ⟨e', he', heq⟩ := Model.resolve_entity h.resolve (List.getElem?_eq_getElem hlt)
  obtain rfl := Option.some.inj (he.symm.trans he')
  refine ⟨decl, hdecl, ?_⟩
  rw [heq]
  exact (EntityDecl.check_eq_ok hcheck).2.2.1

theorem nameOf_eq (h : Drawn options d m b g) (hi : d.entities[i]? = some decl) : b.nameOf i = decl.name := by
  obtain ⟨e, he, hname, -⟩ := h.entity hi
  rw [Model.nameOf, he, ← hname]
  rfl

theorem map_nameOf (h : Drawn options d m b g) :
    (List.range d.entities.length).map b.nameOf = d.entities.map EntityDecl.name := by
  refine List.ext_getElem (by simp) fun i hi hi' => ?_
  rw [List.length_map] at hi'
  simp [h.nameOf_eq (List.getElem?_eq_getElem hi')]

/-- A parent of an entity is the entity at the place that it gives. -/
theorem parent_entity (h : Drawn options d m b g) {e : Entity BoundExpr} (he : b.entities[i]? = some e) {p : Parent}
    (hp : p ∈ e.parents) : ∃ parent, b.entities[p.entity]? = some parent ∧ parent.name = p.name := by
  obtain ⟨decl, hdecl, hcheck⟩ := h.declared he
  have hall := EntityDecl.checkParents_eq_ok hcheck
  obtain ⟨q, -, hidx, hname, -⟩ := forall₂_mem_right hall hp
  obtain ⟨f, hf, hfname⟩ := (Model.findIdx?_decls (Model.build_decls_nodup h.build)).mp hidx
  obtain ⟨parent, hparent, hpname, -⟩ := h.entity hf
  exact ⟨parent, hparent, hpname.trans (hfname.trans hname.symm)⟩

theorem parents_nodup (h : Drawn options d m b g) {e : Entity BoundExpr} (he : b.entities[i]? = some e) :
    (e.parents.map Parent.entity).Nodup := by
  obtain ⟨decl, -, hcheck⟩ := h.declared he
  exact EntityDecl.checkParents_nodup hcheck

theorem hasSource_iff (h : Drawn options d m b g) : b.hasSource i = true ↔ d.IsSourced i := by
  unfold Model.hasSource Document.IsSourced
  cases hi : d.entities[i]? with
  | none =>
    have hb : b.entities[i]? = none := by
      rw [List.getElem?_eq_none_iff, h.length_eq]
      exact List.getElem?_eq_none_iff.mp hi
    simp [hb]
  | some decl =>
    obtain ⟨e, he, -, hsource⟩ := h.entity hi
    simp [he, hsource]

theorem mem_dependencies (h : Drawn options d m b g) : j ∈ g.dependencies i ↔ d.Declares i j := by
  rw [Model.graph_eq_ok h.graph, Model.mem_dependencies, Model.resolve_parentsOf h.resolve, Model.mem_parentsOf h.build]

theorem mem_dependents (h : Drawn options d m b g) : i ∈ g.dependents j ↔ d.Declares i j := by
  rw [Model.graph_eq_ok h.graph, Model.mem_dependents, Model.resolve_parentsOf h.resolve, Model.mem_parentsOf h.build]

theorem nodes_length (h : Drawn options d m b g) : g.nodes.length = d.entities.length := by
  rw [Model.graph_eq_ok h.graph, Model.toGraph, List.length_map, h.length_eq]

theorem adjacency_length (h : Drawn options d m b g) : g.adjacency.length = d.entities.length := by
  rw [← h.nodes_length]
  simp [Graph.adjacency]

theorem adjacency_getElem? (h : Drawn options d m b g) (hi : i < d.entities.length) :
    g.adjacency[i]? = some (g.dependencies i) := by
  have hlt : i < g.nodes.length := h.nodes_length ▸ hi
  simp [Graph.adjacency, hlt]

/-- In the adjacency of the graph an entity leads to its declared parents. -/
theorem leads_iff (h : Drawn options d m b g) : Schedule.Leads g.adjacency i j ↔ d.Declares i j := by
  unfold Schedule.Leads Schedule.needsOf
  rw [List.mem_filter, decide_eq_true_iff, h.adjacency_length]
  constructor
  · rintro ⟨hmem, -⟩
    by_cases hi : i < d.entities.length
    · rw [h.adjacency_getElem? hi] at hmem
      exact h.mem_dependencies.mp hmem
    · rw [List.getElem?_eq_none (by rw [h.adjacency_length]; omega)] at hmem
      cases hmem
  · intro hij
    rw [h.adjacency_getElem? hij.lt_left]
    exact ⟨h.mem_dependencies.mpr hij, hij.lt_right⟩

end Drawn

end Tributary
