import Tributary.Plan.Build
import Tributary.Proofs.Expr.Compiles
import Tributary.Proofs.Model.Names
import Tributary.Proofs.Schedule.Loop
import Tributary.Proofs.Scope.References

/-!
# The stages of a compilation

A document that compiles has gone through all stages, and every entity and attribute of its plan can be followed
back through them.

* `Stages` : what each stage gave;
* `EntityStages`, `AttrStages` : an entity, and one of its attributes, after each stage;
* `Stages.of_compile` : every plan has its stages;
* `Stages.mem_entities`, `Stages.entity?_name` : the entities of the plan are those of the model;
* `EntityStages.attr` : an attribute of the model after each stage;
* `EntityStages.planned_attr`, `EntityStages.planned_names` : the attributes of the plan are those of the model;
* `Model.resolveAttr_inScope` : an attribute refers to what is in its scope;
* `AttrStages.compiles`, `AttrStages.declared_expr` : the expression of an attribute is related to its node;
* `AttrStages.bound_expr` : the expression of an attribute as it is bound and as it is compiled;
* `EntityStages.matched` : its names are bound to parents as its types know them.
-/

namespace Tributary

structure Stages (options : Options) (d : Document) (m : Model SourceExpr) (b : Model BoundExpr) (g : Graph)
    (c : Model Compiled) (p : Plan) : Prop where
  build : Model.build options d = .ok m
  resolve : m.resolve = .ok b
  graph : b.graph = .ok g
  validate : b.validate g options = .ok ()
  compile : b.compile options = .ok c
  plan : b.plan g c = .ok p

/-- The entity at place `i` as it is declared, with its names bound, and compiled. -/
structure EntityStages (options : Options) (m : Model SourceExpr) (b : Model BoundExpr) (c : Model Compiled)
    (i : Nat) (e : Entity SourceExpr) (e' : Entity BoundExpr) (e'' : Entity Compiled) : Prop where
  declared : m.entities[i]? = some e
  bound : b.entities[i]? = some e'
  compiled : c.entities[i]? = some e''
  resolve : m.resolveEntity e i = .ok e'
  compile : b.compileEntity options e' i = .ok e''

/-- The attribute in slot `j` as it is declared, with its names bound, and compiled. -/
structure AttrStages (options : Options) (m : Model SourceExpr) (b : Model BoundExpr) (i j : Nat)
    (e : Entity SourceExpr) (e' : Entity BoundExpr) (e'' : Entity Compiled) (a : Attribute SourceExpr)
    (a' : Attribute BoundExpr) (a'' : Attribute Compiled) : Prop where
  declared : e.attributes[j]? = some a
  bound : e'.attributes[j]? = some a'
  compiled : e''.attributes[j]? = some a''
  resolve : m.resolveAttr (m.visibleParams i) e a j = .ok a'
  compile : b.compileAttr options (b.visibleParams i) e' a' = .ok a''

variable {options : Options} {d : Document} {m : Model SourceExpr} {b : Model BoundExpr} {g : Graph}
  {c : Model Compiled} {p : Plan}

theorem Stages.of_compile (h : Plan.compile options d = .ok p) : ∃ m b g c, Stages options d m b g c p := by
  obtain ⟨m, hm, h⟩ := bind_eq_ok.mp h
  obtain ⟨b, hb, h⟩ := bind_eq_ok.mp h
  obtain ⟨g, hg, h⟩ := bind_eq_ok.mp h
  obtain ⟨⟨⟩, hv, h⟩ := bind_eq_ok.mp h
  obtain ⟨c, hc, h⟩ := bind_eq_ok.mp h
  exact ⟨m, b, g, c, hm, hb, hg, hv, hc, h⟩

theorem Stages.compile_eq (hs : Stages options d m b g c p) : Plan.compile options d = .ok p := by
  refine bind_eq_ok.mpr ⟨m, hs.build, bind_eq_ok.mpr ⟨b, hs.resolve, bind_eq_ok.mpr ⟨g, hs.graph, ?_⟩⟩⟩
  exact bind_eq_ok.mpr ⟨(), hs.validate, bind_eq_ok.mpr ⟨c, hs.compile, hs.plan⟩⟩

theorem Stages.of_build (hm : Model.build options d = .ok m) (h : Plan.compile options d = .ok p) :
    ∃ b g c, Stages options d m b g c p := by
  obtain ⟨m', b, g, c, hs⟩ := Stages.of_compile h
  obtain rfl : m = m' := Except.ok.inj (hm.symm.trans hs.build)
  exact ⟨b, g, c, hs⟩

theorem Stages.of_resolve (hm : Model.build options d = .ok m) (hb : m.resolve = .ok b)
    (h : Plan.compile options d = .ok p) : ∃ g c, Stages options d m b g c p := by
  obtain ⟨b', g, c, hs⟩ := Stages.of_build hm h
  obtain rfl : b = b' := Except.ok.inj (hb.symm.trans hs.resolve)
  exact ⟨g, c, hs⟩

/-! ## Binding -/

theorem Model.resolve_eq_ok (h : m.resolve = .ok b) :
    b.sources = m.sources ∧ b.endpoints = m.endpoints ∧
      Checked.each (fun q => m.resolveEntity q.1 q.2) m.entities.zipIdx = .ok b.entities := by
  obtain ⟨entities, hall, rfl⟩ := map_eq_ok.mp h
  exact ⟨rfl, rfl, hall⟩

theorem Model.resolve_index (h : m.resolve = .ok b) : b.index = m.index := by
  obtain ⟨entities, -, rfl⟩ := map_eq_ok.mp h
  rfl

theorem Model.resolveEntity_eq_ok {e : Entity SourceExpr} {e' : Entity BoundExpr} {i : Nat}
    (h : m.resolveEntity e i = .ok e') :
    e' = { e with attributes := e'.attributes } ∧
      Checked.each (fun q => m.resolveAttr (m.visibleParams i) e q.1 q.2) e.attributes.zipIdx =
        .ok e'.attributes := by
  obtain ⟨attributes, hall, rfl⟩ := map_eq_ok.mp h
  exact ⟨rfl, hall⟩

theorem Model.resolve_names (h : m.resolve = .ok b) : b.entities.map Entity.name = m.entities.map Entity.name := by
  have hall := Checked.each_eq_ok.mp (Model.resolve_eq_ok h).2.2
  have hnames : b.entities.map Entity.name = m.entities.zipIdx.map (Entity.name ∘ Prod.fst) :=
    forall₂_map_eq hall fun _ _ h => by rw [(Model.resolveEntity_eq_ok h).1]; rfl
  rw [hnames, ← List.map_map, List.zipIdx_map_fst]

theorem Model.resolve_length (h : m.resolve = .ok b) : b.entities.length = m.entities.length := by
  simpa using Checked.each_length (Model.resolve_eq_ok h).2.2

/-- Binding leaves everything of an entity but its expressions. -/
theorem Model.resolve_entity (h : m.resolve = .ok b) {i : Nat} {e : Entity SourceExpr} (he : m.entities[i]? = some e) :
    ∃ e', b.entities[i]? = some e' ∧ e' = { e with attributes := e'.attributes } := by
  obtain ⟨e', he', hr⟩ := Checked.each_getElem? (Model.resolve_eq_ok h).2.2
    (i := i) (a := (e, i)) (by simp [List.getElem?_zipIdx, he])
  exact ⟨e', he', (Model.resolveEntity_eq_ok hr).1⟩

theorem Model.resolve_none (h : m.resolve = .ok b) {i : Nat} (hi : m.entities[i]? = none) : b.entities[i]? = none := by
  rw [List.getElem?_eq_none_iff, Model.resolve_length h]
  exact List.getElem?_eq_none_iff.mp hi

theorem Model.resolve_parentsOf (h : m.resolve = .ok b) (i : Nat) : b.parentsOf i = m.parentsOf i := by
  unfold parentsOf
  cases hi : m.entities[i]? with
  | none => rw [Model.resolve_none h hi]
  | some e =>
    obtain ⟨e', he', heq⟩ := Model.resolve_entity h hi
    rw [he', heq]

theorem Model.resolve_source (h : m.resolve = .ok b) (i : Nat) :
    (b.entities[i]?).bind Entity.source = (m.entities[i]?).bind Entity.source := by
  cases hi : m.entities[i]? with
  | none => rw [Model.resolve_none h hi]; rfl
  | some e =>
    obtain ⟨e', he', heq⟩ := Model.resolve_entity h hi
    rw [he', heq]
    rfl

/-- Binding changes nothing that decides which parameters an entity sees. -/
theorem Model.resolve_visibleParams (h : m.resolve = .ok b) (i : Nat) :
    b.visibleParams i = m.visibleParams i := by
  obtain ⟨hsources, hendpoints, -⟩ := Model.resolve_eq_ok h
  have hparams : b.sourceParams = m.sourceParams := by
    funext k
    unfold Model.sourceParams
    rw [Model.resolve_source h, show b.source? = m.source? from funext fun n => by rw [Model.source?, hsources]; rfl]
  have hancestors : b.ancestors i = m.ancestors i := by
    unfold Model.ancestors
    rw [Model.resolve_length h, show b.parentsOf = m.parentsOf from funext (Model.resolve_parentsOf h)]
  have hexposing : b.endpointsOf i = m.endpointsOf i := by rw [Model.endpointsOf, hendpoints]; rfl
  unfold Model.visibleParams Model.reachableParams
  rw [hparams, hancestors, hexposing]

theorem Model.compileEntity_eq_ok {e : Entity BoundExpr} {e' : Entity Compiled} {i : Nat}
    (h : b.compileEntity options e i = .ok e') :
    e' = { e with attributes := e'.attributes } ∧
      Checked.each (b.compileAttr options (b.visibleParams i) e) e.attributes = .ok e'.attributes := by
  obtain ⟨attributes, hall, rfl⟩ := map_eq_ok.mp h
  exact ⟨rfl, hall⟩

/-- Binding leaves everything of an attribute but its expression. -/
theorem Model.resolveAttr_eq_ok {params : List Param} {e : Entity SourceExpr} {a : Attribute SourceExpr}
    {a' : Attribute BoundExpr} {j : Nat} (h : m.resolveAttr params e a j = .ok a') :
    a'.name = a.name ∧ a'.ty = a.ty ∧ a'.span = a.span ∧ a'.expr.isSome = a.expr.isSome := by
  unfold Model.resolveAttr at h
  split at h
  · next hx => cases h; exact ⟨rfl, rfl, rfl, by rw [hx]; rfl⟩
  · next hx =>
    obtain ⟨_, -, rfl⟩ := map_eq_ok.mp h
    exact ⟨rfl, rfl, rfl, by rw [hx]; rfl⟩

/-- Compiling leaves everything of an attribute but its expression. -/
theorem Model.compileAttr_eq_ok {params : List Param} {e : Entity BoundExpr} {a : Attribute BoundExpr}
    {a' : Attribute Compiled} (h : b.compileAttr options params e a = .ok a') :
    a'.name = a.name ∧ a'.ty = a.ty ∧ a'.span = a.span ∧ a'.expr.isSome = a.expr.isSome := by
  unfold Model.compileAttr at h
  split at h
  · next hx => cases h; exact ⟨rfl, rfl, rfl, by rw [hx]; rfl⟩
  · next hx =>
    obtain ⟨-, rfl⟩ := Checked.report_eq_ok.mp h
    exact ⟨rfl, rfl, rfl, by rw [hx]; rfl⟩

/-! ## Entities -/

theorem Stages.entity (hs : Stages options d m b g c p) {i : Nat} {e : Entity SourceExpr}
    (he : m.entities[i]? = some e) : ∃ e' e'', EntityStages options m b c i e e' e'' := by
  obtain ⟨entities, hall, hc⟩ := map_eq_ok.mp hs.compile
  have hcomp : c.entities = entities := by rw [← hc]
  obtain ⟨e', he', hr⟩ := Checked.each_getElem? (Model.resolve_eq_ok hs.resolve).2.2
    (i := i) (a := (e, i)) (by simp [List.getElem?_zipIdx, he])
  obtain ⟨e'', he'', hce⟩ := Checked.each_getElem? hall (i := i) (a := (e', i))
    (by simp [List.getElem?_zipIdx, he'])
  exact ⟨e', e'', he, he', hcomp ▸ he'', hr, hce⟩

theorem Stages.entity_of_bound (hs : Stages options d m b g c p) {i : Nat} {e' : Entity BoundExpr}
    (he' : b.entities[i]? = some e') : ∃ e e'', EntityStages options m b c i e e' e'' := by
  obtain ⟨hi, -⟩ := List.getElem?_eq_some_iff.mp he'
  have hi' : i < m.entities.length := Model.resolve_length hs.resolve ▸ hi
  obtain ⟨e₁, e'', hstages⟩ := hs.entity (List.getElem?_eq_getElem hi')
  obtain rfl : e' = e₁ := Option.some.inj (he'.symm.trans hstages.bound)
  exact ⟨_, e'', hstages⟩

theorem EntityStages.name_eq {i : Nat} {e : Entity SourceExpr} {e' : Entity BoundExpr} {e'' : Entity Compiled}
    (h : EntityStages options m b c i e e' e'') : e'.name = e.name := by
  rw [(Model.resolveEntity_eq_ok h.resolve).1]

theorem EntityStages.parents_eq {i : Nat} {e : Entity SourceExpr} {e' : Entity BoundExpr} {e'' : Entity Compiled}
    (h : EntityStages options m b c i e e' e'') : e'.parents = e.parents := by
  rw [(Model.resolveEntity_eq_ok h.resolve).1]

theorem Stages.visibleParams_eq (hs : Stages options d m b g c p) (i : Nat) :
    b.visibleParams i = m.visibleParams i :=
  Model.resolve_visibleParams hs.resolve i

/-! ## The plan -/

/-- A plan lists the entities in the order of a schedule. -/
theorem Stages.plan_entities (hs : Stages options d m b g c p) :
    ∃ order, Schedule.solve g.adjacency = .order order ∧ p.graph = g ∧
      p.entities = order.filterMap fun i =>
        (b.entities[i]?).bind fun e => (c.entities[i]?).bind fun e' => some (b.entityPlan g order e e' i) := by
  have h := hs.plan
  unfold Model.plan at h
  split at h
  · cases h
  · next order ho => cases h; exact ⟨order, ho, rfl, rfl⟩

theorem Stages.plan_graph (hs : Stages options d m b g c p) : p.graph = g := by
  obtain ⟨-, -, hg, -⟩ := hs.plan_entities
  exact hg

theorem Model.graph_eq_ok (h : b.graph = .ok g) : g = b.toGraph := (Checked.report_eq_ok.mp h).2.symm

theorem Stages.length_adjacency (hs : Stages options d m b g c p) :
    g.adjacency.length = m.entities.length := by
  rw [Model.graph_eq_ok hs.graph, ← Model.resolve_length hs.resolve]
  simp [Graph.adjacency, Model.toGraph]

/-- An entity of the plan is one of the model, and the graph orders its attributes. -/
theorem Stages.mem_entities (hs : Stages options d m b g c p) {q : EntityPlan} (hq : q ∈ p.entities) :
    ∃ i e e' e'' order, EntityStages options m b c i e e' e'' ∧ q = b.entityPlan g order e' e'' i := by
  obtain ⟨order, -, -, hp⟩ := hs.plan_entities
  rw [hp, List.mem_filterMap] at hq
  obtain ⟨i, -, hi⟩ := hq
  obtain ⟨e', he', hi⟩ := Option.bind_eq_some_iff.mp hi
  obtain ⟨e'', he'', hi⟩ := Option.bind_eq_some_iff.mp hi
  obtain ⟨e, e₁, hstages⟩ := hs.entity_of_bound he'
  obtain rfl : e'' = e₁ := Option.some.inj (he''.symm.trans hstages.compiled)
  exact ⟨i, e, e', e'', order, hstages, (Option.some.inj hi).symm⟩

theorem Stages.names_nodup (hs : Stages options d m b g c p) : (b.entities.map Entity.name).Nodup := by
  rw [Model.resolve_names hs.resolve]
  exact Model.build_names_nodup hs.build

/-- Every entity of the model is found in the plan by its name. -/
theorem Stages.entity?_name (hs : Stages options d m b g c p) {i : Nat} {e : Entity SourceExpr}
    {e' : Entity BoundExpr} {e'' : Entity Compiled} (h : EntityStages options m b c i e e' e'') :
    ∃ order, p.entity? e.name = some (b.entityPlan g order e' e'' i) := by
  obtain ⟨order, ho, -, hp⟩ := hs.plan_entities
  have hperm := (Schedule.solve_eq_order ho).2
  obtain ⟨hi, -⟩ := List.getElem?_eq_some_iff.mp h.declared
  have hmem : b.entityPlan g order e' e'' i ∈ p.entities := by
    rw [hp, List.mem_filterMap]
    refine ⟨i, hperm.mem_iff.mpr (List.mem_range.mpr (hs.length_adjacency ▸ hi)), ?_⟩
    rw [h.bound, h.compiled]
    rfl
  refine ⟨order, ?_⟩
  cases hf : p.entity? e.name with
  | none =>
    have := List.find?_eq_none.mp hf _ hmem
    simp [Model.entityPlan, h.name_eq] at this
  | some q =>
    have hq := List.mem_of_find?_eq_some hf
    have hname : q.name = e.name := by simpa using List.find?_some hf
    rw [hp, List.mem_filterMap] at hq
    obtain ⟨k, -, hk⟩ := hq
    obtain ⟨e₁, he₁, hk⟩ := Option.bind_eq_some_iff.mp hk
    obtain ⟨e₂, he₂, hk⟩ := Option.bind_eq_some_iff.mp hk
    obtain rfl := Option.some.inj hk
    have hki : k = i := place_eq_of_key_eq hs.names_nodup he₁ h.bound (hname.trans h.name_eq.symm)
    subst hki
    obtain rfl := Option.some.inj (he₁.symm.trans h.bound)
    obtain rfl := Option.some.inj (he₂.symm.trans h.compiled)
    rfl

/-! ## Attributes -/

section Attributes
variable {i : Nat} {e : Entity SourceExpr} {e' : Entity BoundExpr} {e'' : Entity Compiled}

theorem EntityStages.attr (h : EntityStages options m b c i e e' e'') {j : Nat} {a : Attribute SourceExpr}
    (ha : e.attributes[j]? = some a) : ∃ a' a'', AttrStages options m b i j e e' e'' a a' a'' := by
  obtain ⟨a', ha', hr⟩ := Checked.each_getElem? (Model.resolveEntity_eq_ok h.resolve).2
    (i := j) (a := (a, j)) (by simp [List.getElem?_zipIdx, ha])
  obtain ⟨a'', ha'', hc⟩ := Checked.each_getElem? (Model.compileEntity_eq_ok h.compile).2 ha'
  exact ⟨a', a'', ha, ha', ha'', hr, hc⟩

theorem EntityStages.length_bound (h : EntityStages options m b c i e e' e'') :
    e'.attributes.length = e.attributes.length := by
  simpa using Checked.each_length (Model.resolveEntity_eq_ok h.resolve).2

theorem EntityStages.attr_of_bound (h : EntityStages options m b c i e e' e'') {j : Nat} {a' : Attribute BoundExpr}
    (ha' : e'.attributes[j]? = some a') : ∃ a a'', AttrStages options m b i j e e' e'' a a' a'' := by
  obtain ⟨hj, -⟩ := List.getElem?_eq_some_iff.mp ha'
  have hj' : j < e.attributes.length := h.length_bound ▸ hj
  obtain ⟨a₁, a'', hattr⟩ := h.attr (List.getElem?_eq_getElem hj')
  obtain rfl : a' = a₁ := Option.some.inj (ha'.symm.trans hattr.bound)
  exact ⟨_, a'', hattr⟩

theorem EntityStages.length_compiled (h : EntityStages options m b c i e e' e'') :
    e''.attributes.length = e.attributes.length := by
  rw [← h.length_bound]
  exact Checked.each_length (Model.compileEntity_eq_ok h.compile).2

theorem EntityStages.length_planned (h : EntityStages options m b c i e e' e'') (order : List Nat) :
    (b.entityPlan g order e' e'' i).attributes.length = e.attributes.length := by
  simp [Model.entityPlan, h.length_bound, h.length_compiled]

theorem AttrStages.planned {j : Nat} {a : Attribute SourceExpr} {a' : Attribute BoundExpr}
    {a'' : Attribute Compiled} (h : AttrStages options m b i j e e' e'' a a' a'') (order : List Nat) :
    (b.entityPlan g order e' e'' i).attributes[j]? = some (e'.attributePlan a' a'') := by
  simp [Model.entityPlan, List.getElem?_zipWith, h.bound, h.compiled]

theorem AttrStages.name_eq {j : Nat} {a : Attribute SourceExpr} {a' : Attribute BoundExpr}
    {a'' : Attribute Compiled} (h : AttrStages options m b i j e e' e'' a a' a'') :
    (e'.attributePlan a' a'').name = a.name :=
  (Model.resolveAttr_eq_ok h.resolve).1

/-- The attribute in a slot of the plan is that of the model, after all stages. -/
theorem EntityStages.planned_attr (h : EntityStages options m b c i e e' e'') {order : List Nat} {j : Nat}
    {q : AttributePlan} (hq : (b.entityPlan g order e' e'' i).attributes[j]? = some q) :
    ∃ a a' a'', AttrStages options m b i j e e' e'' a a' a'' ∧ q = e'.attributePlan a' a'' := by
  have hj : j < e.attributes.length := h.length_planned order ▸ (List.getElem?_eq_some_iff.mp hq).1
  obtain ⟨a', a'', hs⟩ := h.attr (List.getElem?_eq_getElem hj)
  exact ⟨_, a', a'', hs, Option.some.inj (hq.symm.trans (hs.planned order))⟩

/-- The slots of the plan have the names of the declared attributes. -/
theorem EntityStages.planned_names (h : EntityStages options m b c i e e' e'') (order : List Nat) :
    (b.entityPlan g order e' e'' i).attributes.map AttributePlan.name = e.attributes.map Attribute.name := by
  refine List.ext_getElem? fun j => ?_
  rw [List.getElem?_map, List.getElem?_map]
  cases ha : e.attributes[j]? with
  | none =>
    have hj : (b.entityPlan g order e' e'' i).attributes[j]? = none := by
      rw [List.getElem?_eq_none_iff, h.length_planned]
      exact List.getElem?_eq_none_iff.mp ha
    rw [hj]
    rfl
  | some a =>
    obtain ⟨a', a'', hs⟩ := h.attr ha
    rw [hs.planned order]
    exact congrArg some hs.name_eq

end Attributes

/-! ## Expressions -/

/-- The names that the expression of the attribute in slot `j` of the entity at place `i` may use. -/
def Model.attrScope {ε : Type} (m : Model ε) (e : Entity ε) (i : Nat) (a : Attribute ε) (j : Nat) : Scope :=
  { place := a.place e.name
    attrs := e.attributes.map Attribute.name
    current := j
    parents := e.parents.map m.parentNames
    params := (m.visibleParams i).map Param.name }

/-- What an attribute refers to is in its scope. -/
theorem Model.resolveAttr_inScope {e : Entity SourceExpr} {a : Attribute SourceExpr} {a' : Attribute BoundExpr}
    {i j : Nat} (h : m.resolveAttr (m.visibleParams i) e a j = .ok a') :
    a'.references.InScope (m.attrScope e i a j) := by
  unfold Model.resolveAttr at h
  split at h
  · cases h
    exact ⟨by simp [Attribute.references], by simp [Attribute.references], by simp [Attribute.references],
      by simp [Attribute.references]⟩
  · obtain ⟨y, hy, rfl⟩ := map_eq_ok.mp h
    exact bind_inScope hy

theorem typeEnv_fits {params : List Param} {e : Entity SourceExpr} {e' : Entity BoundExpr}
    {a : Attribute SourceExpr} {a' : Attribute BoundExpr} {i j : Nat} (h : e'.parents = e.parents) :
    (b.typeEnv options params e' a').Fits (m.attrScope e i a j) := by
  intro slot
  simp only [TypeEnv.isSingle, Model.typeEnv, Model.attrScope, h, List.getElem?_map]
  cases e.parents[slot]? <;> rfl

/-- The expression of a computed attribute is bound under its scope, and compiles to what the plan keeps. -/
theorem AttrStages.compiles {i j : Nat} {e : Entity SourceExpr} {e' : Entity BoundExpr} {e'' : Entity Compiled}
    {a : Attribute SourceExpr} {a' : Attribute BoundExpr} {a'' : Attribute Compiled}
    (he : EntityStages options m b c i e e' e'') (h : AttrStages options m b i j e e' e'' a a' a'')
    {x : SourceExpr} (hx : a.expr = some x) :
    ∃ r, a''.expr = some r ∧ Compiles (m.attrScope e i a j) [] x r.root := by
  have hr := h.resolve
  simp only [Model.resolveAttr, hx] at hr
  obtain ⟨y, hy, rfl⟩ := map_eq_ok.mp hr
  have hc := h.compile
  simp only [Model.compileAttr] at hc
  obtain ⟨hfaults, rfl⟩ := Checked.report_eq_ok.mp hc
  exact ⟨_, rfl, compiles_of_bind (typeEnv_fits he.parents_eq) x [] [] y hy (List.append_eq_nil_iff.mp hfaults).1⟩

/-- What the plan keeps for an attribute comes from its declared expression. -/
theorem AttrStages.declared_expr {i j : Nat} {e : Entity SourceExpr} {e' : Entity BoundExpr} {e'' : Entity Compiled}
    {a : Attribute SourceExpr} {a' : Attribute BoundExpr} {a'' : Attribute Compiled}
    (he : EntityStages options m b c i e e' e'') (h : AttrStages options m b i j e e' e'' a a' a'')
    {r : Compiled} (hr : a''.expr = some r) :
    ∃ x, a.expr = some x ∧ Compiles (m.attrScope e i a j) [] x r.root := by
  obtain ⟨-, -, -, hbound⟩ := Model.resolveAttr_eq_ok h.resolve
  obtain ⟨-, -, -, hcompiled⟩ := Model.compileAttr_eq_ok h.compile
  have hsome : a.expr.isSome = true := by rw [← hbound, ← hcompiled, hr]; rfl
  obtain ⟨x, hx⟩ := Option.isSome_iff_exists.mp hsome
  obtain ⟨r', hr', hcompiles⟩ := h.compiles he hx
  obtain rfl := Option.some.inj (hr.symm.trans hr')
  exact ⟨x, hx, hcompiles⟩

/-- The expression of an attribute as it is bound, and what it compiles to without a fault. -/
theorem AttrStages.bound_expr {i j : Nat} {e : Entity SourceExpr} {e' : Entity BoundExpr} {e'' : Entity Compiled}
    {a : Attribute SourceExpr} {a' : Attribute BoundExpr} {a'' : Attribute Compiled}
    (h : AttrStages options m b i j e e' e'' a a' a'') {y : BoundExpr} (hy : a'.expr = some y) :
    (∃ x, a.expr = some x ∧ (m.attrScope e i a j).bind [] x = .ok y) ∧
      let typed := (b.typeEnv options (b.visibleParams i) e' a').compile [] y
      typed.faults = [] ∧ a''.expr = some { root := typed.node, ty := typed.ty } := by
  constructor
  · have hr := h.resolve
    unfold Model.resolveAttr at hr
    split at hr
    · cases hr
      cases hy
    · next x hx =>
      obtain ⟨y', hy', rfl⟩ := map_eq_ok.mp hr
      obtain rfl := Option.some.inj hy
      exact ⟨x, hx, hy'⟩
  · have hc := h.compile
    simp only [Model.compileAttr, hy] at hc
    obtain ⟨hfaults, rfl⟩ := Checked.report_eq_ok.mp hc
    exact ⟨(List.append_eq_nil_iff.mp hfaults).1, rfl⟩

/-- In an expression that was bound under a scope with the parents of an entity, names of parents stand for those. -/
theorem Model.matched_of_parents {s : Scope} {L : List String} {e : Entity BoundExpr} {a : Attribute BoundExpr}
    {params : List Param} {x : SourceExpr} {y : BoundExpr} (hbind : s.bind L x = .ok y)
    (hparents : s.parents = e.parents.map m.parentNames) : (b.typeEnv options params e a).Matched y.nodes := by
  refine matched_of_bind hbind fun slot q hq => ?_
  rw [hparents, List.getElem?_map] at hq
  obtain ⟨parent, hparent, rfl⟩ := Option.map_eq_some_iff.mp hq
  refine ⟨b.parentTypesOf parent, ?_, rfl⟩
  rw [Model.typeEnv, List.getElem?_map, hparent]
  rfl

theorem EntityStages.matched {i j : Nat} {e : Entity SourceExpr} {e' : Entity BoundExpr} {e'' : Entity Compiled}
    {a : Attribute SourceExpr} {a' : Attribute BoundExpr} (h : EntityStages options m b c i e e' e'')
    {params : List Param} {x : SourceExpr} {y : BoundExpr} (hbind : (m.attrScope e i a j).bind [] x = .ok y) :
    (b.typeEnv options params e' a').Matched y.nodes :=
  Model.matched_of_parents hbind (by rw [h.parents_eq]; rfl)

end Tributary
