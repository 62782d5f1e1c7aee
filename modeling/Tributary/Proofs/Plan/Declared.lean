import Tributary.Proofs.Plan.Order

/-!
# What a plan keeps of a declaration

* `EntityPlan.Keeps p decl` : the entity of a plan has the names, keys and operations that are declared;
* `EntityPlan.Supplies p field` : records supply the field;
* `EntityStages.supplies_iff` : these are the fields that the rules ask for;
* `EntityStages.keeps` : every entity of a plan keeps a declaration.
-/

namespace Tributary

namespace EntityPlan

/-- The entity of a plan has the names, keys and operations that are declared. -/
structure Keeps (p : EntityPlan) (decl : EntityDecl) : Prop where
  name : p.name = decl.name
  source : p.source = decl.source
  identityField : p.identityField = decl.identityField
  exposure : p.exposure = { decl.exposure with operations := Operation.normalize decl.exposure.operations }
  parents : p.parents.map ParentSlot.name = decl.parents.map ParentDecl.entity
  attributes : p.attributes.map (fun a => (a.name, a.compiled.isSome)) =
    decl.attributes.map fun a => (a.name, a.expr.isSome)

def Supplies (p : EntityPlan) (field : String) : Prop := ∃ a, p.attr? field = some a ∧ a.compiled = none

end EntityPlan

variable {options : Options} {d : Document} {m : Model SourceExpr} {b : Model BoundExpr} {g : Graph}
  {c : Model Compiled} {p : Plan} {i : Nat} {e : Entity SourceExpr} {e' : Entity BoundExpr} {e'' : Entity Compiled}

/-- The attributes of a plan are computed where those of the model are. -/
theorem EntityStages.planned_computed (h : EntityStages options m b c i e e' e'') (order : List Nat) :
    List.Forall₂ (fun a q => q.name = a.name ∧ q.compiled.isSome = a.expr.isSome) e'.attributes
      (b.entityPlan g order e' e'' i).attributes := by
  refine forall₂_zipWith (Checked.each_eq_ok.mp (Model.compileEntity_eq_ok h.compile).2) fun a a'' ha => ?_
  exact ⟨rfl, (Model.compileAttr_eq_ok ha).2.2.2⟩

/-- Binding leaves the names of attributes, and which of them are computed. -/
theorem EntityStages.bound_computed (h : EntityStages options m b c i e e' e'') :
    e'.attributes.map (fun a => (a.name, a.expr.isSome)) = e.attributes.map fun a => (a.name, a.expr.isSome) := by
  have hall := Checked.each_eq_ok.mp (Model.resolveEntity_eq_ok h.resolve).2
  have hmap := forall₂_map_eq hall (f := fun q => (q.1.name, q.1.expr.isSome)) (g := fun a => (a.name, a.expr.isSome))
    fun q a ha => by
      obtain ⟨hname, -, -, hsome⟩ := Model.resolveAttr_eq_ok ha
      rw [hname, hsome]
  rw [hmap, ← List.zipIdx_map_fst 0 e.attributes, List.map_map, List.zipIdx_map_fst]
  rfl

theorem EntityStages.supplies_iff (h : EntityStages options m b c i e e' e'') (order : List Nat) {field : String} :
    (b.entityPlan g order e' e'' i).Supplies field ↔ e'.isSchema field = true := by
  have hrel := forall₂_find? (h.planned_computed (g := g) order) (p := fun a => a.name == field)
    (q := fun a => a.name == field) fun a q hq => by rw [hq.1]
  unfold EntityPlan.Supplies EntityPlan.attr? Entity.isSchema Entity.attr?
  generalize e'.attributes.find? _ = x, (b.entityPlan g order e' e'' i).attributes.find? _ = y at hrel ⊢
  cases hrel with
  | none => simp
  | some hq => simp [Attribute.isComputed, ← hq.2]

theorem EntityStages.keeps (hs : Stages options d m b g c p) (h : EntityStages options m b c i e e' e'')
    (order : List Nat) : ∃ decl, d.entities[i]? = some decl ∧ (b.entityPlan g order e' e'' i).Keeps decl := by
  obtain ⟨decl, hdecl, hcheck⟩ := forall₂_getElem?_right (Model.build_decls hs.build) h.declared
  obtain ⟨hsource, hparents, hattrs, he⟩ := EntityDecl.check_iff.mp hcheck
  have hbound := (Model.resolveEntity_eq_ok h.resolve).1
  refine ⟨decl, hdecl, ?_, ?_, ?_, ?_, ?_, ?_⟩
  · show e'.name = _
    rw [hbound, he]
  · show e'.source = _
    rw [hbound]
    exact EntityDecl.checkSource_eq_ok hsource
  · show e'.identityField = _
    rw [hbound, he]
  · show e'.exposure = _
    rw [hbound, he]
  · show (e'.parents.map e'.parentSlot).map ParentSlot.name = _
    rw [List.map_map, h.parents_eq]
    exact forall₂_map_eq (EntityDecl.checkParents_eq_ok hparents) fun _ _ hq => hq.2.1
  · rw [forall₂_map_eq (h.planned_computed order) (f := fun a => (a.name, a.expr.isSome)) fun a q hq => by rw [hq.1, hq.2],
      h.bound_computed]
    refine forall₂_map_eq (EntityDecl.checkAttributes_eq_ok hattrs).2 fun a a' ha => ?_
    rw [ha.1, EntityDecl.checkExpr_isSome ha.2.2]

end Tributary
