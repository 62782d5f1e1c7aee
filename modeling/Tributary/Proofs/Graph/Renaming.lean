import Tributary.Proofs.Graph.Parents
import Tributary.Proofs.Model.Renaming
import Tributary.Rules

/-!
# Rules for entities at other places

No rule for an entity by itself depends on where the entity stands, and neither does what its attributes read.

* `Entity.role_rename`, `Entity.hasParents_rename` : an entity comes about in the same way;
* `Model.Renamed.entityRules` : an entity breaks the same rules;
* `Model.Renamed.graph` : the joins of a model keep their keys, so it has a graph;
* `Model.Renamed.attrEdges` : attributes read the same attributes.
-/

namespace Tributary

variable {ε : Type} {σ : Equiv.Perm Nat}

theorem Parent.collects?_rename (p : Parent) : (p.rename σ).collects? = p.collects? := rfl

theorem Entity.hasParents_rename (e : Entity ε) : (e.rename σ).hasParents = e.hasParents := by
  simp [Entity.hasParents, Entity.rename]

theorem Entity.role_rename (e : Entity ε) : (e.rename σ).role = e.role := by
  have hcollects : (e.rename σ).parents.any (fun p => p.collects?.isSome) =
      e.parents.any fun p => p.collects?.isSome := List.any_map
  unfold Entity.role
  rw [hcollects, e.hasParents_rename]

namespace Model.Renamed

variable {m m' : Model ε}

theorem joinProblems (h : m.Renamed σ m') (e : Entity ε) (p : Parent) :
    m'.joinProblems (e.rename σ) (p.rename σ) = m.joinProblems e p := by
  unfold Model.joinProblems
  rw [h.parentEntity?, p.collects?_rename]
  cases p.collects? <;> cases m.parentEntity? p <;> rfl

theorem singletonRule (h : m.Renamed σ m') (e : Entity ε) (i : Nat) :
    m'.singletonRule (e.rename σ) (σ i) = m.singletonRule e i := by
  unfold Model.singletonRule
  rw [h.endpointsOf, List.filterMap_map]
  rfl

theorem joinRule (h : m.Renamed σ m') (e : Entity ε) : m'.joinRule (e.rename σ) = m.joinRule e := by
  unfold Model.joinRule
  rw [show (e.rename σ).parents = e.parents.map (Parent.rename σ) from rfl, List.flatMap_map]
  refine List.flatMap_congr fun p _ => ?_
  rw [h.parentEntity?, p.collects?_rename]
  cases p.collects? <;> cases m.parentEntity? p <;> rfl

theorem parentTypes (h : m.Renamed σ m') (e : Entity ε) (attr : String) :
    m'.parentTypes (e.rename σ) attr = m.parentTypes e attr := by
  unfold Model.parentTypes
  rw [show (e.rename σ).parents = e.parents.map (Parent.rename σ) from rfl, List.filterMap_map]
  refine List.filterMap_congr fun p _ => ?_
  rw [Function.comp_apply, h.parentEntity?]
  cases m.parentEntity? p <;> rfl

theorem conflictRule (h : m.Renamed σ m') (e : Entity ε) : m'.conflictRule (e.rename σ) = m.conflictRule e := by
  unfold Model.conflictRule
  refine List.filterMap_congr fun a _ => ?_
  rw [h.parentTypes]
  rfl

/-- An entity breaks the same rules wherever it stands. -/
theorem entityRules (h : m.Renamed σ m') (e : Entity ε) (i : Nat) :
    m'.entityRules (e.rename σ) (σ i) = m.entityRules e i := by
  have hcomposite : (e.rename σ).compositeRule = e.compositeRule := by
    unfold Entity.compositeRule
    rw [e.hasParents_rename]
    rfl
  have hfilter : (e.rename σ).filterRule = e.filterRule := by
    unfold Entity.filterRule
    rw [e.hasParents_rename]
    rfl
  unfold Model.entityRules
  rw [h.singletonRule, h.joinRule, h.conflictRule, hcomposite, hfilter]
  rfl

theorem graph {b b' : Model BoundExpr} (h : b.Renamed σ b') {g : Graph} (hg : b.graph = .ok g) :
    b'.graph = .ok b'.toGraph := by
  have hnone := (Checked.report_eq_ok.mp hg).1
  refine Checked.report_eq_ok.mpr ⟨List.flatMap_eq_nil_iff.mpr fun e' he' => ?_, rfl⟩
  obtain ⟨j, hj⟩ := List.mem_iff_getElem?.mp he'
  obtain ⟨i, e, -, he, rfl⟩ := h.entities.exists_place hj
  have hproblems := List.map_eq_nil_iff.mp (List.flatMap_eq_nil_iff.mp hnone e (List.mem_of_getElem? he))
  refine List.map_eq_nil_iff.mpr ?_
  rw [show (e.rename σ).parents = e.parents.map (Parent.rename σ) from rfl, List.flatMap_map, ← hproblems]
  exact List.flatMap_congr fun p _ => h.joinProblems e p

theorem attrEdges {b b' : Model BoundExpr} (h : b.Renamed σ b') (i : Nat) :
    b'.toGraph.attrEdges[σ i]? = b.toGraph.attrEdges[i]? := by
  simp only [Model.toGraph, List.getElem?_map, h.entities i, Option.map_map]
  rfl

end Model.Renamed

end Tributary
