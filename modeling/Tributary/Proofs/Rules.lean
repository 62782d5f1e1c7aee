import Tributary.Proofs.Checked
import Tributary.Rules

/-!
# What passes the rules

A model passes the rules if each of them reports nothing. For each rule that later proofs need, what it means that it
reports nothing.

* `Model.Passes m e i` : none of the rules for an entity reports it; `Model.passes_of_validate` : so in a valid model;
* `Entity.mutationRule_eq_nil`, `Entity.compositeRule_eq_nil` : operations that write;
* `Entity.inputRule_eq_nil`, `Entity.filterRule_eq_nil` : fields that operations take, and filters;
* `Model.identityField_of_singletonRule`, `Model.joinRule_eq_nil`, `Model.joinProblems_eq_nil` : lists and joins.
-/

namespace Tributary

variable {ε : Type}

namespace Entity

variable {e : Entity ε}

theorem mutationRule_eq_nil :
    e.mutationRule = [] ↔ ∀ op ∈ e.exposure.operations, op.isMutation = true → e.source.isSome = true := by
  unfold mutationRule
  cases hs : e.source.isSome with
  | true => simp
  | false => simp [List.filter_eq_nil_iff]

theorem compositeRule_eq_nil :
    e.compositeRule = [] ↔ ∀ op ∈ e.exposure.operations, op.isDerivable = false → e.parents = [] := by
  unfold compositeRule hasParents
  cases hp : e.parents with
  | nil => simp
  | cons p ps => simp [List.filter_eq_nil_iff]

theorem filterRule_eq_nil :
    e.filterRule = [] ↔ ∀ field ∈ e.exposure.filters, e.parents = [] ∧ e.isSchema field = true := by
  rw [filterRule, List.filterMap_eq_nil_iff]
  refine forall₂_congr fun field _ => ?_
  unfold hasParents
  cases hp : e.parents with
  | nil => simp
  | cons p ps => simp

theorem inputRule_eq_nil {op : Operation} {fields : Option (List String)} :
    e.inputRule op fields = [] ↔
      ∀ field ∈ fields.getD [], e.isSchema field = true ∧ e.exposure.isReadonly field = false := by
  rw [inputRule, List.filterMap_eq_nil_iff]
  refine forall₂_congr fun field _ => ?_
  unfold isSchema
  cases ha : e.attr? field with
  | none => simp
  | some a => cases hc : a.isComputed <;> simp [hc]

end Entity

namespace Model

variable {m : Model ε} {e : Entity ε} {i : Nat}

/-- None of the rules for an entity by itself reports anything. -/
structure Passes (m : Model ε) (e : Entity ε) (i : Nat) : Prop where
  mutation : e.mutationRule = []
  composite : e.compositeRule = []
  singleton : m.singletonRule e i = []
  join : m.joinRule e = []
  filters : e.filterRule = []
  readonly : e.readonlyRule = []
  create : e.inputRule .create e.exposure.createFields = []
  update : e.inputRule .update e.exposure.updateFields = []
  conflict : m.conflictRule e = []
  identity : e.identityRule = []

theorem passes_of_validate {g : Graph} {options : Options} (h : m.validate g options = .ok ())
    (hi : m.entities[i]? = some e) : m.Passes e i := by
  have hnone := (Checked.report_eq_ok.mp h).1
  have hall := (List.append_eq_nil_iff.mp (List.append_eq_nil_iff.mp hnone).1).1
  have hrules := List.flatMap_eq_nil_iff.mp hall (e, i) (List.mem_zipIdx_iff_getElem?.mpr hi)
  simp only [entityRules, List.append_eq_nil_iff, and_assoc] at hrules
  obtain ⟨hmutation, hcomposite, hsingleton, hjoin, hfilters, hreadonly, hcreate, hupdate, hconflict, hidentity⟩ := hrules
  exact ⟨hmutation, hcomposite, hsingleton, hjoin, hfilters, hreadonly, hcreate, hupdate, hconflict, hidentity⟩

theorem identityField_of_singletonRule (h : m.singletonRule e i = []) (hlist : e.exposure.exposes .list = true) :
    e.identityField.isSome = true := by
  by_contra hnone
  have hsingle : e.isSingleton = true := by simpa [Entity.isSingleton] using hnone
  simp [singletonRule, hsingle, hlist] at h

theorem joinRule_eq_nil :
    m.joinRule e = [] ↔ ∀ p ∈ e.parents, ∀ join parent, p.collects? = some join → m.parentEntity? p = some parent →
      parent.exposure.exposes .list = true ∧ join.parentKey ∈ parent.exposure.filters := by
  rw [joinRule, List.flatMap_eq_nil_iff]
  refine forall₂_congr fun p _ => ?_
  cases hc : p.collects? with
  | none => simp
  | some join =>
    cases hq : m.parentEntity? p with
    | none => simp
    | some parent => simp

theorem joinProblems_eq_nil {p : Parent} {join : Join} {parent : Entity ε} (hc : p.collects? = some join)
    (hq : m.parentEntity? p = some parent) :
    m.joinProblems e p = [] ↔ parent.isSchema join.parentKey = true ∧
      ∃ key, e.localKey? join = some key ∧ e.isSchema key = true := by
  unfold joinProblems
  rw [hc, hq]
  cases hk : e.localKey? join with
  | none => simp [hk]
  | some key => simp [hk]

theorem joinProblems_of_graph {b : Model BoundExpr} {g : Graph} {e : Entity BoundExpr} (h : b.graph = .ok g)
    (he : e ∈ b.entities) {p : Parent} (hp : p ∈ e.parents) : b.joinProblems e p = [] := by
  have hnone := (Checked.report_eq_ok.mp h).1
  have hentity := List.map_eq_nil_iff.mp (List.flatMap_eq_nil_iff.mp hnone e he)
  exact List.flatMap_eq_nil_iff.mp hentity p hp

end Model

end Tributary
