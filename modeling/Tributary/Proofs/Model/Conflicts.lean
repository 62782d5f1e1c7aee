import Mathlib.Data.List.Pairwise
import Tributary.Proofs.Model.WellFormed
import Tributary.Rules

/-!
# Parents that do not agree on a type

An entity that declares an attribute again may have several parents with an attribute of that name. The rule compares
their types two by two and reports the first two that do not agree.

* `conflict?_eq_none`, `conflict?_eq_some` : the search over pairs is complete, and finds a pair that does not agree;
* `conflict?_perm` : whether there is such a pair does not depend on the order;
* `Model.Clash m e name x y` : two different parents declare the attribute with types that do not accept each other;
* `Model.clash_of_conflict?`, `Model.not_clash_of_conflict?` : the search finds clashes, and all of them;
* `Model.conflictReports_eq` : what is reported of one attribute; `Model.conflictRule_attrs` : which are reported;
* `Model.conflictRule_mapExpr` : expressions do not matter;
* `Model.typeConflicts_exact` : one report for an attribute with a clash, whatever the order of the parents.
-/

namespace Tributary

/-! ## The search over pairs -/

section Search
variable {l l' : List (String × Ty)} {x y : String × Ty}

theorem Ty.agrees_comm (s t : Ty) : s.agrees t = t.agrees s := Bool.and_comm _ _

theorem conflict?_eq_none : conflict? l = none ↔ l.Pairwise fun x y => x.2.agrees y.2 = true := by
  induction l with
  | nil => simp [conflict?]
  | cons x rest ih =>
    rw [conflict?, List.pairwise_cons, ← ih]
    cases hfind : rest.find? fun y => !x.2.agrees y.2 with
    | none =>
      have hall : ∀ y ∈ rest, x.2.agrees y.2 = true := fun y hy => by
        simpa using List.find?_eq_none.mp hfind y hy
      exact ⟨fun h => ⟨hall, h⟩, fun h => h.2⟩
    | some y =>
      have hy := List.find?_some hfind
      have hmem := List.mem_of_find?_eq_some hfind
      simp only [reduceCtorEq, false_iff]
      intro hall
      simp [hall.1 y hmem] at hy

/-- The two that are found do not agree, and whatever holds of any two in order holds of them. -/
theorem conflict?_eq_some {R : String × Ty → String × Ty → Prop} (h : conflict? l = some (x, y)) (hl : l.Pairwise R) :
    R x y ∧ x.2.agrees y.2 = false := by
  induction l with
  | nil => cases h
  | cons z rest ih =>
    obtain ⟨hz, hrest⟩ := List.pairwise_cons.mp hl
    rw [conflict?] at h
    cases hfind : rest.find? fun y => !z.2.agrees y.2 with
    | none =>
      rw [hfind] at h
      exact ih h hrest
    | some w =>
      rw [hfind] at h
      cases h
      exact ⟨hz y (List.mem_of_find?_eq_some hfind), by simpa using List.find?_some hfind⟩

/-- Whether any two do not agree does not depend on the order. -/
theorem conflict?_perm (h : l.Perm l') : (conflict? l).isSome = (conflict? l').isSome := by
  have hnone : conflict? l = none ↔ conflict? l' = none := by
    rw [conflict?_eq_none, conflict?_eq_none]
    exact h.pairwise_iff fun hxy => (Ty.agrees_comm _ _).trans hxy
  rw [Bool.eq_iff_iff, Option.isSome_iff_ne_none, Option.isSome_iff_ne_none, Ne, Ne, hnone]

end Search

namespace Model

variable {ε : Type} {m : Model ε} {e : Entity ε} {name : String} {x y : String × Ty}

/-! ## Clashes -/

/-- A parent declares an attribute with a type; `x` is the name of its entity and the type. -/
def Declares (m : Model ε) (p : Parent) (name : String) (x : String × Ty) : Prop :=
  ∃ parent, m.entities[p.entity]? = some parent ∧ parent.name = x.1 ∧
    ∃ a ∈ parent.attributes, a.name = name ∧ a.ty = x.2

/-- Two different parents of an entity declare an attribute with types that do not accept each other both ways. -/
def Clash (m : Model ε) (e : Entity ε) (name : String) (x y : String × Ty) : Prop :=
  ∃ p ∈ e.parents, ∃ q ∈ e.parents, p.entity ≠ q.entity ∧ m.Declares p name x ∧ m.Declares q name y ∧
    ¬ (x.2.accepts y.2 = true ∧ y.2.accepts x.2 = true)

def declared? (m : Model ε) (name : String) (p : Parent) : Option (String × Ty) := do
  let parent ← m.parentEntity? p
  let a ← parent.attr? name
  some (parent.name, a.ty)

theorem declared?_eq_some (hm : ∀ e ∈ m.entities, (e.attributes.map Attribute.name).Nodup) {p : Parent} :
    m.declared? name p = some x ↔ m.Declares p name x := by
  constructor
  · intro h
    obtain ⟨parent, hparent, h⟩ := Option.bind_eq_some_iff.mp h
    obtain ⟨a, ha, h⟩ := Option.bind_eq_some_iff.mp h
    cases h
    exact ⟨parent, hparent, rfl, a, List.mem_of_find?_eq_some ha, by simpa using List.find?_some ha, rfl⟩
  · obtain ⟨owner, t⟩ := x
    rintro ⟨parent, hparent, rfl, a, ha, rfl, rfl⟩
    have hattr : parent.attr? a.name = some a := find?_key_eq_some (hm parent (List.mem_of_getElem? hparent)) ha
    exact Option.bind_eq_some_iff.mpr ⟨parent, hparent, Option.bind_eq_some_iff.mpr ⟨a, hattr, rfl⟩⟩

def Agree (m : Model ε) (name : String) (p q : Parent) : Prop :=
  ∀ x, m.declared? name p = some x → ∀ y, m.declared? name q = some y → x.2.agrees y.2 = true

/-- The search goes over pairs in order only, but agreeing is the same from both sides. -/
instance agree_symm : Std.Symm (m.Agree name) where
  symm _ _ h x hx y hy := (Ty.agrees_comm x.2 y.2).trans (h y hy x hx)

section Built
variable (hm : ∀ e ∈ m.entities, (e.attributes.map Attribute.name).Nodup)
include hm

/-- What the search finds is a clash. -/
theorem clash_of_conflict? (he : (e.parents.map Parent.entity).Nodup)
    (h : conflict? (m.parentTypes e name) = some (x, y)) : m.Clash e name x y := by
  have hpairs : (e.parents.filterMap (m.declared? name)).Pairwise fun x y =>
      ∃ p ∈ e.parents, ∃ q ∈ e.parents, p.entity ≠ q.entity ∧ m.Declares p name x ∧ m.Declares q name y := by
    refine List.pairwise_filterMap.mpr ((List.pairwise_map.mp he).imp_of_mem ?_)
    intro p q hp hq hne x hx y hy
    exact ⟨p, hp, q, hq, hne, (declared?_eq_some hm).mp hx, (declared?_eq_some hm).mp hy⟩
  obtain ⟨⟨p, hp, q, hq, hne, hx, hy⟩, hagrees⟩ := conflict?_eq_some h hpairs
  refine ⟨p, hp, q, hq, hne, hx, hy, fun hboth => ?_⟩
  rw [Ty.agrees, hboth.1, hboth.2] at hagrees
  cases hagrees

/-- Where the search finds nothing there is no clash. -/
theorem not_clash_of_conflict? (h : conflict? (m.parentTypes e name) = none) : ¬ m.Clash e name x y := by
  have hpairs : e.parents.Pairwise (m.Agree name) := List.pairwise_filterMap.mp (conflict?_eq_none.mp h)
  rintro ⟨p, hp, q, hq, hne, hx, hy, hnot⟩
  have hagrees := hpairs.forall hp hq (fun heq => hne (congrArg Parent.entity heq)) x ((declared?_eq_some hm).mpr hx) y
    ((declared?_eq_some hm).mpr hy)
  exact hnot (Bool.and_eq_true_iff.mp hagrees)

end Built

/-! ## Reports -/

def conflictReports (m : Model ε) (e : Entity ε) (name : String) : List Diagnostic :=
  (m.conflictRule e).filter fun r => r.problem.kind = .typeConflict ∧ r.attr = some name

theorem conflictReports_eq (he : (e.attributes.map Attribute.name).Nodup) {a : Attribute ε} (ha : a ∈ e.attributes) :
    m.conflictReports e a.name = ((conflict? (m.parentTypes e a.name)).map fun c =>
      e.diagnoseField a.name (.typeConflict a.name c.1.2 c.1.1 c.2.2 c.2.1)).toList := by
  refine filter_filterMap_eq he ha fun b r hr => ?_
  obtain ⟨c, -, rfl⟩ := Option.map_eq_some_iff.mp hr
  simp [Entity.diagnoseField, Problem.kind]

/-- The attributes that are reported follow from the types that parents declare, up to order. -/
theorem conflictRule_attrs {m' : Model ε} {e' : Entity ε} (hattrs : e'.attributes = e.attributes)
    (h : ∀ name, (m'.parentTypes e' name).Perm (m.parentTypes e name)) :
    (m'.conflictRule e').map Diagnostic.attr = (m.conflictRule e).map Diagnostic.attr := by
  rw [conflictRule, conflictRule, List.map_filterMap, List.map_filterMap, hattrs]
  congr 1
  funext a
  have hsome := conflict?_perm (h a.name)
  cases hold : conflict? (m.parentTypes e a.name) <;> cases hnew : conflict? (m'.parentTypes e' a.name) <;>
    simp [hold, hnew, Entity.diagnoseField] at hsome ⊢

/-- Other parents in the list of an entity change nothing in what a parent declares, even if it is the entity itself. -/
theorem declared?_set {i : Nat} (hi : m.entities[i]? = some e) (ps : List Parent) (name : String) (p : Parent) :
    declared? { m with entities := m.entities.set i { e with parents := ps } } name p = m.declared? name p := by
  unfold declared? parentEntity?
  by_cases hp : i = p.entity
  · subst hp
    obtain ⟨hlt, -⟩ := List.getElem?_eq_some_iff.mp hi
    simp only [List.getElem?_set_self hlt, hi]
    rfl
  · simp only [List.getElem?_set_ne hp]

section MapExpr
variable {ε' : Type} (f : ε → ε')

theorem attr?_mapExpr (e : Entity ε) (name : String) :
    (e.mapExpr f).attr? name = (e.attr? name).map (Attribute.mapExpr f) :=
  List.find?_map

theorem parentTypes_mapExpr (m : Model ε) (e : Entity ε) (name : String) :
    (m.mapExpr f).parentTypes (e.mapExpr f) name = m.parentTypes e name := by
  refine congrArg (e.parents.filterMap ·) (funext fun p => ?_)
  have hentity : (m.mapExpr f).parentEntity? p = (m.parentEntity? p).map (Entity.mapExpr f) := List.getElem?_map
  rw [hentity]
  cases m.parentEntity? p with
  | none => rfl
  | some parent =>
    simp only [Option.map_some, Option.bind_eq_bind, Option.bind_some, attr?_mapExpr]
    cases parent.attr? name <;> rfl

theorem diagnoseField_mapExpr (e : Entity ε) (field : String) (problem : Problem) :
    (e.mapExpr f).diagnoseField field problem = e.diagnoseField field problem := by
  unfold Entity.diagnoseField
  rw [attr?_mapExpr]
  cases e.attr? field <;> rfl

/-- Expressions do not matter to the rule. -/
theorem conflictRule_mapExpr (m : Model ε) (e : Entity ε) :
    (m.mapExpr f).conflictRule (e.mapExpr f) = m.conflictRule e := by
  unfold conflictRule
  rw [show (e.mapExpr f).attributes = e.attributes.map (Attribute.mapExpr f) from rfl, List.filterMap_map]
  refine congrArg (e.attributes.filterMap ·) (funext fun a => ?_)
  simp only [Function.comp, parentTypes_mapExpr, diagnoseField_mapExpr]
  rfl

end MapExpr

/-- Parents that declare an attribute with types that do not accept each other both ways are reported once for that
attribute, and two of them are named; without such parents nothing is reported of it. Binding names changes nothing in
the reports, and another order of the parents nothing in which attributes are reported. -/
theorem typeConflicts_exact {options : Options} {d : Document} {m : Model SourceExpr} {i : Nat} {e : Entity SourceExpr}
    {a : Attribute SourceExpr} (h : Model.build options d = .ok m) (hi : m.entities[i]? = some e)
    (ha : a ∈ e.attributes) :
    ((∃ x y, m.Clash e a.name x y) → ∃ r x y, m.conflictReports e a.name = [r] ∧ m.Clash e a.name x y ∧
      r.entity = some e.name ∧ r.problem = .typeConflict a.name x.2 x.1 y.2 y.1) ∧
    ((¬ ∃ x y, m.Clash e a.name x y) → m.conflictReports e a.name = []) ∧
    (∀ b, m.resolve = .ok b → ∃ e', b.entities[i]? = some e' ∧ b.conflictRule e' = m.conflictRule e) ∧
    ∀ ps, ps.Perm e.parents →
      let e' := { e with parents := ps }
      let m' := { m with entities := m.entities.set i e' }
      (m'.conflictRule e').map Diagnostic.attr = (m.conflictRule e).map Diagnostic.attr := by
  have hwf := wellFormed_of_build h
  have he := List.mem_of_getElem? hi
  have hreports := m.conflictReports_eq (hwf.attributes_distinct e he) ha
  have hparents := hwf.parents_distinct e he
  refine ⟨?_, ?_, ?_, ?_⟩
  · rintro ⟨x, y, hclash⟩
    cases hfind : conflict? (m.parentTypes e a.name) with
    | none => exact absurd hclash (not_clash_of_conflict? hwf.attributes_distinct hfind)
    | some c =>
      rw [hfind] at hreports
      exact ⟨_, c.1, c.2, hreports, clash_of_conflict? hwf.attributes_distinct hparents hfind, rfl, rfl⟩
  · intro hnone
    cases hfind : conflict? (m.parentTypes e a.name) with
    | none => rw [hreports, hfind]; rfl
    | some c => exact absurd ⟨_, _, clash_of_conflict? hwf.attributes_distinct hparents hfind⟩ hnone
  · intro b hb
    have hentity := hi
    rw [← resolve_erase hb, mapExpr, List.getElem?_map] at hentity
    obtain ⟨e', he', rfl⟩ := Option.map_eq_some_iff.mp hentity
    refine ⟨e', he', ?_⟩
    rw [← conflictRule_mapExpr Expr.erase b e', resolve_erase hb]
  · intro ps hperm e' m'
    refine conflictRule_attrs rfl fun name => ?_
    have hdeclared : m'.declared? name = m.declared? name := funext (declared?_set hi ps name)
    show (ps.filterMap (m'.declared? name)).Perm (e.parents.filterMap (m.declared? name))
    rw [hdeclared]
    exact hperm.filterMap _

/-- Packs with three parents. One has bytes where another has integers, and the one between them anything; the types of
the tags are told apart only inside of arrays. -/
def packs : Document :=
  { sources := [{ name := "depot" }]
    entities := [
      { name := "Blob", source := some "depot"
        attributes := [{ name := "payload", type := "binary" }, { name := "tags", type := "array<array<number>>" }] },
      { name := "Loose", source := some "depot"
        attributes := [{ name := "payload" }, { name := "tags", type := "array<array>" }] },
      { name := "Codes", source := some "depot"
        attributes := [
          { name := "payload", type := "array<integer>" }, { name := "tags", type := "array<array<integer>>" }] },
      { name := "Pack", parents := [{ entity := "Blob" }, { entity := "Loose" }, { entity := "Codes" }]
        attributes := [{ name := "payload" }, { name := "tags" }] }] }

/-- Bytes and integers clash although both go with anything, also when the parents are turned around; the tags do not. -/
theorem packs_conflicts : ∃ m e, Model.build {} packs = .ok m ∧ m.entities[3]? = some e ∧
    m.Clash e "payload" ("Blob", .binary) ("Codes", .array .integer) ∧ (¬ ∃ x y, m.Clash e "tags" x y) ∧
    let e' := { e with parents := e.parents.reverse }
    let m' := { m with entities := m.entities.set 3 e' }
    (m'.conflictRule e').map Diagnostic.attr = [some "payload"] := by
  have heval : ((Model.build {} packs).toOption.bind fun m => (m.entities[3]?).map fun e =>
      (e.attributes.map Attribute.name, m.conflictReports e "payload", m.conflictReports e "tags",
        (m.conflictRule e).map Diagnostic.attr)) =
      some (["payload", "tags"], [{ problem := .typeConflict "payload" .binary "Blob" (.array .integer) "Codes"
                                    entity := "Pack", attr := "payload" }], [], [some "payload"]) := by decide +kernel
  obtain ⟨m, hm, heval⟩ := Option.bind_eq_some_iff.mp heval
  obtain ⟨e, he, heval⟩ := Option.map_eq_some_iff.mp heval
  have hm := toOption_eq_some.mp hm
  simp only [Prod.mk.injEq] at heval
  obtain ⟨hnames, hpayload, htags, hattrs⟩ := heval
  have hmem : ∀ name ∈ ["payload", "tags"], ∃ a ∈ e.attributes, a.name = name := by
    rw [← hnames]
    exact fun name hname => List.mem_map.mp hname
  obtain ⟨a, ha, hname⟩ := hmem "payload" List.mem_cons_self
  obtain ⟨b, hb, hother⟩ := hmem "tags" (List.mem_cons_of_mem _ List.mem_cons_self)
  obtain ⟨hclash, hnone, -, hperm⟩ := typeConflicts_exact hm he ha
  obtain ⟨hclash', -⟩ := typeConflicts_exact hm he hb
  rw [hname] at hclash hnone
  rw [hother] at hclash'
  refine ⟨m, e, hm, he, ?_, ?_, (hperm _ e.parents.reverse_perm).trans hattrs⟩
  · have hsome : ∃ x y, m.Clash e "payload" x y := by
      by_contra hnot
      rw [hnone hnot] at hpayload
      cases hpayload
    obtain ⟨r, ⟨xName, xTy⟩, ⟨yName, yTy⟩, hr, hxy, -, hproblem⟩ := hclash hsome
    cases hpayload.symm.trans hr
    cases hproblem
    exact hxy
  · intro hsome
    obtain ⟨r, x, y, hr, -⟩ := hclash' hsome
    rw [htags] at hr
    cases hr

end Model

end Tributary
