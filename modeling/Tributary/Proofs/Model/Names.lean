import Tributary.Model.Build
import Tributary.Proofs.Checked
import Tributary.Proofs.Distinct

/-!
# Names in a model

A document that builds gives a model whose entities have distinct names, and each of them attributes with
distinct names.

* `EntityDecl.check_iff`, `EntityDecl.check_eq_ok` : an entity as its declaration has it;
* `SourceDecl.eachSeen_eq_ok`, `EndpointDecl.eachSeen_eq_ok` : sources and endpoints as their declarations have them;
* `Model.build_eq_ok` : when a document builds; `Model.build_decls` : each entity is what its declaration declares;
* `Model.build_names_nodup`, `Model.build_attrs_nodup` : names are distinct.
-/

namespace Tributary

namespace EntityDecl

variable {limit : Nat} {sources entities : List String} {d : EntityDecl} {e : Entity SourceExpr}

/-- An entity is what its declaration says, with its source, parents and attributes checked and its operations put in
order. -/
theorem check_iff : d.check limit sources entities = .ok e ↔
    d.checkSource sources = .ok e.source ∧ d.checkParents entities = .ok e.parents ∧
      d.checkAttributes limit = .ok e.attributes ∧
      e = {
        name := d.name
        parents := e.parents
        source := e.source
        identityField := d.identityField
        attributes := e.attributes
        exposure := { d.exposure with operations := Operation.normalize d.exposure.operations }
        span := d.span } := by
  unfold check
  rw [Checked.zipWith_eq_ok]
  constructor
  · rintro ⟨source, ⟨parents, attributes⟩, hs, hp, rfl⟩
    obtain ⟨hp, ha⟩ := Checked.both_eq_ok.mp hp
    exact ⟨hs, hp, ha, rfl⟩
  · rintro ⟨hs, hp, ha, he⟩
    exact ⟨e.source, (e.parents, e.attributes), hs, Checked.both_eq_ok.mpr ⟨hp, ha⟩, he.symm⟩

theorem check_eq_ok (h : d.check limit sources entities = .ok e) :
    e.name = d.name ∧ d.checkSource sources = .ok e.source ∧ d.checkParents entities = .ok e.parents ∧
      d.checkAttributes limit = .ok e.attributes := by
  obtain ⟨hs, hp, ha, he⟩ := check_iff.mp h
  exact ⟨by rw [he], hs, hp, ha⟩

theorem checkNames_eq_ok {decls : List EntityDecl} :
    (∃ units, checkNames decls = .ok units) ↔ (decls.map EntityDecl.name).Nodup := by
  have hseen : ∀ (decl : EntityDecl) (u : Unit),
      (if true then Checked.fail (decl.diagnose (.duplicateEntity decl.name)) else .ok ()) ≠ Except.ok u := by
    simp [Checked.fail]
  constructor
  · rintro ⟨units, h⟩
    exact ((Checked.eachSeen_eq_ok hseen).mp h).2.1
  · intro h
    refine ⟨decls.map fun _ => (), (Checked.eachSeen_eq_ok hseen).mpr ⟨by simp, h, ?_⟩⟩
    exact List.forall₂_map_right_iff.mpr (List.forall₂_same.mpr fun decl _ => rfl)

theorem checkExpr_isSome {a : AttributeDecl} {expr : Option SourceExpr} (h : d.checkExpr limit a = .ok expr) :
    expr.isSome = a.expr.isSome := by
  unfold checkExpr at h
  split at h
  · next hx => cases h; rw [hx]
  · next hx =>
    split at h
    · cases h; rw [hx]; rfl
    · cases h

theorem checkAttributes_eq_ok {attributes : List (Attribute SourceExpr)}
    (h : d.checkAttributes limit = .ok attributes) :
    (d.attributes.map AttributeDecl.name).Nodup ∧
      List.Forall₂ (fun a b => b.name = a.name ∧ d.checkTy a = .ok b.ty ∧ d.checkExpr limit a = .ok b.expr)
        d.attributes attributes := by
  obtain ⟨-, hnodup, hall⟩ := (Checked.eachSeen_eq_ok (by simp [Checked.fail])).mp h
  refine ⟨hnodup, hall.imp ?_⟩
  intro a b hab
  rw [if_neg Bool.false_ne_true] at hab
  obtain ⟨ty, expr, hty, hexpr, rfl⟩ := Checked.zipWith_eq_ok.mp hab
  exact ⟨rfl, hty, hexpr⟩

end EntityDecl

theorem SourceDecl.check_name {decl : SourceDecl} {s : Source} (h : decl.check false = .ok s) : s.name = decl.name := by
  unfold SourceDecl.check at h
  rw [if_neg Bool.false_ne_true] at h
  obtain ⟨params, -, rfl⟩ := map_eq_ok.mp h
  rfl

/-- Sources are declared if each is declared once and passes its check. -/
theorem SourceDecl.eachSeen_eq_ok {decls : List SourceDecl} {sources : List Source} :
    Checked.eachSeen SourceDecl.name SourceDecl.check [] decls = .ok sources ↔
      (decls.map SourceDecl.name).Nodup ∧ List.Forall₂ (fun decl s => decl.check false = .ok s) decls sources := by
  rw [Checked.eachSeen_eq_ok (by simp [SourceDecl.check, Checked.fail])]
  simp

/-- Endpoints are declared if each is declared once and passes its check. -/
theorem EndpointDecl.eachSeen_eq_ok {names : List String} {decls : List EndpointDecl} {endpoints : List Endpoint} :
    Checked.eachSeen EndpointDecl.name (EndpointDecl.check names) [] decls = .ok endpoints ↔
      (decls.map EndpointDecl.name).Nodup ∧
        List.Forall₂ (fun decl e => decl.check names false = .ok e) decls endpoints := by
  rw [Checked.eachSeen_eq_ok (by simp [EndpointDecl.check, Checked.fail])]
  simp

theorem EndpointDecl.check_eq_ok {names : List String} {decl : EndpointDecl} {e : Endpoint}
    (h : decl.check names false = .ok e) :
    e.name = decl.name ∧ names.findIdx? (· == decl.entity) = some e.entity := by
  unfold EndpointDecl.check at h
  rw [if_neg Bool.false_ne_true] at h
  split at h
  · cases h
  · next i hi =>
    obtain ⟨params, -, rfl⟩ := map_eq_ok.mp h
    exact ⟨rfl, hi⟩

namespace Model

variable {options : Options} {d : Document} {m : Model SourceExpr}

/-- A document builds if no entity is declared twice and every declaration passes its checks. -/
theorem build_eq_ok : Model.build options d = .ok m ↔
    Checked.eachSeen SourceDecl.name SourceDecl.check [] d.sources = .ok m.sources ∧
    (d.entities.map EntityDecl.name).Nodup ∧
    Checked.each (EntityDecl.check options.maxExpressionDepth (d.sources.map SourceDecl.name)
      (d.entities.map EntityDecl.name)) d.entities = .ok m.entities ∧
    Checked.eachSeen EndpointDecl.name (EndpointDecl.check (d.entities.map EntityDecl.name)) [] d.endpoints =
      .ok m.endpoints ∧
    m.index = d.entities.map EntityDecl.name := by
  simp only [Model.build]
  rw [Checked.zipWith_eq_ok]
  constructor
  · rintro ⟨sources, ⟨units, entities, endpoints⟩, hs, hp, rfl⟩
    obtain ⟨hunits, hp⟩ := Checked.both_eq_ok.mp hp
    have hnodup := EntityDecl.checkNames_eq_ok.mp ⟨units, hunits⟩
    rw [firsts_eq_self _ hnodup] at hp ⊢
    obtain ⟨he, hp⟩ := Checked.both_eq_ok.mp hp
    exact ⟨hs, hnodup, he, hp, rfl⟩
  · rintro ⟨hs, hnodup, he, hp, hindex⟩
    obtain ⟨units, hunits⟩ := EntityDecl.checkNames_eq_ok.mpr hnodup
    rw [firsts_eq_self _ hnodup, ← hindex]
    rw [← hindex] at he hp
    exact ⟨m.sources, (units, m.entities, m.endpoints), hs,
      Checked.both_eq_ok.mpr ⟨hunits, Checked.both_eq_ok.mpr ⟨he, hp⟩⟩, rfl⟩

theorem build_decls_nodup (h : Model.build options d = .ok m) : (d.entities.map EntityDecl.name).Nodup :=
  (build_eq_ok.mp h).2.1

/-- Each entity of a model is what the declaration at its place declares. -/
theorem build_decls (h : Model.build options d = .ok m) :
    List.Forall₂ (fun decl e => EntityDecl.check options.maxExpressionDepth (d.sources.map SourceDecl.name)
      (d.entities.map EntityDecl.name) decl = .ok e) d.entities m.entities :=
  Checked.each_eq_ok.mp (build_eq_ok.mp h).2.2.1

theorem build_names_nodup (h : Model.build options d = .ok m) : (m.entities.map Entity.name).Nodup := by
  rw [forall₂_map_eq (build_decls h) (fun _ _ hab => (EntityDecl.check_eq_ok hab).1)]
  exact build_decls_nodup h

theorem build_index (h : Model.build options d = .ok m) : m.index = m.entities.map Entity.name := by
  rw [forall₂_map_eq (build_decls h) (fun _ _ hab => (EntityDecl.check_eq_ok hab).1)]
  exact (build_eq_ok.mp h).2.2.2.2

theorem build_attrs_nodup (h : Model.build options d = .ok m) {e : Entity SourceExpr} (he : e ∈ m.entities) :
    (e.attributes.map Attribute.name).Nodup := by
  obtain ⟨decl, -, hcheck⟩ := forall₂_mem_right (build_decls h) he
  obtain ⟨hnodup, hall⟩ := EntityDecl.checkAttributes_eq_ok (EntityDecl.check_eq_ok hcheck).2.2.2
  rw [forall₂_map_eq hall (fun _ _ hab => hab.1)]
  exact hnodup

end Model

end Tributary
