import Tributary.Proofs.Expr.Depth
import Tributary.Proofs.Plan.Stages
import Tributary.Proofs.Typing.Relaxed

/-!
# More permissive options

Options decide what is accepted, never what is made of it: what compiles under some options compiles to the same plan
under all that accept more.

* `Options.Permits o o'` : `o'` accepts whatever `o` does;
* `SourceExpr.lower_mono` : a higher limit of nesting;
* `Model.build_mono`, `Model.validate_mono`, `Model.compile_mono` : the stages that look at the options;
* `compile_permissive` : the same plan under more permissive options.
-/

namespace Tributary

/-- Deeper expressions, orphans and types that do not fit are accepted where they were before. -/
structure Options.Permits (o o' : Options) : Prop where
  depth : o.maxExpressionDepth ≤ o'.maxExpressionDepth
  orphans : o.allowOrphans = true → o'.allowOrphans = true
  types : o'.strictTypes = true → o.strictTypes = true

/-! ## Nesting -/

namespace SourceExpr

/-- An expression that is within a limit is lowered in the same way under every higher one. -/
theorem lower_mono (e : SourceExpr) {limit limit' : Nat} {x : SourceExpr} (hle : limit ≤ limit')
    (h : lower limit e = .ok x) : lower limit' e = .ok x := by
  obtain ⟨hdepth, rfl⟩ := lower_eq_ok_iff.mp h
  exact lower_eq_ok_iff.mpr ⟨fun p hp => (hdepth p hp).trans hle, rfl⟩

end SourceExpr

/-! ## The stages -/

section Stages
variable {o o' : Options} {d : Document} {m : Model SourceExpr} {b : Model BoundExpr} {g : Graph}

theorem EntityDecl.checkExpr_mono {limit limit' : Nat} (hle : limit ≤ limit') {decl : EntityDecl} {a : AttributeDecl}
    {x : Option SourceExpr} (h : decl.checkExpr limit a = .ok x) : decl.checkExpr limit' a = .ok x := by
  unfold checkExpr at h ⊢
  split at h
  · exact h
  · next e he =>
    split at h
    · next y hy =>
      rw [SourceExpr.lower_mono e hle hy]
      exact h
    · cases h

theorem EntityDecl.checkAttributes_mono {limit limit' : Nat} (hle : limit ≤ limit') {decl : EntityDecl}
    {attributes : List (Attribute SourceExpr)} (h : decl.checkAttributes limit = .ok attributes) :
    decl.checkAttributes limit' = .ok attributes := by
  obtain ⟨hfresh, hnodup, hall⟩ := (Checked.eachSeen_eq_ok (by simp [Checked.fail])).mp h
  refine (Checked.eachSeen_eq_ok (by simp [Checked.fail])).mpr ⟨hfresh, hnodup, hall.imp fun a b hab => ?_⟩
  rw [if_neg Bool.false_ne_true] at hab ⊢
  obtain ⟨ty, expr, hty, hexpr, rfl⟩ := Checked.zipWith_eq_ok.mp hab
  exact Checked.zipWith_eq_ok.mpr ⟨ty, expr, hty, checkExpr_mono hle hexpr, rfl⟩

theorem EntityDecl.check_mono {limit limit' : Nat} (hle : limit ≤ limit') {sources entities : List String}
    {decl : EntityDecl} {e : Entity SourceExpr} (h : decl.check limit sources entities = .ok e) :
    decl.check limit' sources entities = .ok e := by
  obtain ⟨hsource, hparents, hattrs, he⟩ := check_iff.mp h
  exact check_iff.mpr ⟨hsource, hparents, checkAttributes_mono hle hattrs, he⟩

theorem Model.build_mono (ho : o.Permits o') (h : Model.build o d = .ok m) : Model.build o' d = .ok m := by
  obtain ⟨hsources, hnodup, hentities, hendpoints⟩ := Model.build_eq_ok.mp h
  refine Model.build_eq_ok.mpr ⟨hsources, hnodup, ?_, hendpoints⟩
  exact Checked.each_eq_ok.mpr ((Checked.each_eq_ok.mp hentities).imp fun decl e =>
    EntityDecl.check_mono ho.depth)

theorem Model.validate_mono (ho : o.Permits o') (h : b.validate g o = .ok ()) : b.validate g o' = .ok () := by
  refine Checked.report_eq_ok.mpr ⟨?_, rfl⟩
  obtain ⟨hrules, horphans⟩ := List.append_eq_nil_iff.mp (Checked.report_eq_ok.mp h).1
  refine List.append_eq_nil_iff.mpr ⟨hrules, ?_⟩
  cases hallow : o'.allowOrphans with
  | true => rfl
  | false =>
    have hallow' : o.allowOrphans ≠ true := fun htrue => by rw [ho.orphans htrue] at hallow; cases hallow
    rw [if_neg hallow'] at horphans
    exact horphans

theorem Model.typeEnv_relaxes (ho : o.Permits o') (params : List Param) (e : Entity BoundExpr)
    (a : Attribute BoundExpr) : (b.typeEnv o' params e a).Relaxes (b.typeEnv o params e a) :=
  ⟨rfl, rfl, rfl, rfl, ho.types⟩

theorem Model.compileAttr_mono (ho : o.Permits o') {params : List Param} {e : Entity BoundExpr}
    {a : Attribute BoundExpr} {c : Attribute Compiled} (h : b.compileAttr o params e a = .ok c) :
    b.compileAttr o' params e a = .ok c := by
  unfold compileAttr at h ⊢
  split at h
  · exact h
  · next x hx =>
    have henv := b.typeEnv_relaxes ho params e a
    have htyped := TypeEnv.compile_relaxes henv x []
    obtain ⟨hfaults, rfl⟩ := Checked.report_eq_ok.mp h
    obtain ⟨htypedFaults, hdeclared⟩ := List.append_eq_nil_iff.mp hfaults
    have hnone := henv.faultIf_strict (!a.ty.accepts ((b.typeEnv o params e a).compile [] x).ty) x.span
      (.declaredType a.ty ((b.typeEnv o params e a).compile [] x).ty)
    dsimp only
    rw [htyped.node, htyped.ty]
    refine Checked.report_eq_ok.mpr ⟨List.append_eq_nil_iff.mpr ⟨?_, ?_⟩, rfl⟩
    · exact List.sublist_nil.mp (htypedFaults ▸ htyped.faults)
    · exact List.sublist_nil.mp (hdeclared ▸ hnone)

theorem Model.compile_mono (ho : o.Permits o') {c : Model Compiled} (h : b.compile o = .ok c) :
    b.compile o' = .ok c := by
  obtain ⟨entities, hall, rfl⟩ := map_eq_ok.mp h
  refine map_eq_ok.mpr ⟨entities, ?_, rfl⟩
  refine Checked.each_eq_ok.mpr ((Checked.each_eq_ok.mp hall).imp fun q e' he => ?_)
  obtain ⟨attributes, hattrs, rfl⟩ := map_eq_ok.mp he
  refine map_eq_ok.mpr ⟨attributes, ?_, rfl⟩
  exact Checked.each_eq_ok.mpr ((Checked.each_eq_ok.mp hattrs).imp fun a c hc => compileAttr_mono ho hc)

end Stages

/-- What compiles under some options compiles to the same plan under all that are at least as permissive. -/
theorem compile_permissive {o o' : Options} (ho : o.Permits o') {d : Document} {p : Plan}
    (h : Plan.compile o d = .ok p) : Plan.compile o' d = .ok p := by
  obtain ⟨m, b, g, c, hs⟩ := Stages.of_compile h
  have hs' : Stages o' d m b g c p :=
    ⟨Model.build_mono ho hs.build, hs.resolve, hs.graph, Model.validate_mono ho hs.validate,
      Model.compile_mono ho hs.compile, hs.plan⟩
  exact hs'.compile_eq

def crates : Document :=
  { sources := [{ name := "depot" }]
    entities := [
      { name := "Crate"
        source := some "depot"
        identityField := some "code"
        attributes := [
          { name := "code", type := "string" },
          { name := "side", type := "number" },
          { name := "area", type := "number"
            expr := some (.binary none .mul (.ident none "side" ()) (.ident none "side" ())) },
          { name := "label", type := "string", expr := some (.call none "upper" () [.ident none "code" ()]) }] }] }

theorem crates_permissive : ∃ plan,
    Plan.compile { maxExpressionDepth := 2, strictTypes := true } crates = .ok plan ∧
    Plan.compile { maxExpressionDepth := 64, allowOrphans := true } crates = .ok plan := by
  have hsome : (Plan.compile { maxExpressionDepth := 2, strictTypes := true } crates).toOption.isSome = true := by
    decide +kernel
  obtain ⟨plan, hplan⟩ := Option.isSome_iff_exists.mp hsome
  have hplan := toOption_eq_some.mp hplan
  refine ⟨plan, hplan, compile_permissive ⟨?_, fun h => ?_, fun _ => rfl⟩ hplan⟩
  · show 2 ≤ 64
    decide
  · cases h

end Tributary
