import Tributary.Proofs.Checked
import Tributary.Proofs.Expr.Compiles

/-!
# Strict and lenient types

Whether types are strict decides what is reported and nothing else: without strictness an expression has the same node
and the same type, and of the faults that were found some may be gone.

* `TypeEnv.Relaxes env' env` : the two know the same types, and `env'` is strict only if `env` is;
* `Typed.Relaxes t' t` : the same node and type, with some of the faults;
* `compile_relaxes` : compiling under the one relaxes compiling under the other.
-/

namespace Tributary

/-- The same types are known, and types are strict only if they were. -/
structure TypeEnv.Relaxes (env' env : TypeEnv) : Prop where
  place : env'.place = env.place
  attrs : env'.attrs = env.attrs
  parents : env'.parents = env.parents
  params : env'.params = env.params
  strict : env'.strict = true → env.strict = true

/-- The same node and type, with some of the faults. -/
structure Typed.Relaxes (t' t : Typed) : Prop where
  node : t'.node = t.node
  ty : t'.ty = t.ty
  faults : t'.faults.Sublist t.faults

namespace Typed

theorem Relaxes.refl (t : Typed) : t.Relaxes t := ⟨rfl, rfl, List.Sublist.refl _⟩

theorem forall₂_node_eq {ts' ts : List Typed} (h : List.Forall₂ Relaxes ts' ts) : ts'.map node = ts.map node :=
  (forall₂_map_eq h fun _ _ ht => ht.node.symm).symm

theorem forall₂_ty_eq {ts' ts : List Typed} (h : List.Forall₂ Relaxes ts' ts) : ts'.map ty = ts.map ty :=
  (forall₂_map_eq h fun _ _ ht => ht.ty.symm).symm

theorem forall₂_faults {ts' ts : List Typed} (h : List.Forall₂ Relaxes ts' ts) :
    (ts'.flatMap faults).Sublist (ts.flatMap faults) := by
  induction h with
  | nil => exact List.Sublist.refl _
  | cons ht _ ih => exact ht.faults.append ih

end Typed

namespace TypeEnv

variable {env' env : TypeEnv}

theorem argNodes_map (templates : List Template) (plain lambdas : List Typed) :
    argNodes templates plain lambdas = List.zipWith (fun (t : Template) (p : Node × Node) =>
      if t.isLambda then p.2 else p.1) templates ((plain.map Typed.node).zip (lambdas.map Typed.node)) := by
  rw [List.zip_map, List.zipWith_map_right]
  rfl

namespace Relaxes

variable (h : env'.Relaxes env)

include h

theorem fault_eq (span : Option Span) (problem : Problem) : env'.fault span problem = env.fault span problem := by
  rw [fault, fault, h.place]

theorem faultIf {wrong' wrong : Bool} (hw : wrong' = true → wrong = true) (span : Option Span) (problem : Problem) :
    (env'.faultIf wrong' span problem).Sublist (env.faultIf wrong span problem) := by
  unfold TypeEnv.faultIf
  cases wrong' with
  | false => exact List.nil_sublist _
  | true =>
    rw [hw rfl, h.fault_eq]

/-- What is reported for strict types only. -/
theorem faultIf_strict (wrong : Bool) (span : Option Span) (problem : Problem) :
    (env'.faultIf (env'.strict && wrong) span problem).Sublist (env.faultIf (env.strict && wrong) span problem) := by
  refine h.faultIf (fun hw => ?_) span problem
  obtain ⟨hs, hw⟩ := (Bool.and_eq_true _ _).mp hw
  rw [h.strict hs, hw]
  rfl

theorem ofBinding_eq (locals : List Ty) (x : Binding) : env'.ofBinding locals x = env.ofBinding locals x := by
  cases x <;> simp [ofBinding, parentAttrTy, h.attrs, h.parents, h.params]

theorem plainAccess {object' object : Typed} (ho : object'.Relaxes object) (span : Option Span) (field : String) :
    (env'.plainAccess span object' field).Relaxes (env.plainAccess span object field) := by
  have hsingle : env'.isSingle = env.isSingle := funext fun slot => by rw [isSingle, h.parents]; rfl
  have hattr : env'.parentAttrTy = env.parentAttrTy := funext₂ fun slot attr => by rw [parentAttrTy, h.parents]; rfl
  have hfaults := ho.faults.append (h.faultIf_strict (object.ty.isOther fun t => t == .object || t == .image) span
    (.fieldOf field object.ty))
  unfold TypeEnv.plainAccess
  dsimp only
  rw [ho.node, ho.ty, hsingle, hattr]
  split
  · split
    · exact ⟨rfl, rfl, ho.faults⟩
    · exact ⟨rfl, rfl, hfaults⟩
  · exact ⟨rfl, rfl, hfaults⟩

theorem unary {operand' operand : Typed} (ho : operand'.Relaxes operand) (span : Option Span) (op : UnaryOp) :
    (env'.unary span op operand').Relaxes (env.unary span op operand) := by
  unfold TypeEnv.unary
  rw [ho.node, ho.ty]
  refine ⟨rfl, rfl, ho.faults.append ?_⟩
  cases op with
  | not => exact h.faultIf_strict _ span _
  | neg => exact h.faultIf id span _

theorem operandFaults (span : Option Span) (op : BinaryOp) (left right : Ty) :
    (env'.operandFaults span op left right).Sublist (env.operandFaults span op left right) := by
  unfold TypeEnv.operandFaults
  split
  · exact h.faultIf id span _
  · split
    · exact h.faultIf_strict _ span _
    · split
      · simp only [List.flatMap_cons, List.flatMap_nil, List.append_nil]
        exact (h.faultIf_strict _ span _).append (h.faultIf_strict _ span _)
      · exact List.Sublist.refl _

theorem binary {left' left right' right : Typed} (hl : left'.Relaxes left) (hr : right'.Relaxes right)
    (span : Option Span) (op : BinaryOp) : (env'.binary span op left' right').Relaxes (env.binary span op left right) := by
  unfold TypeEnv.binary
  rw [hl.node, hl.ty, hr.node, hr.ty]
  exact ⟨rfl, rfl, (hl.faults.append hr.faults).append (h.operandFaults span op left.ty right.ty)⟩

theorem conditional {x' x y' y z' z : Typed} (hx : x'.Relaxes x) (hy : y'.Relaxes y) (hz : z'.Relaxes z)
    (span : Option Span) : (env'.conditional span x' y' z').Relaxes (env.conditional span x y z) := by
  unfold TypeEnv.conditional
  rw [hx.node, hx.ty, hy.node, hy.ty, hz.node, hz.ty]
  exact ⟨rfl, rfl, ((hx.faults.append (h.faultIf_strict _ span _)).append hy.faults).append hz.faults⟩

end Relaxes

theorem safeAccess_relaxes {object' object : Typed} (ho : object'.Relaxes object) (field : String)
    {default' default : Option Typed} (hd : Option.Rel Typed.Relaxes default' default) :
    (safeAccess object' field default').Relaxes (safeAccess object field default) := by
  unfold safeAccess
  rw [ho.node]
  cases hd with
  | none => exact ⟨rfl, rfl, ho.faults.append (List.Sublist.refl _)⟩
  | some hd =>
    refine ⟨?_, rfl, ho.faults.append hd.faults⟩
    rw [Option.map_some, hd.node]
    rfl

/-- A call: the types of its plain arguments decide those of its lambdas, so these are compiled alike. -/
theorem Relaxes.call (h : env'.Relaxes env) {locals : List Ty} {span : Option Span} {f : Builtin} {args : List BoundExpr}
    (name : String)
    (hplain : List.Forall₂ Typed.Relaxes (env'.compilePlain locals span f f.signature.params 1 args)
      (env.compilePlain locals span f f.signature.params 1 args))
    (hlambdas : ∀ types, List.Forall₂ Typed.Relaxes (env'.compileLambdas locals span f types f.signature.params 1 args)
      (env.compileLambdas locals span f types f.signature.params 1 args)) :
    (env'.compile locals (.call span name f args)).Relaxes (env.compile locals (.call span name f args)) := by
  rw [compile, compile]
  split
  · have htypes := Typed.forall₂_ty_eq hplain
    have hlambdas := hlambdas ((env.compilePlain locals span f f.signature.params 1 args).map Typed.ty)
    dsimp only
    rw [htypes]
    refine ⟨congrArg (Node.call f.name) ?_, ?_, (Typed.forall₂_faults hplain).append (Typed.forall₂_faults hlambdas)⟩
    · change argNodes _ _ _ = argNodes _ _ _
      rw [argNodes_map, argNodes_map, Typed.forall₂_node_eq hplain, Typed.forall₂_node_eq hlambdas]
    · change resultTy _ _ _ = resultTy _ _ _
      rw [Typed.forall₂_ty_eq hlambdas]
  · rw [h.fault_eq]
    exact .refl _

mutual

/-- Without strictness an expression compiles to the same node and type, with no further faults. -/
theorem compile_relaxes (h : env'.Relaxes env) : ∀ (e : BoundExpr) (locals : List Ty),
    (env'.compile locals e).Relaxes (env.compile locals e)
  | .literal _ _, locals => by
    rw [compile, compile]
    exact .refl _
  | .ident _ _ x, locals => by
    rw [compile, compile, h.ofBinding_eq]
    exact .refl _
  | .access span object field true default, locals => by
    rw [compile, compile, if_pos rfl, if_pos rfl]
    exact safeAccess_relaxes (compile_relaxes h object locals) field (compileDefault_relaxes h default locals)
  | .access span object field false default, locals => by
    rw [compile, compile, if_neg Bool.false_ne_true, if_neg Bool.false_ne_true]
    exact h.plainAccess (compile_relaxes h object locals) span field
  | .index _ object key, locals => by
    rw [compile, compile]
    have ho := compile_relaxes h object locals
    have hk := compile_relaxes h key locals
    rw [ho.node, ho.ty, hk.node]
    exact ⟨rfl, rfl, ho.faults.append hk.faults⟩
  | .unary span op operand, locals => by
    rw [compile, compile]
    exact h.unary (compile_relaxes h operand locals) span op
  | .binary span op left right, locals => by
    rw [compile, compile]
    exact h.binary (compile_relaxes h left locals) (compile_relaxes h right locals) span op
  | .conditional span condition thenBranch elseBranch, locals => by
    rw [compile, compile]
    exact h.conditional (compile_relaxes h condition locals) (compile_relaxes h thenBranch locals)
      (compile_relaxes h elseBranch locals) span
  | .lambda span _ _, locals => by
    rw [compile, compile, h.fault_eq]
    exact .refl _
  | .call span name f args, locals =>
    h.call name (compilePlain_relaxes h args locals span f _ 1) fun types =>
      compileLambdas_relaxes h args locals span f types _ 1

theorem compileDefault_relaxes (h : env'.Relaxes env) : ∀ (default : Option BoundExpr) (locals : List Ty),
    Option.Rel Typed.Relaxes (env'.compileDefault locals default) (env.compileDefault locals default)
  | none, locals => by
    rw [compileDefault, compileDefault]
    exact .none
  | some e, locals => by
    rw [compileDefault, compileDefault]
    exact .some (compile_relaxes h e locals)

theorem compilePlain_relaxes (h : env'.Relaxes env) : ∀ (args : List BoundExpr) (locals : List Ty)
    (span : Option Span) (f : Builtin) (templates : List Template) (i : Nat),
    List.Forall₂ Typed.Relaxes (env'.compilePlain locals span f templates i args)
      (env.compilePlain locals span f templates i args)
  | [], locals, span, f, templates, i => by
    cases templates <;> simp [compilePlain]
  | arg :: args, locals, span, f, [], i => by
    simp [compilePlain]
  | arg :: args, locals, span, f, template :: templates, i => by
    have hargs := compilePlain_relaxes h args locals span f templates (i + 1)
    have harg := compile_relaxes h arg locals
    rw [compilePlain.eq_def, compilePlain.eq_def]
    dsimp only
    refine .cons ?_ hargs
    split
    · exact .refl _
    · split
      · rw [h.fault_eq]
        exact .refl _
      · rw [harg.ty]
        exact ⟨harg.node, rfl, harg.faults.append (h.faultIf id _ _)⟩

theorem compileLambdas_relaxes (h : env'.Relaxes env) : ∀ (args : List BoundExpr) (locals : List Ty)
    (span : Option Span) (f : Builtin) (types : List Ty) (templates : List Template) (i : Nat),
    List.Forall₂ Typed.Relaxes (env'.compileLambdas locals span f types templates i args)
      (env.compileLambdas locals span f types templates i args)
  | [], locals, span, f, types, templates, i => by
    cases templates <;> simp [compileLambdas]
  | arg :: args, locals, span, f, types, [], i => by
    simp [compileLambdas]
  | arg :: args, locals, span, f, types, template :: templates, i => by
    have hargs := compileLambdas_relaxes h args locals span f types templates (i + 1)
    rw [compileLambdas.eq_def, compileLambdas.eq_def]
    dsimp only
    refine .cons ?_ hargs
    split
    · split
      · next own params body =>
        have hbody := compile_relaxes h body (locals ++ f.lambdaParams (i - 1) types)
        split
        · exact ⟨congrArg (Node.lambda params.length) hbody.node, hbody.ty, hbody.faults⟩
        · rw [h.fault_eq]
          exact .refl _
      · rw [h.fault_eq]
        exact .refl _
    · exact .refl _

end

end TypeEnv

end Tributary
