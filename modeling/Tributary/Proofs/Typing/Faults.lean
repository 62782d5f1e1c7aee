import Tributary.Compiled
import Tributary.Proofs.Checked

/-!
# What compiling reports

Once names are bound, all that can be wrong with an expression is the types of its operands and arguments and the place
of a lambda.

* `AreTyping ds` : diagnostics are of these kinds;
* `TypeEnv.compile_areTyping` : the faults of an expression are; `Model.compile_areTyping` : those of a model are.
-/

namespace Tributary

/-- The kinds of problems with the types of an expression or with the place of a lambda. -/
def ProblemKind.isTyping : ProblemKind → Bool
  | builtinArgument | typeMismatch | misplacedLambda => true
  | _ => false

def AreTyping (ds : List Diagnostic) : Prop := ∀ d ∈ ds, d.problem.kind.isTyping = true

namespace AreTyping

theorem nil : AreTyping [] := by
  intro d hd
  cases hd

theorem append {ds es : List Diagnostic} (h : AreTyping ds) (h' : AreTyping es) : AreTyping (ds ++ es) :=
  fun d hd => (List.mem_append.mp hd).elim (h d) (h' d)

theorem fault (env : TypeEnv) (span : Option Span) {p : Problem} (h : p.kind.isTyping = true) :
    AreTyping (env.fault span p) := by
  intro d hd
  obtain rfl := List.mem_singleton.mp hd
  exact h

theorem faultIf (env : TypeEnv) (wrong : Bool) (span : Option Span) {p : Problem} (h : p.kind.isTyping = true) :
    AreTyping (env.faultIf wrong span p) := by
  unfold TypeEnv.faultIf
  split
  · exact .fault env span h
  · exact .nil

theorem flatMap {ts : List Typed} (h : ∀ t ∈ ts, AreTyping t.faults) : AreTyping (ts.flatMap Typed.faults) := by
  intro d hd
  obtain ⟨t, ht, hd⟩ := List.mem_flatMap.mp hd
  exact h t ht d hd

end AreTyping

namespace TypeEnv

variable {env : TypeEnv}

theorem plainAccess_areTyping {object : Typed} (h : AreTyping object.faults) (span : Option Span) (field : String) :
    AreTyping (env.plainAccess span object field).faults := by
  have hfaults := h.append (.faultIf env (env.strict && object.ty.isOther fun t => t == .object || t == .image) span
    (p := .fieldOf field object.ty) rfl)
  unfold plainAccess
  dsimp only
  split
  · split
    · exact h
    · exact hfaults
  · exact hfaults

theorem operandFaults_areTyping (span : Option Span) (op : BinaryOp) (left right : Ty) :
    AreTyping (env.operandFaults span op left right) := by
  unfold operandFaults
  split
  · exact .faultIf _ _ _ rfl
  · split
    · exact .faultIf _ _ _ rfl
    · split
      · intro d hd
        obtain ⟨t, -, hd⟩ := List.mem_flatMap.mp hd
        exact AreTyping.faultIf _ _ _ rfl d hd
      · exact .nil

mutual

theorem compile_areTyping : ∀ (e : BoundExpr) (locals : List Ty), AreTyping (env.compile locals e).faults
  | .literal _ _, locals => by
    rw [compile]
    exact .nil
  | .ident _ _ x, locals => by
    rw [compile]
    cases x <;> exact .nil
  | .access span object field true default, locals => by
    rw [compile, if_pos rfl]
    exact (compile_areTyping object locals).append (compileDefault_areTyping default locals)
  | .access span object field false default, locals => by
    rw [compile, if_neg Bool.false_ne_true]
    exact plainAccess_areTyping (compile_areTyping object locals) span field
  | .index _ object key, locals => by
    rw [compile]
    exact (compile_areTyping object locals).append (compile_areTyping key locals)
  | .unary span op operand, locals => by
    rw [compile]
    exact (compile_areTyping operand locals).append (.faultIf _ _ _ rfl)
  | .binary span op left right, locals => by
    rw [compile]
    exact ((compile_areTyping left locals).append (compile_areTyping right locals)).append
      (operandFaults_areTyping span op _ _)
  | .conditional span condition thenBranch elseBranch, locals => by
    rw [compile]
    have hc := (compile_areTyping condition locals).append (.faultIf env (env.strict &&
      (env.compile locals condition).ty.isOther (· == .boolean)) span
      (p := .conditionType (env.compile locals condition).ty) rfl)
    exact (hc.append (compile_areTyping thenBranch locals)).append (compile_areTyping elseBranch locals)
  | .lambda span _ _, locals => by
    rw [compile]
    exact .fault env span rfl
  | .call span _ f args, locals => by
    rw [compile]
    split
    · exact (AreTyping.flatMap (compilePlain_areTyping args locals span f _ 1)).append
        (.flatMap (compileLambdas_areTyping args locals span f _ _ 1))
    · exact .fault env span rfl

theorem compileDefault_areTyping : ∀ (default : Option BoundExpr) (locals : List Ty),
    AreTyping ((env.compileDefault locals default).elim [] Typed.faults)
  | none, locals => by
    rw [compileDefault]
    exact .nil
  | some e, locals => by
    rw [compileDefault]
    exact compile_areTyping e locals

theorem compilePlain_areTyping : ∀ (args : List BoundExpr) (locals : List Ty) (span : Option Span) (f : Builtin)
    (templates : List Template) (i : Nat), ∀ t ∈ env.compilePlain locals span f templates i args, AreTyping t.faults
  | [], locals, span, f, templates, i => by
    cases templates <;> simp [compilePlain]
  | arg :: args, locals, span, f, [], i => by
    simp [compilePlain]
  | arg :: args, locals, span, f, template :: templates, i => by
    have hargs := compilePlain_areTyping args locals span f templates (i + 1)
    have harg := compile_areTyping arg locals
    rw [compilePlain.eq_def]
    refine List.forall_mem_cons.mpr ⟨?_, hargs⟩
    split
    · exact .nil
    · split
      · exact .fault _ _ rfl
      · exact harg.append (.faultIf _ _ _ rfl)

theorem compileLambdas_areTyping : ∀ (args : List BoundExpr) (locals : List Ty) (span : Option Span) (f : Builtin)
    (types : List Ty) (templates : List Template) (i : Nat),
    ∀ t ∈ env.compileLambdas locals span f types templates i args, AreTyping t.faults
  | [], locals, span, f, types, templates, i => by
    cases templates <;> simp [compileLambdas]
  | arg :: args, locals, span, f, types, [], i => by
    simp [compileLambdas]
  | arg :: args, locals, span, f, types, template :: templates, i => by
    have hargs := compileLambdas_areTyping args locals span f types templates (i + 1)
    rw [compileLambdas.eq_def]
    refine List.forall_mem_cons.mpr ⟨?_, hargs⟩
    split
    · split
      · next own params body =>
        dsimp only
        split
        · exact compile_areTyping body (locals ++ f.lambdaParams (i - 1) types)
        · exact .fault _ _ rfl
      · exact .fault _ _ rfl
    · exact .nil

end

end TypeEnv

namespace Model

variable {m : Model BoundExpr} {options : Options}

theorem compileAttr_areTyping (params : List Param) (e : Entity BoundExpr) (a : Attribute BoundExpr) :
    AreTyping (m.compileAttr options params e a).diagnostics := by
  unfold compileAttr
  split
  · exact .nil
  · dsimp only
    unfold Checked.report
    split
    · exact .nil
    · exact (TypeEnv.compile_areTyping _ _).append (.faultIf _ _ _ rfl)

/-- Nothing that compiling a model reports is about names. -/
theorem compile_areTyping : AreTyping (m.compile options).diagnostics := by
  intro d hd
  rw [compile, Checked.diagnostics_map, Checked.diagnostics_each] at hd
  obtain ⟨e, -, hd⟩ := List.mem_flatMap.mp hd
  rw [compileEntity, Checked.diagnostics_map, Checked.diagnostics_each] at hd
  obtain ⟨a, -, hd⟩ := List.mem_flatMap.mp hd
  exact compileAttr_areTyping _ _ a d hd

end Model

end Tributary
