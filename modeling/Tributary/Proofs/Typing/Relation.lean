import Tributary.Proofs.Builtin.Results
import Tributary.Proofs.Scope.References

/-!
# Types of nodes

What types a node has, as rules of their own. They are coarser than what is inferred: numbers are not told apart, and
everything is of the type that is not known.

* `TypeEnv.HasTy env T n t` : under lambda parameters of the types `T` the node `n` has type `t`;
* `TypeEnv.isSteady` : the expressions whose inferred types can be relied on;
* `TypeEnv.isFaithful` : those without folds, and without calls that keep items of null;
* `hasTy_of_steady` : a node has the type that was inferred for it, if nothing was found wrong.
-/

namespace Tributary

def ParentTypes.whole (p : ParentTypes) : Ty :=
  match p.multiplicity with
  | .one => .object
  | .many => .array .object

def Typed.asLambda (body : Typed) (arity : Nat) : Typed := { body with node := .lambda arity body.node }

namespace TypeEnv

mutual

/-- The types that a node has, given those of the parameters of enclosing lambdas. -/
inductive HasTy (env : TypeEnv) : List Ty → Node → Ty → Prop where
  | any {T node} : HasTy env T node .any
  | const {T v} : HasTy env T (.const v) (.ofValue v)
  | localSlot {T i t} (h : T[i]? = some t) : HasTy env T (.localSlot i) t
  | attributeSlot {T i t} (h : env.attrs[i]? = some t) : HasTy env T (.attributeSlot i) t
  | paramSlot {T i t} (h : env.params[i]? = some t) : HasTy env T (.paramSlot i) t
  | parentSlot {T i p} (h : env.parents[i]? = some p) : HasTy env T (.parentSlot i) p.whole
  | parentField {T i name} : HasTy env T (.parentField i name) (env.parentAttrTy i name)
  | index {T object key t} (h : HasTy env T object t) : HasTy env T (.index object key) t.element
  | not {T operand} : HasTy env T (.unary .not operand) .boolean
  | neg {T operand t} (ht : t.isNumeric = true) : HasTy env T (.unary .neg operand) t
  | arithmetic {T op left right t} (hop : op.isArithmetic = true) (ht : t.isNumeric = true) :
      HasTy env T (.binary op left right) t
  | test {T op left right} (hop : op.isArithmetic = false) : HasTy env T (.binary op left right) .boolean
  | conditional {T condition thenBranch elseBranch s t} (h₁ : HasTy env T thenBranch s) (h₂ : HasTy env T elseBranch t) :
      HasTy env T (.conditional condition thenBranch elseBranch) (s.unify t)
  | call {T f args types lambdas} (hsteady : f.isSteady types lambdas = true)
      (hargs : HasTys env T f types 0 f.signature.params args types lambdas) :
      HasTy env T (.call f.name args) (resultTy f.signature.returns types lambdas)

/-- The types of the arguments of a builtin from a place on, and those of the results of its lambdas, given the types of
all its arguments. In the place of a lambda there is any value, and the other way round. -/
inductive HasTys (env : TypeEnv) : List Ty → Builtin → List Ty → Nat → List Template → List Node → List Ty → List Ty →
    Prop where
  | nil {T f types i} : HasTys env T f types i [] [] [] []
  | lambda {T f types i n ts arity body args as ls t} (h : HasTy env (T ++ f.lambdaParams i types) body t)
      (hs : HasTys env T f types (i + 1) ts args as ls) :
      HasTys env T f types i (.lambda n :: ts) (.lambda arity body :: args) (.any :: as) (t :: ls)
  | plain {T f types i template ts arg args as ls t} (hnot : ∀ arity body, arg ≠ .lambda arity body)
      (hfits : template.accepts t = true) (h : HasTy env T arg t) (hs : HasTys env T f types (i + 1) ts args as ls) :
      HasTys env T f types i (template :: ts) (arg :: args) (t :: as) (.any :: ls)

end

/-! ## Inferred types -/

mutual

/-- Whether in an expression there is neither a fold nor a call that keeps items of what has the type of null. Both
give their result a type that it may not have. -/
def isFaithful (env : TypeEnv) (T : List Ty) : BoundExpr → Bool
  | .literal _ _ => true
  | .ident _ _ _ => true
  | .access _ object _ _ default => isFaithful env T object && isFaithfulDefault env T default
  | .index _ object key => isFaithful env T object && isFaithful env T key
  | .unary _ _ operand => isFaithful env T operand
  | .binary _ _ left right => isFaithful env T left && isFaithful env T right
  | .conditional _ condition thenBranch elseBranch =>
    isFaithful env T condition && isFaithful env T thenBranch && isFaithful env T elseBranch
  | .lambda _ _ body => isFaithful env T body
  | .call span _ f args =>
    let types := (env.compilePlain T span f f.signature.params 1 args).map Typed.ty
    f != .fold && !(f.keepsItems && types[0]? == some .null) && isFaithfulArgs env T f types 0 args

def isFaithfulDefault (env : TypeEnv) (T : List Ty) : Option BoundExpr → Bool
  | none => true
  | some e => isFaithful env T e

/-- The same of the arguments of a builtin from a place on, given the types of all its arguments. -/
def isFaithfulArgs (env : TypeEnv) (T : List Ty) (f : Builtin) (types : List Ty) : Nat → List BoundExpr → Bool
  | _, [] => true
  | i, arg :: args =>
    (match arg with
      | .lambda _ _ body => isFaithful env (T ++ f.lambdaParams i types) body
      | arg => isFaithful env T arg) && isFaithfulArgs env T f types (i + 1) args

end

mutual

/-- Whether every call that the value of an expression may come from gives what its signature says. -/
def isSteady (env : TypeEnv) (T : List Ty) : BoundExpr → Bool
  | .literal _ _ => true
  | .ident _ _ _ => true
  | .access _ _ _ _ _ => true
  | .index _ object _ => isSteady env T object
  | .unary _ _ _ => true
  | .binary _ _ _ _ => true
  | .conditional _ _ thenBranch elseBranch => isSteady env T thenBranch && isSteady env T elseBranch
  | .lambda _ _ _ => true
  | .call span _ f args =>
    let types := (env.compilePlain T span f f.signature.params 1 args).map Typed.ty
    let lambdas := (env.compileLambdas T span f types f.signature.params 1 args).map Typed.ty
    f.isSteady types lambdas && isSteadyArgs env T f types 0 args

/-- The same of the arguments of a builtin from a place on, given the types of all its arguments. -/
def isSteadyArgs (env : TypeEnv) (T : List Ty) (f : Builtin) (types : List Ty) : Nat → List BoundExpr → Bool
  | _, [] => true
  | i, arg :: args =>
    (match arg with
      | .lambda _ _ body => isSteady env (T ++ f.lambdaParams i types) body
      | arg => isSteady env T arg) && isSteadyArgs env T f types (i + 1) args

end

variable {env : TypeEnv}

mutual

/-- Without folds, and without calls that keep items of null, all calls give what their signatures say. -/
theorem isSteady_of_isFaithful : ∀ (b : BoundExpr) {T : List Ty}, env.isFaithful T b = true → env.isSteady T b = true
  | .literal _ _, T, _ | .ident _ _ _, T, _ | .access _ _ _ _ _, T, _ | .unary _ _ _, T, _ | .binary _ _ _ _, T, _
  | .lambda _ _ _, T, _ => by rw [isSteady]
  | .index _ object key, T, h => by
    rw [isFaithful, Bool.and_eq_true] at h
    rw [isSteady]
    exact isSteady_of_isFaithful object h.1
  | .conditional _ condition thenBranch elseBranch, T, h => by
    rw [isFaithful, Bool.and_eq_true, Bool.and_eq_true] at h
    rw [isSteady, isSteady_of_isFaithful thenBranch h.1.2, isSteady_of_isFaithful elseBranch h.2]
    rfl
  | .call span name f args, T, h => by
    rw [isFaithful, Bool.and_eq_true, Bool.and_eq_true] at h
    obtain ⟨⟨hfold, hitems⟩, hargs⟩ := h
    rw [isSteady, Bool.and_eq_true]
    refine ⟨?_, isSteadyArgs_of_isFaithfulArgs args hargs⟩
    cases f with
    | fold => cases hfold
    | filter | sortBy => exact hitems
    | _ => rfl

theorem isSteadyArgs_of_isFaithfulArgs : ∀ (args : List BoundExpr) {T : List Ty} {f : Builtin} {types : List Ty}
    {i : Nat}, env.isFaithfulArgs T f types i args = true → env.isSteadyArgs T f types i args = true
  | [], _, _, _, _, _ => by rw [isSteadyArgs]
  | arg :: args, T, f, types, i, h => by
    rw [isFaithfulArgs.eq_def] at h
    rw [isSteadyArgs.eq_def]
    dsimp only at h ⊢
    rw [Bool.and_eq_true] at h
    rw [isSteadyArgs_of_isFaithfulArgs args h.2, Bool.and_true]
    have harg := fun T => isSteady_of_isFaithful arg (T := T)
    cases arg with
    | lambda span params body => exact isSteady_of_isFaithful body h.1
    | _ => exact harg T h.1

end

theorem compile_ne_lambda {T : List Ty} {b : BoundExpr} (arity : Nat) (body : Node) :
    (env.compile T b).node ≠ .lambda arity body := by
  intro h
  rcases env.compile_form T b with ⟨span, name, x, rfl, hx⟩ | hform
  · rw [h] at hx
    cases x <;> cases hx
  · rw [h] at hform
    cases hform

theorem faultIf_eq_nil {wrong : Bool} {span : Option Span} {problem : Problem}
    (h : env.faultIf wrong span problem = []) : wrong = false := by
  cases wrong with
  | false => rfl
  | true => cases h

def Inferred (env : TypeEnv) (b : BoundExpr) : Prop :=
  ∀ T, env.Matched b.nodes → env.isSteady T b = true → (env.compile T b).faults = [] →
    env.HasTy T (env.compile T b).node (env.compile T b).ty

def ArgsInferred (env : TypeEnv) (args : List BoundExpr) : Prop :=
  ∀ T span f types i ts, env.Matched (Expr.nodesArgs args) → env.isSteadyArgs T f types i args = true →
    args.length = ts.length →
    (env.compilePlain T span f ts (i + 1) args).flatMap Typed.faults = [] →
    (env.compileLambdas T span f types ts (i + 1) args).flatMap Typed.faults = [] →
    env.HasTys T f types i ts
      (argNodes ts (env.compilePlain T span f ts (i + 1) args) (env.compileLambdas T span f types ts (i + 1) args))
      ((env.compilePlain T span f ts (i + 1) args).map Typed.ty)
      ((env.compileLambdas T span f types ts (i + 1) args).map Typed.ty)

/-- A slot that the types do not have may hold anything. -/
theorem HasTy.getD {T : List Ty} {node : Node} {t? : Option Ty} (h : ∀ t, t? = some t → env.HasTy T node t) :
    env.HasTy T node (t?.getD .any) := by
  cases t? with
  | none => exact .any
  | some t => exact h t rfl

theorem Inferred.ident (span : Option Span) (name : String) (x : Binding) : env.Inferred (.ident span name x) := by
  intro T hmatched _ _
  rw [compile]
  cases x with
  | lambdaParam i => exact .getD fun t ht => .localSlot ht
  | attr i => exact .getD fun t ht => .attributeSlot ht
  | param i => exact .getD fun t ht => .paramSlot ht
  | parentAttr i n attr => exact .parentField
  | parent i n k =>
    obtain ⟨p, hp, rfl⟩ := hmatched span name i n k (by simp [Expr.nodes])
    exact .parentSlot hp

theorem hasTy_access (T : List Ty) (span : Option Span) (object : BoundExpr) (field : String) (safe : Bool)
    (default : Option BoundExpr) :
    env.HasTy T (env.compile T (.access span object field safe default)).node
      (env.compile T (.access span object field safe default)).ty := by
  rw [compile]
  split
  · exact .any
  · unfold plainAccess
    dsimp only
    split
    · split
      · exact .parentField
      · exact .any
    · exact .any

theorem hasTy_unary (T : List Ty) (span : Option Span) (op : UnaryOp) (operand : BoundExpr) :
    env.HasTy T (env.compile T (.unary span op operand)).node (env.compile T (.unary span op operand)).ty := by
  rw [compile]
  cases op with
  | not => exact .not
  | neg =>
    have hty : ∀ t : Typed, (env.unary span .neg t).ty.isNumeric = true := by
      rintro ⟨node, t, faults⟩
      cases t <;> rfl
    exact .neg (hty _)

theorem hasTy_binary (T : List Ty) (span : Option Span) (op : BinaryOp) (left right : BoundExpr) :
    env.HasTy T (env.compile T (.binary span op left right)).node (env.compile T (.binary span op left right)).ty := by
  rw [compile, TypeEnv.binary]
  dsimp only [operatorTy]
  split
  · next hop =>
    refine .arithmetic hop ?_
    split <;> rfl
  · next hop => exact .test (Bool.not_eq_true _ ▸ hop)

theorem Inferred.conditional {span : Option Span} {condition thenBranch elseBranch : BoundExpr}
    (hthen : env.Inferred thenBranch) (helse : env.Inferred elseBranch) :
    env.Inferred (.conditional span condition thenBranch elseBranch) := by
  intro T hmatched hsteady hfaults
  rw [isSteady, Bool.and_eq_true] at hsteady
  rw [compile] at hfaults ⊢
  obtain ⟨-, hthenFaults, helseFaults⟩ := conditional_faults hfaults
  refine .conditional (hthen T (hmatched.mono fun x hx => ?_) hsteady.1 hthenFaults)
    (helse T (hmatched.mono fun x hx => ?_) hsteady.2 helseFaults)
  all_goals simp [Expr.nodes, hx]

theorem Inferred.index {span : Option Span} {object key : BoundExpr} (hobject : env.Inferred object) :
    env.Inferred (.index span object key) := by
  intro T hmatched hsteady hfaults
  rw [isSteady] at hsteady
  rw [compile] at hfaults ⊢
  refine .index (hobject T (hmatched.mono fun x hx => ?_) hsteady (List.append_eq_nil_iff.mp hfaults).1)
  simp [Expr.nodes, hx]

theorem Inferred.call {span : Option Span} {name : String} {f : Builtin} {args : List BoundExpr}
    (hargs : env.ArgsInferred args) : env.Inferred (.call span name f args) := by
  intro T hmatched hsteady hfaults
  rw [isSteady, Bool.and_eq_true] at hsteady
  rw [compile] at hfaults ⊢
  split at hfaults
  · next hlen =>
    rw [if_pos hlen]
    obtain ⟨hplain, hlambdas⟩ := List.append_eq_nil_iff.mp hfaults
    have hnodes : Expr.nodesArgs args ⊆ Expr.nodes (.call span name f args) := by
      rw [Expr.nodes]
      exact List.subset_cons_self _ _
    exact .call hsteady.1
      (hargs T span f _ 0 f.signature.params (hmatched.mono hnodes) hsteady.2 hlen hplain hlambdas)
  · cases hfaults

/-- Where nothing is wrong with arguments of which the first is a lambda, so there should be one, and it is compiled with
the types that the builtin gives to its parameters. -/
theorem compile_args_lambda {T : List Ty} {span own : Option Span} {f : Builtin} {types : List Ty} {i : Nat}
    {t : Template} {ts : List Template} {params : List String} {body : BoundExpr} {args : List BoundExpr}
    (hplain : (env.compilePlain T span f (t :: ts) (i + 1) (.lambda own params body :: args)).flatMap Typed.faults = [])
    (hlambdas : (env.compileLambdas T span f types (t :: ts) (i + 1) (.lambda own params body :: args)).flatMap
      Typed.faults = []) :
    (∃ n, t = .lambda n) ∧ (env.compile (T ++ f.lambdaParams i types) body).faults = [] ∧
      (env.compilePlain T span f ts (i + 1 + 1) args).flatMap Typed.faults = [] ∧
      (env.compileLambdas T span f types ts (i + 1 + 1) args).flatMap Typed.faults = [] ∧
      env.compilePlain T span f (t :: ts) (i + 1) (.lambda own params body :: args) =
        .missing [] :: env.compilePlain T span f ts (i + 1 + 1) args ∧
      env.compileLambdas T span f types (t :: ts) (i + 1) (.lambda own params body :: args) =
        (env.compile (T ++ f.lambdaParams i types) body).asLambda params.length ::
          env.compileLambdas T span f types ts (i + 1 + 1) args := by
  rw [compilePlain] at hplain ⊢
  rw [compileLambdas] at hlambdas ⊢
  rw [List.flatMap_cons, List.append_eq_nil_iff] at hplain hlambdas
  cases t with
  | lambda n =>
    have hown := hlambdas.1
    change (if params.length = (f.lambdaParams i types).length then _ else _ : Typed).faults = [] at hown
    split at hown
    · next hcount =>
      refine ⟨⟨n, rfl⟩, hown, hplain.2, hlambdas.2, rfl, ?_⟩
      change (if params.length = (f.lambdaParams i types).length then _ else _ : Typed) :: _ = _
      rw [if_pos hcount]
      rfl
    · cases hown
  | _ => cases hplain.1

/-- Where nothing is wrong with arguments of which the first is no lambda, so there should be none, and its type fits. -/
theorem compile_args_plain {T : List Ty} {span : Option Span} {f : Builtin} {types : List Ty} {i : Nat} {t : Template}
    {ts : List Template} {arg : BoundExpr} {args : List BoundExpr}
    (hnot : ∀ span params body, arg = .lambda span params body → False)
    (hplain : (env.compilePlain T span f (t :: ts) (i + 1) (arg :: args)).flatMap Typed.faults = [])
    (hlambdas : (env.compileLambdas T span f types (t :: ts) (i + 1) (arg :: args)).flatMap Typed.faults = []) :
    t.isLambda = false ∧ t.accepts (env.compile T arg).ty = true ∧ (env.compile T arg).faults = [] ∧
      (env.compilePlain T span f ts (i + 1 + 1) args).flatMap Typed.faults = [] ∧
      (env.compileLambdas T span f types ts (i + 1 + 1) args).flatMap Typed.faults = [] ∧
      env.compilePlain T span f (t :: ts) (i + 1) (arg :: args) =
        env.compile T arg :: env.compilePlain T span f ts (i + 1 + 1) args ∧
      env.compileLambdas T span f types (t :: ts) (i + 1) (arg :: args) =
        .missing [] :: env.compileLambdas T span f types ts (i + 1 + 1) args := by
  rw [compilePlain] at hplain ⊢
  on_goal 2 => exact hnot
  on_goal 2 => exact hnot
  rw [compileLambdas] at hlambdas ⊢
  on_goal 2 => exact hnot
  on_goal 2 => exact hnot
  rw [List.flatMap_cons, List.append_eq_nil_iff] at hplain hlambdas
  cases ht : t.isLambda with
  | true => rw [ht] at hlambdas; cases hlambdas.1
  | false =>
    rw [ht] at hplain
    obtain ⟨hown, hfits⟩ := List.append_eq_nil_iff.mp hplain.1
    have haccepts : t.accepts (env.compile T arg).ty = true := by simpa using faultIf_eq_nil hfits
    refine ⟨rfl, haccepts, hown, hplain.2, hlambdas.2, congrArg (· :: _) ?_, rfl⟩
    rw [if_neg Bool.false_ne_true]
    dsimp only
    rw [hfits, List.append_nil]

theorem ArgsInferred.lambda {own : Option Span} {params : List String} {body : BoundExpr} {args : List BoundExpr}
    (hbody : env.Inferred body) (hargs : env.ArgsInferred args) : env.ArgsInferred (.lambda own params body :: args) := by
  intro T span f types i ts hmatched hsteady hlen hplain hlambdas
  rw [Expr.nodesArgs] at hmatched
  rw [isSteadyArgs, Bool.and_eq_true] at hsteady
  cases ts with
  | nil => cases hlen
  | cons t ts =>
    obtain ⟨⟨n, rfl⟩, hown, hplain, hlambdas, hplainEq, hlambdasEq⟩ := compile_args_lambda hplain hlambdas
    have ih := hargs T span f types (i + 1) ts (hmatched.mono (List.subset_append_right _ _)) hsteady.2
      (by simpa using hlen) hplain hlambdas
    rw [hplainEq, hlambdasEq]
    refine .lambda (hbody _ (hmatched.mono fun x hx => ?_) hsteady.1 hown) ih
    simp [Expr.nodes, hx]

theorem ArgsInferred.plain {arg : BoundExpr} {args : List BoundExpr}
    (hnot : ∀ span params body, arg = .lambda span params body → False) (harg : env.Inferred arg)
    (hargs : env.ArgsInferred args) : env.ArgsInferred (arg :: args) := by
  intro T span f types i ts hmatched hsteady hlen hplain hlambdas
  rw [Expr.nodesArgs] at hmatched
  rw [isSteadyArgs] at hsteady
  on_goal 2 => exact hnot
  rw [Bool.and_eq_true] at hsteady
  cases ts with
  | nil => cases hlen
  | cons t ts =>
    obtain ⟨ht, haccepts, hown, hplain, hlambdas, hplainEq, hlambdasEq⟩ := compile_args_plain hnot hplain hlambdas
    have ih := hargs T span f types (i + 1) ts (hmatched.mono (List.subset_append_right _ _)) hsteady.2
      (by simpa using hlen) hplain hlambdas
    rw [hplainEq, hlambdasEq]
    simp only [argNodes, List.zip_cons_cons, List.zipWith_cons_cons, ht]
    exact .plain compile_ne_lambda haccepts
      (harg T (hmatched.mono (List.subset_append_left _ _)) hsteady.1 hown) ih

mutual

theorem hasTy_of_steady : ∀ b : BoundExpr, env.Inferred b
  | .literal span v => by
    intro T _ _ _
    rw [compile]
    exact .const
  | .ident span name x => .ident span name x
  | .access span object field safe default => fun T _ _ _ => hasTy_access T span object field safe default
  | .index span object key => .index (hasTy_of_steady object)
  | .unary span op operand => fun T _ _ _ => hasTy_unary T span op operand
  | .binary span op left right => fun T _ _ _ => hasTy_binary T span op left right
  | .conditional span condition thenBranch elseBranch =>
    .conditional (hasTy_of_steady thenBranch) (hasTy_of_steady elseBranch)
  | .lambda span params body => by
    intro T _ _ hfaults
    rw [compile] at hfaults
    cases hfaults
  | .call span name f args => .call (hasTys_of_steady args)

theorem hasTys_of_steady : ∀ args : List BoundExpr, env.ArgsInferred args
  | [] => by
    intro T span f types i ts _ _ hlen _ _
    obtain rfl := List.length_eq_zero_iff.mp hlen.symm
    exact .nil
  | arg :: args => by
    have hargs := hasTys_of_steady args
    have harg := hasTy_of_steady arg
    cases arg with
    | lambda span params body => exact .lambda (hasTy_of_steady body) hargs
    | _ => exact .plain (fun _ _ _ h => nomatch h) harg hargs

end

theorem hasTy_of_compile (b : BoundExpr) (T : List Ty) (hmatched : env.Matched b.nodes)
    (hfaithful : env.isFaithful T b = true) (hfaults : (env.compile T b).faults = []) :
    env.HasTy T (env.compile T b).node (env.compile T b).ty :=
  hasTy_of_steady b T hmatched (isSteady_of_isFaithful b hfaithful) hfaults

end TypeEnv

end Tributary
