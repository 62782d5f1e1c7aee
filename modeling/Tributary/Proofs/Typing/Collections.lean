import Tributary.Proofs.Typing.Relaxed
import Tributary.Proofs.Typing.Sound

/-!
# Folds, and what keeps items

A fold is given the type of its lambda. Without items its value is the start, which may be of another type; and from the
second item on the lambda is called with what it gave before, while its parameter was given the type of the start. A
filter or a sort is given the type of what it is called with, which may be that of null; its value is an array. So the
types of such calls hold under conditions on the types of their arguments.

* `Node.eval_fold`, `Node.eval_keeps` : how such calls come to their values;
* `TypeEnv.compile_node_eq` : types do not decide what an expression compiles to;
* `TypeEnv.compile_fold`, `TypeEnv.compile_keeps` : what such calls compile to, if nothing is wrong with them;
* `TypeEnv.FoldTyped` : what types tell of the value of a fold;
* `collection_calls_typed` : what they tell of each such call, and that of steady calls they hold.
-/

namespace Tributary

/-! ## Evaluated calls -/

namespace Node

variable {frame : Frame} {locals : List Value} {v : Value}

theorem eval_fold {c s body : Node} {arity : Nat} (hc : ∀ arity body, c ≠ .lambda arity body)
    (hs : ∀ arity body, s ≠ .lambda arity body)
    (h : (call Builtin.fold.name [c, s, .lambda arity body]).eval frame locals = .ok v) :
    ∃ value items seed, c.eval frame locals = .ok value ∧ Builtin.fold.takeArray value = .ok items ∧
      s.eval frame locals = .ok seed ∧ Builtin.foldItems (fun acc item => invokeAt [none, none,
        some (arity, fun ps => body.eval frame (locals ++ ps))] 2 [acc, item]) seed items = .ok v := by
  rw [eval, Builtin.ofName?_name] at h
  obtain ⟨values, hvalues, h⟩ := bind_eq_ok.mp h
  rw [evalArgs, evalArgs, evalArgs, evalArgs] at hvalues
  on_goal 2 => exact hs
  on_goal 2 => exact hc
  obtain ⟨value, hvalue, hvalues⟩ := bind_eq_ok.mp hvalues
  obtain ⟨rest, hrest, hvalues⟩ := bind_eq_ok.mp hvalues
  obtain ⟨seed, hseed, hrest⟩ := bind_eq_ok.mp hrest
  cases hrest
  cases hvalues
  obtain ⟨items, hitems, h⟩ := bind_eq_ok.mp h
  refine ⟨value, items, seed, hvalue, hitems, hseed, ?_⟩
  rw [bodies, bodies, bodies, bodies] at h
  on_goal 2 => exact hs
  on_goal 2 => exact hc
  exact h

theorem eval_keeps {f : Builtin} {c body : Node} {arity : Nat} (hc : ∀ arity body, c ≠ .lambda arity body)
    (h : (call f.name [c, .lambda arity body]).eval frame locals = .ok v) :
    ∃ value call, c.eval frame locals = .ok value ∧ call.values = [value, .null] ∧ f.apply call = .ok v := by
  rw [eval, Builtin.ofName?_name] at h
  obtain ⟨values, hvalues, h⟩ := bind_eq_ok.mp h
  rw [evalArgs, evalArgs, evalArgs] at hvalues
  on_goal 2 => exact hc
  obtain ⟨value, hvalue, hvalues⟩ := bind_eq_ok.mp hvalues
  cases hvalues
  exact ⟨value, _, hvalue, rfl, h⟩

end Node

namespace TypeEnv

/-! ## Nodes do not depend on types -/

variable {env : TypeEnv}

theorem plainAccess_node_eq {object object' : Typed} (h : object.node = object'.node) (span : Option Span)
    (field : String) : (env.plainAccess span object field).node = (env.plainAccess span object' field).node := by
  unfold plainAccess
  dsimp only
  rw [h]
  split
  · split <;> rfl
  · rfl

theorem safeAccess_node_eq {object object' : Typed} (h : object.node = object'.node) (field : String)
    {default default' : Option Typed} (hd : default.map Typed.node = default'.map Typed.node) :
    (safeAccess object field default).node = (safeAccess object' field default').node := by
  unfold safeAccess
  dsimp only
  rw [h, hd]

theorem lambdaParams_length_eq (f : Builtin) (i : Nat) (types types' : List Ty) :
    (f.lambdaParams i types).length = (f.lambdaParams i types').length := by
  unfold Builtin.lambdaParams
  dsimp only
  split <;> simp

mutual

/-- Types do not decide what an expression compiles to. -/
theorem compile_node_eq : ∀ (b : BoundExpr) (T T' : List Ty), (env.compile T b).node = (env.compile T' b).node
  | .literal _ _, T, T' => by rw [compile, compile]
  | .ident _ _ x, T, T' => by
    rw [compile, compile]
    cases x <;> rfl
  | .access span object field true default, T, T' => by
    rw [compile, compile, if_pos rfl, if_pos rfl]
    exact safeAccess_node_eq (compile_node_eq object T T') field (compileDefault_node_eq default T T')
  | .access span object field false default, T, T' => by
    rw [compile, compile, if_neg Bool.false_ne_true, if_neg Bool.false_ne_true]
    exact plainAccess_node_eq (compile_node_eq object T T') span field
  | .index _ object key, T, T' => by
    rw [compile, compile]
    dsimp only
    rw [compile_node_eq object T T', compile_node_eq key T T']
  | .unary span op operand, T, T' => by
    rw [compile, compile]
    exact congrArg (Node.unary op) (compile_node_eq operand T T')
  | .binary span op left right, T, T' => by
    rw [compile, compile]
    exact congrArg₂ (Node.binary op) (compile_node_eq left T T') (compile_node_eq right T T')
  | .conditional span condition thenBranch elseBranch, T, T' => by
    rw [compile, compile]
    dsimp only [TypeEnv.conditional]
    rw [compile_node_eq condition T T', compile_node_eq thenBranch T T', compile_node_eq elseBranch T T']
  | .lambda span _ _, T, T' => by rw [compile, compile]
  | .call span name f args, T, T' => by
    rw [compile, compile]
    split
    · refine congrArg (Node.call f.name) ?_
      change argNodes _ _ _ = argNodes _ _ _
      rw [argNodes_map, argNodes_map, compilePlain_nodes_eq args T T' span f _ 1,
        compileLambdas_nodes_eq args T T' span f _ _ _ 1]
    · rfl

theorem compileDefault_node_eq : ∀ (default : Option BoundExpr) (T T' : List Ty),
    (env.compileDefault T default).map Typed.node = (env.compileDefault T' default).map Typed.node
  | none, T, T' => by rw [compileDefault, compileDefault]
  | some e, T, T' => by
    rw [compileDefault, compileDefault]
    exact congrArg some (compile_node_eq e T T')

theorem compilePlain_nodes_eq : ∀ (args : List BoundExpr) (T T' : List Ty) (span : Option Span) (f : Builtin)
    (ts : List Template) (i : Nat),
    (env.compilePlain T span f ts i args).map Typed.node = (env.compilePlain T' span f ts i args).map Typed.node
  | [], T, T', span, f, ts, i => by
    cases ts <;> simp [compilePlain]
  | arg :: args, T, T', span, f, [], i => by
    simp [compilePlain]
  | arg :: args, T, T', span, f, t :: ts, i => by
    have hargs := compilePlain_nodes_eq args T T' span f ts (i + 1)
    have harg := compile_node_eq arg T T'
    rw [compilePlain.eq_def, compilePlain.eq_def]
    dsimp only
    rw [List.map_cons, List.map_cons, hargs]
    refine congrArg (· :: _) ?_
    split
    · rfl
    · split
      · rfl
      · exact harg

theorem compileLambdas_nodes_eq : ∀ (args : List BoundExpr) (T T' : List Ty) (span : Option Span) (f : Builtin)
    (types types' : List Ty) (ts : List Template) (i : Nat),
    (env.compileLambdas T span f types ts i args).map Typed.node =
      (env.compileLambdas T' span f types' ts i args).map Typed.node
  | [], T, T', span, f, types, types', ts, i => by
    cases ts <;> simp [compileLambdas]
  | arg :: args, T, T', span, f, types, types', [], i => by
    simp [compileLambdas]
  | arg :: args, T, T', span, f, types, types', t :: ts, i => by
    have hargs := compileLambdas_nodes_eq args T T' span f types types' ts (i + 1)
    rw [compileLambdas.eq_def, compileLambdas.eq_def]
    dsimp only
    rw [List.map_cons, List.map_cons, hargs]
    refine congrArg (· :: _) ?_
    split
    · split
      · next own params body =>
        have hbody := compile_node_eq body (T ++ f.lambdaParams (i - 1) types) (T' ++ f.lambdaParams (i - 1) types')
        rw [lambdaParams_length_eq f (i - 1) types types']
        split
        · exact congrArg (Node.lambda params.length) hbody
        · rfl
      · rfl
    · rfl

end

/-! ## Calls -/

section Calls
variable {T : List Ty} {span : Option Span} {name : String} {f : Builtin} {args : List BoundExpr}

/-- Where nothing is wrong with a call, nothing is wrong with its arguments. -/
theorem compile_call (hfaults : (env.compile T (.call span name f args)).faults = []) :
    let plain := env.compilePlain T span f f.signature.params 1 args
    let lambdas := env.compileLambdas T span f (plain.map Typed.ty) f.signature.params 1 args
    args.length = f.signature.params.length ∧ plain.flatMap Typed.faults = [] ∧ lambdas.flatMap Typed.faults = [] ∧
      (env.compile T (.call span name f args)).node = .call f.name (argNodes f.signature.params plain lambdas) ∧
      (env.compile T (.call span name f args)).ty =
        resultTy f.signature.returns (plain.map Typed.ty) (lambdas.map Typed.ty) := by
  rw [compile] at hfaults ⊢
  split at hfaults
  · next hlen =>
    rw [if_pos hlen]
    obtain ⟨hplain, hlambdas⟩ := List.append_eq_nil_iff.mp hfaults
    exact ⟨hlen, hplain, hlambdas, rfl, rfl⟩
  · cases hfaults

theorem not_lambda_of_plain {types : List Ty} {i : Nat} {t : Template} {ts : List Template} {arg : BoundExpr}
    {rest : List BoundExpr} (ht : t.isLambda = false)
    (hplain : (env.compilePlain T span f (t :: ts) (i + 1) (arg :: rest)).flatMap Typed.faults = [])
    (hlambdas : (env.compileLambdas T span f types (t :: ts) (i + 1) (arg :: rest)).flatMap Typed.faults = []) :
    ∀ span params body, arg = .lambda span params body → False := by
  rintro own params body rfl
  obtain ⟨⟨n, rfl⟩, -⟩ := compile_args_lambda hplain hlambdas
  cases ht

theorem lambda_of_lambda {types : List Ty} {i n : Nat} {ts : List Template} {arg : BoundExpr} {rest : List BoundExpr}
    (hplain : (env.compilePlain T span f (.lambda n :: ts) (i + 1) (arg :: rest)).flatMap Typed.faults = [])
    (hlambdas : (env.compileLambdas T span f types (.lambda n :: ts) (i + 1) (arg :: rest)).flatMap Typed.faults = []) :
    ∃ own params body, arg = .lambda own params body := by
  by_contra hnot
  push Not at hnot
  obtain ⟨ht, -⟩ := compile_args_plain (fun own params body h => hnot own params body h) hplain hlambdas
  cases ht

/-- A fold without a fault: its three arguments, and what it compiles to. -/
theorem compile_fold (hfaults : (env.compile T (.call span name .fold args)).faults = []) :
    ∃ c s own params body, args = [c, s, .lambda own params body] ∧
      (env.compile T c).faults = [] ∧ (env.compile T s).faults = [] ∧
      (env.compile (T ++ [(env.compile T s).ty, (env.compile T c).ty.element]) body).faults = [] ∧
      (env.compile T (.call span name .fold args)).node = .call Builtin.fold.name
        [(env.compile T c).node, (env.compile T s).node, .lambda params.length (env.compile T body).node] ∧
      (env.compile T (.call span name .fold args)).ty =
        (env.compile (T ++ [(env.compile T s).ty, (env.compile T c).ty.element]) body).ty := by
  obtain ⟨hlen, hplain, hlambdas, hnode, hty⟩ := compile_call hfaults
  obtain ⟨c, s, z, rfl⟩ := List.length_eq_three.mp hlen
  change (env.compilePlain T span .fold [.array, .any, .lambda 2] (0 + 1) _).flatMap _ = [] at hplain
  change (env.compileLambdas T span .fold _ [.array, .any, .lambda 2] (0 + 1) _).flatMap _ = [] at hlambdas
  obtain ⟨-, -, hc, hplain, hlambdas, hplain₁, hlambdas₁⟩ :=
    compile_args_plain (not_lambda_of_plain rfl hplain hlambdas) hplain hlambdas
  obtain ⟨-, -, hs, hplain, hlambdas, hplain₂, hlambdas₂⟩ :=
    compile_args_plain (not_lambda_of_plain rfl hplain hlambdas) hplain hlambdas
  obtain ⟨own, params, body, rfl⟩ := lambda_of_lambda hplain hlambdas
  obtain ⟨-, hbody, -, -, hplain₃, hlambdas₃⟩ := compile_args_lambda hplain hlambdas
  have hplainEq : env.compilePlain T span .fold Builtin.fold.signature.params 1 [c, s, .lambda own params body] =
      [env.compile T c, env.compile T s, .missing []] := by
    refine hplain₁.trans ?_
    rw [hplain₂, hplain₃]
    simp [compilePlain]
  rw [hplainEq] at hlambdas₁ hlambdas₂ hlambdas₃ hbody hnode hty
  have hlambdasEq : env.compileLambdas T span .fold [(env.compile T c).ty, (env.compile T s).ty, .any]
      Builtin.fold.signature.params 1 [c, s, .lambda own params body] = [.missing [], .missing [],
        (env.compile (T ++ [(env.compile T s).ty, (env.compile T c).ty.element]) body).asLambda params.length] := by
    refine hlambdas₁.trans ?_
    rw [hlambdas₂, hlambdas₃, compileLambdas]
    · rfl
    · nofun
  refine ⟨c, s, own, params, body, rfl, hc, hs, hbody, ?_, ?_⟩
  · rw [hnode, compile_node_eq body T]
    exact congrArg (fun ls => Node.call _ (argNodes _ _ ls)) hlambdasEq
  · rw [hty]
    exact congrArg (fun ls => resultTy _ _ (List.map Typed.ty ls)) hlambdasEq

/-- A call without a fault that keeps items: its two arguments, and what it compiles to. -/
theorem compile_keeps (hkeeps : f.keepsItems = true)
    (hfaults : (env.compile T (.call span name f args)).faults = []) :
    ∃ c own params body, args = [c, .lambda own params body] ∧ (env.compile T c).faults = [] ∧
      Template.array.accepts (env.compile T c).ty = true ∧
      (env.compile T (.call span name f args)).node =
        .call f.name [(env.compile T c).node, .lambda params.length (env.compile T body).node] ∧
      (env.compile T (.call span name f args)).ty = (env.compile T c).ty := by
  obtain ⟨hlen, hplain, hlambdas, hnode, hty⟩ := compile_call hfaults
  have hsignature : f.signature = ⟨[.array, .lambda 1], .sameAs 0⟩ := by
    cases f <;> first | rfl | cases hkeeps
  rw [hsignature] at hlen hplain hlambdas hnode hty
  obtain ⟨c, z, rfl⟩ := List.length_eq_two.mp hlen
  obtain ⟨-, haccepts, hc, hplain, hlambdas, hplain₁, hlambdas₁⟩ :=
    compile_args_plain (not_lambda_of_plain rfl hplain hlambdas) hplain hlambdas
  obtain ⟨own, params, body, rfl⟩ := lambda_of_lambda hplain hlambdas
  obtain ⟨-, -, -, -, hplain₂, hlambdas₂⟩ := compile_args_lambda hplain hlambdas
  refine ⟨c, own, params, body, rfl, hc, haccepts, ?_, ?_⟩
  · rw [hnode, hlambdas₁, hlambdas₂, hplain₁, hplain₂, compile_node_eq body T]
    rfl
  · rw [hty, hplain₁]
    rfl

end Calls

/-! ## Values of calls -/

section Values
variable {frame : Frame} {T : List Ty} {locals : List Value} {v : Value}

/-- What types tell of the value of a fold over some items. Without items it is of the type of the start, and after one
item of the type that the lambda has. After more of them it is of any type that is kept: if the start is of that type,
and for an accumulator of that type so is what the lambda gives. -/
structure FoldTyped (env : TypeEnv) (T : List Ty) (c s body : BoundExpr) (items : List Value) (v : Value) : Prop where
  empty : items = [] → (env.compile T s).ty.admits v = true
  single : items.length = 1 →
    env.isSteady (T ++ [(env.compile T s).ty, (env.compile T c).ty.element]) body = true →
    (env.compile (T ++ [(env.compile T s).ty, (env.compile T c).ty.element]) body).ty.admits v = true
  kept : ∀ t : Ty, (env.compile T s).ty.within t = true →
    env.isSteady (T ++ [t, (env.compile T c).ty.element]) body = true →
    (env.compile (T ++ [t, (env.compile T c).ty.element]) body).faults = [] →
    (env.compile (T ++ [t, (env.compile T c).ty.element]) body).ty.within t = true →
    t.admits v = true ∧
      (items ≠ [] → (env.compile (T ++ [t, (env.compile T c).ty.element]) body).ty.admits v = true)

theorem foldTyped (hframe : env.Admits frame) (hlocals : Ty.AdmitEach T locals) {c s body : BoundExpr}
    (hmatched : env.Matched body.nodes)
    (hfaults : (env.compile (T ++ [(env.compile T s).ty, (env.compile T c).ty.element]) body).faults = [])
    {arity : Nat} {items : List Value} {seed : Value}
    (hitems : ∀ item ∈ items, (env.compile T c).ty.element.admits item = true)
    (hseed : (env.compile T s).ty.admits seed = true)
    (hv : Builtin.foldItems (fun acc item => invokeAt [none, none,
      some (arity, fun ps => (env.compile T body).node.eval frame (locals ++ ps))] 2 [acc, item]) seed items = .ok v) :
    env.FoldTyped T c s body items v := by
  have hstep : ∀ t : Ty, env.isSteady (T ++ [t, (env.compile T c).ty.element]) body = true →
      (env.compile (T ++ [t, (env.compile T c).ty.element]) body).faults = [] →
      ∀ acc, ∀ item ∈ items, t.admits acc = true →
        Gives (env.compile (T ++ [t, (env.compile T c).ty.element]) body).ty (invokeAt [none, none,
          some (arity, fun ps => (env.compile T body).node.eval frame (locals ++ ps))] 2 [acc, item]) := by
    intro t hsteady hfaults acc item hitem hacc
    refine invokeAt_gives fun _ _ hi => ?_
    cases hi
    -- The node that runs was compiled for another type of the accumulator, but it is the same node.
    have hty := hasTy_of_steady body _ hmatched hsteady hfaults
    rw [compile_node_eq body _ T] at hty
    exact hty.gives hframe (List.rel_append hlocals (.cons hacc (.cons (hitems item hitem) .nil)))
  constructor
  · rintro rfl
    cases hv
    exact hseed
  · intro hone hsteady
    obtain ⟨item, rfl⟩ := List.length_eq_one_iff.mp hone
    obtain ⟨acc, hacc, hv⟩ := bind_eq_ok.mp hv
    cases hv
    exact hstep _ hsteady hfaults seed item List.mem_cons_self hseed v hacc
  · intro t hstart hsteady hfaults hkept
    exact Builtin.foldItems_yields (hstep t hsteady hfaults) (fun w hw => Ty.admits_within hkept hw)
      (Ty.admits_within hstart hseed) v hv

/-- A call that keeps items has their type, and a value of it unless they have the type of null. -/
theorem keeps_typed (hframe : env.Admits frame) (hlocals : Ty.AdmitEach T locals) {span : Option Span} {name : String}
    {f : Builtin} {args : List BoundExpr} (hmatched : env.Matched (Expr.call span name f args).nodes)
    (hkeeps : f.keepsItems = true) (hfaults : (env.compile T (.call span name f args)).faults = [])
    (hv : (env.compile T (.call span name f args)).node.eval frame locals = .ok v) :
    ∃ c own params body, args = [c, .lambda own params body] ∧
      (env.compile T (.call span name f args)).ty = (env.compile T c).ty ∧
      (env.isSteady T c = true → if (env.compile T (.call span name f args)).ty = .null then v = .array []
        else (env.compile T (.call span name f args)).ty.admits v = true) := by
  obtain ⟨c, own, params, body, rfl, hc, haccepts, hnode, hty⟩ := compile_keeps hkeeps hfaults
  refine ⟨c, own, params, body, rfl, hty, fun hsteady => ?_⟩
  rw [hnode] at hv
  obtain ⟨value, call, hvalue, hvalues, happly⟩ := Node.eval_keeps compile_ne_lambda hv
  have hmatched : env.Matched c.nodes := hmatched.mono fun n hn => by simp [Expr.nodes, Expr.nodesArgs, hn]
  have hadmits := (hasTy_of_steady c T hmatched hsteady hc).gives hframe hlocals value hvalue
  rw [hty]
  split
  · next hnull =>
    -- Only null is of the type of null.
    rw [hnull] at hadmits
    rw [Ty.admits_null_iff.mp hadmits] at hvalues
    rw [f.apply_keeps_null call hkeeps hvalues] at happly
    exact (Except.ok.inj happly).symm
  · next hnull =>
    refine f.apply_keeps_gives call hkeeps (Builtin.isSequence_of_accepts haccepts hnull) (fun w hw => ?_) v happly
    rw [hvalues] at hw
    exact Option.some.inj hw ▸ hadmits

theorem fold_typed (hframe : env.Admits frame) (hlocals : Ty.AdmitEach T locals) {span : Option Span} {name : String}
    {args : List BoundExpr} (hmatched : env.Matched (Expr.call span name .fold args).nodes)
    (hfaults : (env.compile T (.call span name .fold args)).faults = [])
    (hv : (env.compile T (.call span name .fold args)).node.eval frame locals = .ok v) :
    ∃ c s own params body, args = [c, s, .lambda own params body] ∧
      (env.compile T (.call span name .fold args)).ty =
        (env.compile (T ++ [(env.compile T s).ty, (env.compile T c).ty.element]) body).ty ∧
      (env.isSteady T c = true → env.isSteady T s = true → ∃ value items,
        (env.compile T c).node.eval frame locals = .ok value ∧ Builtin.fold.takeArray value = .ok items ∧
        env.FoldTyped T c s body items v) := by
  obtain ⟨c, s, own, params, body, rfl, hc, hs, hbody, hnode, hty⟩ := compile_fold hfaults
  refine ⟨c, s, own, params, body, rfl, hty, fun hsteady hsteady' => ?_⟩
  rw [hnode] at hv
  obtain ⟨value, items, seed, hvalue, hitems, hseed, hfold⟩ := Node.eval_fold compile_ne_lambda compile_ne_lambda hv
  have hmatched : env.Matched c.nodes ∧ env.Matched s.nodes ∧ env.Matched body.nodes := by
    refine ⟨hmatched.mono fun n hn => ?_, hmatched.mono fun n hn => ?_, hmatched.mono fun n hn => ?_⟩
    all_goals simp [Expr.nodes, Expr.nodesArgs, hn]
  have hvalue' := (hasTy_of_steady c T hmatched.1 hsteady hc).gives hframe hlocals value hvalue
  have hseed' := (hasTy_of_steady s T hmatched.2.1 hsteady' hs).gives hframe hlocals seed hseed
  have hitems' := Builtin.takeArray_yields .fold hvalue' items hitems
  exact ⟨value, items, hvalue, hitems, foldTyped hframe hlocals hmatched.2.2 hbody hitems' hseed' hfold⟩

end Values

end TypeEnv

/-! ## Calls of a model -/

def BoundExpr.callee? : BoundExpr → Option Builtin
  | .call _ _ f _ => some f
  | _ => none

theorem BoundExpr.callee?_eq_some {x : BoundExpr} {f : Builtin} :
    callee? x = some f ↔ ∃ span name args, x = .call span name f args := by
  cases x <;> simp [callee?]

/-- In every part of an expression of a model, names of parents stand for those of the entity. -/
theorem Model.matched_node {m : Model SourceExpr} {b : Model BoundExpr} (h : m.resolve = .ok b) {e : Entity BoundExpr}
    (he : e ∈ b.entities) {a : Attribute BoundExpr} (ha : a ∈ e.attributes) {x n : BoundExpr} (hx : a.expr = some x)
    (hn : n ∈ x.nodes) (options : Options) (params : List Param) : (b.typeEnv options params e a).Matched n.nodes := by
  obtain ⟨⟨e₀, i⟩, -, he₀⟩ := forall₂_mem_right (Checked.each_eq_ok.mp (resolve_eq_ok h).2.2) he
  obtain ⟨hparents, hattrs⟩ := resolveEntity_eq_ok he₀
  obtain ⟨⟨a₀, j⟩, -, ha₀⟩ := forall₂_mem_right (Checked.each_eq_ok.mp hattrs) ha
  unfold resolveAttr at ha₀
  split at ha₀
  · cases ha₀
    cases hx
  · next x₀ hx₀ =>
    obtain ⟨y, hy, rfl⟩ := map_eq_ok.mp ha₀
    cases hx
    obtain ⟨L, source, hbind⟩ := bind_nodes x₀ hy hn
    exact matched_of_parents hbind (by rw [hparents])

/-- What types tell of the value of a call without a fault, in a frame whose slots hold what is declared. A steady call
has a value of its type. What keeps items has the type of these, and a value of it unless that is the type of null: the
value is then an array without items. A fold has the type of its lambda, given the type of the start to the accumulator;
its value is of that type if the start is, and what the lambda gives may be started from. -/
theorem collection_calls_typed {m : Model SourceExpr} {b : Model BoundExpr} (hb : m.resolve = .ok b)
    {e : Entity BoundExpr} (he : e ∈ b.entities) {a : Attribute BoundExpr} (ha : a ∈ e.attributes) {x : BoundExpr}
    (hx : a.expr = some x) {span : Option Span} {name : String} {f : Builtin} {args : List BoundExpr}
    (hcall : .call span name f args ∈ x.nodes) (options : Options) {params : List Param} {frame : Frame}
    (hframe : frame.conforms b params e = true) {T : List Ty} {locals : List Value} (hlocals : Ty.AdmitEach T locals)
    (hfaults : ((b.typeEnv options params e a).compile T (.call span name f args)).faults = []) {v : Value}
    (hv : ((b.typeEnv options params e a).compile T (.call span name f args)).node.eval frame locals = .ok v) :
    let env := b.typeEnv options params e a
    let ty := (env.compile T (.call span name f args)).ty
    (env.isSteady T (.call span name f args) = true → ty.admits v = true) ∧
    (f.keepsItems = true → ∃ c own params body, args = [c, .lambda own params body] ∧ ty = (env.compile T c).ty ∧
      (env.isSteady T c = true → if ty = .null then v = .array [] else ty.admits v = true)) ∧
    (f = .fold → ∃ c s own params body, args = [c, s, .lambda own params body] ∧
      ty = (env.compile (T ++ [(env.compile T s).ty, (env.compile T c).ty.element]) body).ty ∧
      (env.isSteady T c = true → env.isSteady T s = true → ∃ value items,
        (env.compile T c).node.eval frame locals = .ok value ∧ Builtin.fold.takeArray value = .ok items ∧
        env.FoldTyped T c s body items v)) := by
  intro env ty
  have hmatched : env.Matched (Expr.call span name f args).nodes := Model.matched_node hb he ha hx hcall options params
  have hadmits : env.Admits frame := Frame.admits_of_conforms hframe a
  refine ⟨fun hsteady => ?_, fun hkeeps => TypeEnv.keeps_typed hadmits hlocals hmatched hkeeps hfaults hv, ?_⟩
  · exact (TypeEnv.hasTy_of_steady _ T hmatched hsteady hfaults).gives hadmits hlocals v hv
  · rintro rfl
    exact TypeEnv.fold_typed hadmits hlocals hmatched hfaults hv

/-- Carts with the prices of what is in them. The total leaves out what costs no more than a small fee. -/
def carts : Document :=
  { sources := [{ name := "shop" }]
    entities := [
      { name := "Cart"
        source := some "shop"
        attributes := [
          { name := "prices", type := "array<number>" },
          { name := "total"
            expr := some (.call none "fold" () [
              .call none "filter" () [.ident none "prices" (),
                .lambda none ["price"] (.binary none .gt (.ident none "price" ()) (.literal none (.ofNat 1)))],
              .literal none (.ofNat 0),
              .lambda none ["sum", "price"]
                (.binary none .add (.ident none "sum" ()) (.ident none "price" ()))]) }] }] }

def cartFrame : Frame :=
  { parents := []
    attributes := [.array [.ofNat 5, .ofNat 1, .ofNat 3]]
    params := []
    now := 0 }

theorem cart_total_typed : ∃ m b e a x v, Model.build {} carts = .ok m ∧ m.resolve = .ok b ∧ e ∈ b.entities ∧
    a ∈ e.attributes ∧ a.expr = some x ∧ cartFrame.conforms b [] e = true ∧
    ((b.typeEnv {} [] e a).compile [] x).faults = [] ∧ ((b.typeEnv {} [] e a).compile [] x).ty = .number ∧
    ((b.typeEnv {} [] e a).compile [] x).node.eval cartFrame [] = .ok v ∧ v.same (.ofNat 8) = true ∧
    ((b.typeEnv {} [] e a).compile [] x).ty.admits v = true := by
  have hbound : ((Model.build {} carts).toOption.bind fun m => m.resolve.toOption.bind fun b =>
      (b.entities[0]?).bind fun e => (e.attributes[1]?).bind fun a => a.expr.bind fun x =>
        (((b.typeEnv {} [] e a).compile [] x).node.eval cartFrame []).toOption.map fun v =>
          (BoundExpr.callee? x, cartFrame.conforms b [] e, ((b.typeEnv {} [] e a).compile [] x).faults.isEmpty,
            ((b.typeEnv {} [] e a).compile [] x).ty, (b.typeEnv {} [] e a).isSteady [] x, v.same (.ofNat 8))) =
      some (some .fold, true, true, .number, true, true) := by
    decide +kernel
  obtain ⟨m, hm, h⟩ := Option.bind_eq_some_iff.mp hbound
  obtain ⟨b, hb, h⟩ := Option.bind_eq_some_iff.mp h
  obtain ⟨e, he, h⟩ := Option.bind_eq_some_iff.mp h
  obtain ⟨a, ha, h⟩ := Option.bind_eq_some_iff.mp h
  obtain ⟨x, hx, h⟩ := Option.bind_eq_some_iff.mp h
  obtain ⟨v, hv, h⟩ := Option.map_eq_some_iff.mp h
  simp only [Prod.mk.injEq, List.isEmpty_iff] at h
  obtain ⟨hcallee, hframe, hfaults, hty, hsteady, hsame⟩ := h
  have hm := toOption_eq_some.mp hm
  have hb := toOption_eq_some.mp hb
  have hv := toOption_eq_some.mp hv
  have he := List.mem_of_getElem? he
  have ha := List.mem_of_getElem? ha
  obtain ⟨span, name, args, rfl⟩ := BoundExpr.callee?_eq_some.mp hcallee
  have hcall : .call span name .fold args ∈ Expr.nodes (.call span name .fold args) := by
    rw [Expr.nodes]
    exact List.mem_cons_self
  have htyped := collection_calls_typed hb he ha hx hcall {} hframe .nil hfaults hv
  exact ⟨m, b, e, a, _, v, hm, hb, he, ha, hx, hframe, hfaults, hty, hv, hsame, htyped.1 hsteady⟩

/-- Boxes with the numbers of their labels: the last label, the first item of an item of a list, and what is kept and
sorted of nothing. -/
def boxes : Document :=
  { sources := [{ name := "shelf" }]
    entities := [
      { name := "Box"
        source := some "shelf"
        attributes := [
          { name := "labels", type := "array<integer>" },
          { name := "last"
            expr := some (.call none "fold" () [.ident none "labels" (), .literal none (.string "none"),
              .lambda none ["acc", "label"] (.ident none "label" ())]) },
          { name := "inner"
            expr := some (.call none "fold" () [.literal none (.array [.ofNat 1, .ofNat 2]),
              .literal none (.array [.array [.ofNat 7]]),
              .lambda none ["acc", "x"] (.index none (.ident none "acc" ()) (.literal none (.ofNat 0)))]) },
          { name := "kept"
            expr := some (.call none "filter" () [.literal none .null,
              .lambda none ["x"] (.literal none (.bool true))]) },
          { name := "sorted"
            expr := some (.call none "sort_by" () [.literal none .null,
              .lambda none ["x"] (.ident none "x" ())]) }] }] }

def boxFrame : Frame :=
  { parents := []
    attributes := [.array []]
    params := []
    now := 0 }

theorem box_values_off_types : ∃ m b e, Model.build {} boxes = .ok m ∧ m.resolve = .ok b ∧ e ∈ b.entities ∧
    boxFrame.conforms b [] e = true ∧
    (e.attributes.drop 1).map (fun a => a.expr.bind BoundExpr.callee?) =
      [some .fold, some .fold, some .filter, some .sortBy] ∧
    ∀ a ∈ e.attributes.drop 1, ∃ x v, a.expr = some x ∧ ((b.typeEnv {} [] e a).compile [] x).faults = [] ∧
      ((b.typeEnv {} [] e a).compile [] x).node.eval boxFrame [] = .ok v ∧
      ((b.typeEnv {} [] e a).compile [] x).ty.admits v = false := by
  have hbound : ((Model.build {} boxes).toOption.bind fun m => m.resolve.toOption.bind fun b =>
      (b.entities[0]?).map fun e => (boxFrame.conforms b [] e,
        (e.attributes.drop 1).map (fun a => a.expr.bind BoundExpr.callee?),
        (e.attributes.drop 1).all fun a => a.expr.any fun x =>
          ((b.typeEnv {} [] e a).compile [] x).faults.isEmpty &&
            (((b.typeEnv {} [] e a).compile [] x).node.eval boxFrame []).toOption.any fun v =>
              !((b.typeEnv {} [] e a).compile [] x).ty.admits v)) =
      some (true, [some .fold, some .fold, some .filter, some .sortBy], true) := by
    decide +kernel
  obtain ⟨m, hm, h⟩ := Option.bind_eq_some_iff.mp hbound
  obtain ⟨b, hb, h⟩ := Option.bind_eq_some_iff.mp h
  obtain ⟨e, he, h⟩ := Option.map_eq_some_iff.mp h
  simp only [Prod.mk.injEq, List.all_eq_true, Option.any_eq_true, Bool.and_eq_true, List.isEmpty_iff,
    Bool.not_eq_true', toOption_eq_some] at h
  obtain ⟨hframe, hcallees, hall⟩ := h
  refine ⟨m, b, e, toOption_eq_some.mp hm, toOption_eq_some.mp hb, List.mem_of_getElem? he, hframe, hcallees,
    fun a ha => ?_⟩
  obtain ⟨x, hx, hfaults, v, hv, hoff⟩ := hall a ha
  exact ⟨x, v, hx, hfaults, hv, hoff⟩

end Tributary
