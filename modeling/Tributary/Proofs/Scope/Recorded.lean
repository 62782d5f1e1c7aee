import Tributary.Proofs.Node.Reads
import Tributary.Proofs.Scope.References

/-!
# What is read is recorded

References are collected from a bound expression, but it is the compiled node that reads. Compiling makes one read of a
field access to a parent, so that a parent may be read as a whole or by single fields.

* `BoundExpr.wholeParents` : the parents that an expression uses otherwise than by their attributes;
* `Recorded` : what the references of an expression say about a read;
* `reads_recorded` : every read of a compiled expression is recorded.
-/

namespace Tributary

/-! ## Parents by name -/

namespace BoundExpr

def isName : BoundExpr → Bool
  | .ident _ _ _ => true
  | _ => false

def namedParent : Binding → List Nat
  | .parent slot _ _ => [slot]
  | _ => []

mutual

/-- The parents that occur in an expression other than by an attribute: neither by the bare name of one nor directly
under an access to a field. -/
def wholeParents : BoundExpr → List Nat
  | .literal _ _ => []
  | .ident _ _ b => namedParent b
  | .access _ object _ _ default => (if isName object then [] else wholeParents object) ++ wholeParentsDefault default
  | .index _ object key => wholeParents object ++ wholeParents key
  | .unary _ _ operand => wholeParents operand
  | .binary _ _ left right => wholeParents left ++ wholeParents right
  | .conditional _ condition thenBranch elseBranch =>
    wholeParents condition ++ wholeParents thenBranch ++ wholeParents elseBranch
  | .lambda _ _ body => wholeParents body
  | .call _ _ _ args => wholeParentsArgs args

def wholeParentsDefault : Option BoundExpr → List Nat
  | none => []
  | some e => wholeParents e

def wholeParentsArgs : List BoundExpr → List Nat
  | [] => []
  | e :: es => wholeParents e ++ wholeParentsArgs es

end

end BoundExpr

/-! ## Records -/

/-- A read is recorded in the nodes of an expression. Of a single parent a read of a field is recorded with the field,
and a read of the whole where the parent occurs as such. -/
def Recorded (single : Nat → Bool) (nodes : List BoundExpr) (whole : List Nat) : Read → Prop
  | .attr k => k ∈ nodes.filterMap BoundExpr.sibling?
  | .param k => k ∈ nodes.filterMap BoundExpr.param?
  | .parent k => k ∈ nodes.filterMap BoundExpr.parent? ∧ (single k = true → k ∈ whole)
  | .parentField k name =>
    k ∈ nodes.filterMap BoundExpr.parent? ∧ (single k = true → (k, name) ∈ nodes.filterMap BoundExpr.parentAttr?)

theorem Recorded.mono {single : Nat → Bool} {nodes nodes' : List BoundExpr} {whole whole' : List Nat} {r : Read}
    (h : Recorded single nodes whole r) (hnodes : nodes ⊆ nodes') (hwhole : whole ⊆ whole') :
    Recorded single nodes' whole' r := by
  have hsub : ∀ {α : Type} (f : BoundExpr → Option α), nodes.filterMap f ⊆ nodes'.filterMap f := by
    intro α f x hx
    obtain ⟨n, hn, hf⟩ := List.mem_filterMap.mp hx
    exact List.mem_filterMap.mpr ⟨n, hnodes hn, hf⟩
  cases r with
  | attr k => exact hsub _ h
  | param k => exact hsub _ h
  | parent k => exact ⟨hsub _ h.1, fun hk => hwhole (h.2 hk)⟩
  | parentField k name => exact ⟨hsub _ h.1, fun hk => hsub _ (h.2 hk)⟩

namespace TypeEnv

/-- A path in a compiled expression has a first field. -/
theorem compile_safePath {env : TypeEnv} {T : List Ty} {b : BoundExpr} {inner : Node} {path : List String}
    {default : Option Node} (h : (env.compile T b).node = .safePath inner path default) : path ≠ [] := by
  rcases env.compile_form T b with ⟨span, name, x, rfl, hx⟩ | hform
  · rw [h] at hx
    cases x <;> cases hx
  · rw [h] at hform
    simpa [Node.isOperation] using hform

def ReadsRecorded (env : TypeEnv) (b : BoundExpr) : Prop :=
  ∀ T, env.Matched b.nodes → ∀ r ∈ (env.compile T b).node.reads,
    Recorded env.isSingle b.nodes (BoundExpr.wholeParents b) r

def ArgsReadsRecorded (env : TypeEnv) (args : List BoundExpr) : Prop :=
  ∀ T span f types ts i, env.Matched (Expr.nodesArgs args) →
    ∀ r ∈ Node.readsArgs (argNodes ts (env.compilePlain T span f ts i args) (env.compileLambdas T span f types ts i args)),
      Recorded env.isSingle (Expr.nodesArgs args) (BoundExpr.wholeParentsArgs args) r

variable {env : TypeEnv}

theorem ReadsRecorded.ident (span : Option Span) (name : String) (x : Binding) :
    env.ReadsRecorded (.ident span name x) := by
  intro T hmatched r hr
  rw [compile, ofBinding_node] at hr
  cases x with
  | lambdaParam => cases hr
  | attr k =>
    obtain rfl := List.mem_singleton.mp hr
    simp [Recorded, Expr.nodes, BoundExpr.sibling?]
  | parent k n mult =>
    obtain rfl := List.mem_singleton.mp hr
    simp [Recorded, Expr.nodes, BoundExpr.parent?, BoundExpr.wholeParents, BoundExpr.namedParent]
  | parentAttr k n attr =>
    obtain rfl := List.mem_singleton.mp hr
    simp [Recorded, Expr.nodes, BoundExpr.parent?, BoundExpr.parentAttr?]
  | param k =>
    obtain rfl := List.mem_singleton.mp hr
    simp [Recorded, Expr.nodes, BoundExpr.param?]

/-- What is read of a parent by a field, safely or not, is recorded with the field. -/
theorem recorded_parentField {span span' : Option Span} {name n field : String} {slot : Nat} {k : Multiplicity}
    {safe : Bool} {default : Option BoundExpr}
    (hmatched : env.Matched (Expr.nodes (.access span' (.ident span name (.parent slot n k)) field safe default))) :
    Recorded env.isSingle (Expr.nodes (.access span' (.ident span name (.parent slot n k)) field safe default))
      (BoundExpr.wholeParents (.access span' (.ident span name (.parent slot n k)) field safe default))
      (.parentField slot field) := by
  refine ⟨?_, fun hsingle => ?_⟩
  · simp [Expr.nodes, BoundExpr.parent?]
  · obtain ⟨p, hp, rfl⟩ := hmatched span name slot n k (by simp [Expr.nodes])
    have hone : p.multiplicity = .one := by simpa [isSingle, hp] using hsingle
    simp [Expr.nodes, BoundExpr.parentAttr?, hone]

/-- Under an access that is not directly to a single parent, what the object reads stays recorded. -/
theorem ReadsRecorded.object {T : List Ty} {span : Option Span} {object : BoundExpr} {field : String} {safe : Bool}
    {default : Option BoundExpr} (hobject : env.ReadsRecorded object)
    (hmatched : env.Matched (Expr.nodes (.access span object field safe default)))
    (hother : ∀ slot, (env.compile T object).node = .parentSlot slot → env.isSingle slot = false) :
    ∀ r ∈ (env.compile T object).node.reads,
      Recorded env.isSingle (Expr.nodes (.access span object field safe default))
        (BoundExpr.wholeParents (.access span object field safe default)) r := by
  intro r hr
  have hnodes : object.nodes ⊆ Expr.nodes (.access span object field safe default) := by
    rw [Expr.nodes]
    exact fun x hx => List.mem_cons_of_mem _ (List.mem_append_left _ hx)
  have hrec := hobject T (hmatched.mono hnodes) r hr
  cases hname : BoundExpr.isName object with
  | false =>
    refine hrec.mono hnodes fun x hx => ?_
    rw [BoundExpr.wholeParents, hname]
    exact List.mem_append_left _ hx
  | true =>
    -- A name reads a parent as a whole only if it is that of a parent, and this one is not single.
    have hrec' : Recorded env.isSingle object.nodes [] r := by
      cases r with
      | parent k =>
        refine ⟨hrec.1, fun hsingle => ?_⟩
        have hnode : (env.compile T object).node = .parentSlot k := by
          cases object <;> cases hname
          next x =>
            rw [compile, ofBinding_node] at hr ⊢
            cases x <;> simp [Binding.node, Node.reads] at hr ⊢
            exact hr.symm
        rw [hother k hnode] at hsingle
        cases hsingle
      | attr k => exact hrec
      | param k => exact hrec
      | parentField k name => exact hrec
    exact hrec'.mono hnodes (List.nil_subset _)

theorem ReadsRecorded.plainAccess {span : Option Span} {object : BoundExpr} {field : String} {default : Option BoundExpr}
    (hobject : env.ReadsRecorded object) : env.ReadsRecorded (.access span object field false default) := by
  intro T hmatched r hr
  rw [compile, if_neg Bool.false_ne_true] at hr
  by_cases hdirect : ∃ slot, (env.compile T object).node = .parentSlot slot ∧ env.isSingle slot = true
  · obtain ⟨slot, hnode, hsingle⟩ := hdirect
    rw [plainAccess_single hnode hsingle] at hr
    obtain rfl := List.mem_singleton.mp hr
    obtain ⟨span', name, n, k, rfl⟩ := compile_parentSlot hnode
    exact recorded_parentField hmatched
  · have hother : ∀ slot, (env.compile T object).node = .parentSlot slot → env.isSingle slot = false := by
      intro slot hnode
      by_contra hsingle
      exact hdirect ⟨slot, hnode, by simpa using hsingle⟩
    rw [plainAccess_other hother, Node.reads] at hr
    exact hobject.object hmatched hother r hr

theorem ReadsRecorded.safeAccess {span : Option Span} {object : BoundExpr} {field : String} {default : Option BoundExpr}
    (hobject : env.ReadsRecorded object)
    (hdefault : ∀ T, env.Matched (Expr.nodesDefault default) →
      ∀ r ∈ Node.readsDefault ((env.compileDefault T default).map Typed.node),
        Recorded env.isSingle (Expr.nodesDefault default) (BoundExpr.wholeParentsDefault default) r) :
    env.ReadsRecorded (.access span object field true default) := by
  intro T hmatched r hr
  rw [compile, if_pos rfl, safeAccess_node, Node.reads_safe, List.mem_append] at hr
  rcases hr with hr | hr
  · unfold Node.readsField at hr
    split at hr
    · next slot hnode =>
      obtain rfl := List.mem_singleton.mp hr
      obtain ⟨span', name, n, k, rfl⟩ := compile_parentSlot hnode
      exact recorded_parentField hmatched
    · next slot hnode => exact absurd rfl (compile_safePath hnode)
    · next hnot _ => exact hobject.object hmatched (fun slot hnode => absurd hnode (hnot slot)) r hr
  · have hnodes : Expr.nodesDefault default ⊆ Expr.nodes (.access span object field true default) := by
      rw [Expr.nodes]
      exact fun x hx => List.mem_cons_of_mem _ (List.mem_append_right _ hx)
    refine (hdefault T (hmatched.mono hnodes) r hr).mono hnodes fun x hx => ?_
    rw [BoundExpr.wholeParents]
    exact List.mem_append_right _ hx

/-- A read of a part is recorded in the whole. -/
theorem ReadsRecorded.part {T : List Ty} {b part : BoundExpr} (hpart : env.ReadsRecorded part)
    (hmatched : env.Matched b.nodes) (hnodes : part.nodes ⊆ b.nodes)
    (hwhole : BoundExpr.wholeParents part ⊆ BoundExpr.wholeParents b) {r : Read}
    (hr : r ∈ (env.compile T part).node.reads) : Recorded env.isSingle b.nodes (BoundExpr.wholeParents b) r :=
  (hpart T (hmatched.mono hnodes) r hr).mono hnodes hwhole

theorem ArgsReadsRecorded.nil : env.ArgsReadsRecorded [] := by
  intro T span f types ts i hmatched r hr
  cases ts <;> simp [argNodes, compilePlain, Node.readsArgs] at hr

/-- Of more arguments, either the first one reads or one of the others. -/
theorem ArgsReadsRecorded.cons {arg : BoundExpr} {args : List BoundExpr} {r : Read}
    (h : Recorded env.isSingle arg.nodes (BoundExpr.wholeParents arg) r ∨
      Recorded env.isSingle (Expr.nodesArgs args) (BoundExpr.wholeParentsArgs args) r) :
    Recorded env.isSingle (Expr.nodesArgs (arg :: args)) (BoundExpr.wholeParentsArgs (arg :: args)) r := by
  rw [Expr.nodesArgs, BoundExpr.wholeParentsArgs]
  rcases h with h | h
  · exact h.mono (List.subset_append_left _ _) (List.subset_append_left _ _)
  · exact h.mono (List.subset_append_right _ _) (List.subset_append_right _ _)

theorem ArgsReadsRecorded.lambda {own : Option Span} {params : List String} {body : BoundExpr} {args : List BoundExpr}
    (hbody : env.ReadsRecorded body) (hargs : env.ArgsReadsRecorded args) :
    env.ArgsReadsRecorded (.lambda own params body :: args) := by
  intro T span f types ts i hmatched r hr
  rw [Expr.nodesArgs] at hmatched
  cases ts with
  | nil => cases hr
  | cons t ts =>
    rw [compilePlain, compileLambdas] at hr
    simp only [argNodes, List.zip_cons_cons, List.zipWith_cons_cons, Node.readsArgs, List.mem_append] at hr
    refine ArgsReadsRecorded.cons (hr.imp (fun hr => ?_) fun hr => ?_)
    · have hnodes : body.nodes ⊆ Expr.nodes (.lambda own params body) := by
        rw [Expr.nodes]
        exact List.subset_cons_self _ _
      split at hr
      · split at hr
        · have hrec := hbody _ (hmatched.mono (List.subset_append_of_subset_left _ hnodes)) r hr
          exact hrec.mono hnodes (by rw [BoundExpr.wholeParents]; exact List.Subset.refl _)
        · cases hr
      · cases hr
    · exact hargs T span f types ts (i + 1) (hmatched.mono (List.subset_append_right _ _)) r hr

theorem ArgsReadsRecorded.plain {arg : BoundExpr} {args : List BoundExpr}
    (hnot : ∀ span params body, arg = .lambda span params body → False) (harg : env.ReadsRecorded arg)
    (hargs : env.ArgsReadsRecorded args) : env.ArgsReadsRecorded (arg :: args) := by
  intro T span f types ts i hmatched r hr
  rw [Expr.nodesArgs] at hmatched
  cases ts with
  | nil => cases hr
  | cons t ts =>
    rw [compilePlain, compileLambdas] at hr
    on_goal 2 => exact hnot
    on_goal 2 => exact hnot
    simp only [argNodes, List.zip_cons_cons, List.zipWith_cons_cons, Node.readsArgs, List.mem_append] at hr
    refine ArgsReadsRecorded.cons (hr.imp (fun hr => ?_) fun hr => ?_)
    · cases ht : t.isLambda with
      | true => rw [ht] at hr; cases hr
      | false =>
        rw [ht] at hr
        exact harg T (hmatched.mono (List.subset_append_left _ _)) r hr
    · exact hargs T span f types ts (i + 1) (hmatched.mono (List.subset_append_right _ _)) r hr

mutual

theorem reads_recorded : ∀ b : BoundExpr, env.ReadsRecorded b
  | .literal span v => by
    intro T hmatched r hr
    rw [compile] at hr
    cases hr
  | .ident span name x => .ident span name x
  | .access span object field true default => .safeAccess (reads_recorded object) (readsDefault_recorded default)
  | .access span object field false default => .plainAccess (reads_recorded object)
  | .index span object key => by
    intro T hmatched r hr
    rw [compile, Node.reads, List.mem_append] at hr
    rcases hr with hr | hr
    · exact (reads_recorded object).part hmatched (by simp [Expr.nodes]) (by simp [BoundExpr.wholeParents]) hr
    · exact (reads_recorded key).part hmatched (by simp [Expr.nodes]) (by simp [BoundExpr.wholeParents]) hr
  | .unary span op operand => by
    intro T hmatched r hr
    rw [compile] at hr
    exact (reads_recorded operand).part hmatched (by simp [Expr.nodes]) (by simp [BoundExpr.wholeParents]) hr
  | .binary span op left right => by
    intro T hmatched r hr
    rw [compile, binary, Node.reads, List.mem_append] at hr
    rcases hr with hr | hr
    · exact (reads_recorded left).part hmatched (by simp [Expr.nodes]) (by simp [BoundExpr.wholeParents]) hr
    · exact (reads_recorded right).part hmatched (by simp [Expr.nodes]) (by simp [BoundExpr.wholeParents]) hr
  | .conditional span condition thenBranch elseBranch => by
    intro T hmatched r hr
    rw [compile, conditional, Node.reads, List.mem_append, List.mem_append] at hr
    rcases hr with hr | hr | hr
    · exact (reads_recorded condition).part hmatched (by simp [Expr.nodes]) (by simp [BoundExpr.wholeParents]) hr
    · have hnodes : thenBranch.nodes ⊆ Expr.nodes (.conditional span condition thenBranch elseBranch) :=
        fun x hx => by simp [Expr.nodes, hx]
      exact (reads_recorded thenBranch).part hmatched hnodes (by simp [BoundExpr.wholeParents]) hr
    · have hnodes : elseBranch.nodes ⊆ Expr.nodes (.conditional span condition thenBranch elseBranch) :=
        fun x hx => by simp [Expr.nodes, hx]
      exact (reads_recorded elseBranch).part hmatched hnodes (by simp [BoundExpr.wholeParents]) hr
  | .lambda span params body => by
    intro T hmatched r hr
    rw [compile] at hr
    cases hr
  | .call span name f args => by
    intro T hmatched r hr
    rw [compile] at hr
    split at hr
    · have hnodes : Expr.nodesArgs args ⊆ Expr.nodes (.call span name f args) := by
        rw [Expr.nodes]
        exact List.subset_cons_self _ _
      rw [Node.reads] at hr
      have hrec := readsArgs_recorded args T span f _ f.signature.params 1 (hmatched.mono hnodes) r hr
      exact hrec.mono hnodes (by rw [BoundExpr.wholeParents]; exact List.Subset.refl _)
    · cases hr

theorem readsDefault_recorded : ∀ (default : Option BoundExpr) (T : List Ty), env.Matched (Expr.nodesDefault default) →
    ∀ r ∈ Node.readsDefault ((env.compileDefault T default).map Typed.node),
      Recorded env.isSingle (Expr.nodesDefault default) (BoundExpr.wholeParentsDefault default) r
  | none, T, hmatched, r, hr => by
    rw [compileDefault] at hr
    cases hr
  | some e, T, hmatched, r, hr => by
    rw [compileDefault] at hr
    exact reads_recorded e T hmatched r hr

theorem readsArgs_recorded : ∀ args : List BoundExpr, env.ArgsReadsRecorded args
  | [] => .nil
  | arg :: args => by
    have hargs := readsArgs_recorded args
    have harg := reads_recorded arg
    cases arg with
    | lambda span params body => exact .lambda (reads_recorded body) hargs
    | _ => exact .plain (fun _ _ _ h => nomatch h) harg hargs

end

end TypeEnv

end Tributary
