import Tributary.Compiled
import Tributary.Proofs.Checked

/-!
# What compiles to what

`Compiles s L e n` : under the scope `s` and the lambda parameters `L` the declared expression `e` becomes the node
`n`. The relation has one rule for each form of expression, and says once what binding and compiling do together
when neither finds anything wrong. What holds of compiled expressions is shown by induction on it.

* `Scope.lookup_binds` : a look-up binds a name to something that the scope has;
* `Node.safe` : the node of a safe access, which makes one path of links without a default of their own;
* `Compiles` : the relation;
* `compiles_of_bind` : an expression that binds and compiles without a fault is related to its node.
-/

namespace Tributary

/-! ## Look-ups -/

theorem lastIndex?_lt {name : String} {names : List String} {i : Nat} (h : lastIndex? name names = some i) :
    i < names.length := by
  induction names generalizing i with
  | nil => simp [lastIndex?] at h
  | cons x xs ih =>
    rw [lastIndex?] at h
    split at h
    · next k hk => cases h; have := ih hk; simp; omega
    · split at h
      · cases h; simp
      · cases h

def Binding.node : Binding → Node
  | lambdaParam slot => .localSlot slot
  | attr slot => .attributeSlot slot
  | parent slot _ _ => .parentSlot slot
  | parentAttr slot _ field => .parentField slot field
  | param slot => .paramSlot slot

theorem TypeEnv.ofBinding_node (env : TypeEnv) (locals : List Ty) (b : Binding) :
    (env.ofBinding locals b).node = b.node := by cases b <;> rfl

namespace Scope

variable {s : Scope} {L : List String} {name : String}

theorem parent?_eq_some {slot : Nat} {p : ParentNames} (h : s.parent? name = some (slot, p)) :
    s.parents[slot]? = some p ∧ p.name = name := by
  obtain ⟨⟨p', slot'⟩, hfind, heq⟩ := Option.map_eq_some_iff.mp h
  cases heq
  refine ⟨List.mem_zipIdx_iff_getElem?.mp (List.mem_of_find?_eq_some hfind), ?_⟩
  simpa using List.find?_some hfind

theorem mem_lenders {slot : Nat} {p : ParentNames} (h : (slot, p) ∈ s.lenders name) :
    s.parents[slot]? = some p ∧ p.multiplicity = .one ∧ name ∈ p.attrs := by
  obtain ⟨⟨q, k⟩, hq, heq⟩ := List.mem_map.mp h
  cases heq
  obtain ⟨hq, hlends⟩ := List.mem_filter.mp hq
  refine ⟨List.mem_zipIdx_iff_getElem?.mp hq, ?_⟩
  simpa [ParentNames.lends] using hlends

def Binds (s : Scope) (L : List String) (name : String) : Binding → Prop
  | .lambdaParam slot => slot < L.length
  | .attr slot => slot < s.current
  | .parent slot _ k => ∃ p, s.parents[slot]? = some p ∧ p.name = name ∧ p.multiplicity = k
  | .parentAttr slot _ attr => ∃ p, s.parents[slot]? = some p ∧ p.multiplicity = .one ∧ attr ∈ p.attrs
  | .param slot => slot < s.params.length

theorem lookupLent_binds {b : Binding} (h : s.lookupLent name = .ok b) : s.Binds L name b := by
  unfold lookupLent at h
  split at h
  · cases h
  · next slot p hlenders =>
    cases h
    exact ⟨p, mem_lenders (hlenders ▸ List.mem_singleton_self _)⟩
  · cases h

theorem lookupGlobal_binds {b : Binding} (h : s.lookupGlobal name = .ok b) : s.Binds L name b := by
  unfold lookupGlobal at h
  split at h
  · split at h
    · next hlt => cases h; exact hlt
    · split at h <;> cases h
  · split at h
    · next slot p hp =>
      cases h
      obtain ⟨hp, hname⟩ := parent?_eq_some hp
      exact ⟨p, hp, hname, rfl⟩
    · split at h
      · next slot hslot =>
        cases h
        exact (List.findIdx?_eq_some_iff_getElem.mp hslot).1
      · exact lookupLent_binds h

/-- A name is bound to something that the scope has. -/
theorem lookup_binds {b : Binding} (h : s.lookup L name = .ok b) : s.Binds L name b := by
  unfold lookup at h
  split at h
  · next slot hslot => cases h; exact lastIndex?_lt hslot
  · exact lookupGlobal_binds h

theorem settle_eq_ok {α : Type} {span : Option Span} {r : Except Problem α} {a : α} :
    s.settle span r = .ok a ↔ r = .ok a := by
  cases r <;> simp [settle, Checked.fail]

theorem function_eq_ok {b : Builtin} : function name = .ok b ↔ Builtin.ofName? name = some b := by
  unfold function
  split <;> simp_all

end Scope

/-! ## The relation -/

/-- A safe access to a field of what a node gives. Links without a default of their own make one path. -/
def Node.safe (node : Node) (field : String) (default : Option Node) : Node :=
  match node with
  | .safePath inner path none => .safePath inner (path ++ [field]) default
  | node => .safePath node [field] default

theorem TypeEnv.safeAccess_node (object : Typed) (field : String) (default : Option Typed) :
    (safeAccess object field default).node = object.node.safe field (default.map Typed.node) := by
  obtain ⟨node, ty, faults⟩ := object
  cases node with
  | safePath inner path own => cases own <;> rfl
  | _ => rfl

def Scope.NamesSingle (s : Scope) (L : List String) (e : SourceExpr) (slot : Nat) : Prop :=
  ∃ span name u n, e = .ident span name u ∧ s.lookup L name = .ok (.parent slot n .one)

mutual

/-- Under a scope and the parameters of the enclosing lambdas, an expression becomes a node. -/
inductive Compiles (s : Scope) : List String → SourceExpr → Node → Prop where
  | literal {L span v} : Compiles s L (.literal span v) (.const v)
  | ident {L span name u b} (hb : s.lookup L name = .ok b) : Compiles s L (.ident span name u) b.node
  | parentField {L span object field default slot} (ho : s.NamesSingle L object slot) :
      Compiles s L (.access span object field false default) (.parentField slot field)
  | field {L span object field default node} (ho : ∀ slot, ¬ s.NamesSingle L object slot)
      (h : Compiles s L object node) : Compiles s L (.access span object field false default) (.field node field)
  | safe {L span object field default node d} (h : Compiles s L object node)
      (hd : CompilesDefault s L default d) :
      Compiles s L (.access span object field true default) (node.safe field d)
  | index {L span object key n₁ n₂} (h₁ : Compiles s L object n₁) (h₂ : Compiles s L key n₂) :
      Compiles s L (.index span object key) (.index n₁ n₂)
  | unary {L span op operand n} (h : Compiles s L operand n) :
      Compiles s L (.unary span op operand) (.unary op n)
  | binary {L span op left right n₁ n₂} (h₁ : Compiles s L left n₁) (h₂ : Compiles s L right n₂) :
      Compiles s L (.binary span op left right) (.binary op n₁ n₂)
  | conditional {L span condition thenBranch elseBranch n₁ n₂ n₃} (h₁ : Compiles s L condition n₁)
      (h₂ : Compiles s L thenBranch n₂) (h₃ : Compiles s L elseBranch n₃) :
      Compiles s L (.conditional span condition thenBranch elseBranch) (.conditional n₁ n₂ n₃)
  | call {L span name u args b nodes} (hb : Builtin.ofName? name = some b)
      (h : CompilesArgs s L b.signature.params args nodes) :
      Compiles s L (.call span name u args) (.call b.name nodes)

inductive CompilesDefault (s : Scope) : List String → Option SourceExpr → Option Node → Prop where
  | none {L} : CompilesDefault s L .none .none
  | some {L e n} (h : Compiles s L e n) : CompilesDefault s L (.some e) (.some n)

/-- Arguments become nodes by the templates of the builtin: a lambda where one is wanted, and nowhere else. -/
inductive CompilesArgs (s : Scope) : List String → List Template → List SourceExpr → List Node → Prop where
  | nil {L} : CompilesArgs s L [] [] []
  | lambda {L ts span params body node args nodes} (h : Compiles s (L ++ params) body node)
      (hs : CompilesArgs s L ts args nodes) :
      CompilesArgs s L (.lambda params.length :: ts) (.lambda span params body :: args)
        (.lambda params.length node :: nodes)
  | plain {L t ts arg node args nodes} (ht : t.isLambda = false) (h : Compiles s L arg node)
      (hs : CompilesArgs s L ts args nodes) : CompilesArgs s L (t :: ts) (arg :: args) (node :: nodes)

end

/-! ## Binding, form by form -/

section Bind
variable {s : Scope} {L : List String} {b : BoundExpr}

theorem bind_ident {span : Option Span} {name : String} {u : Unit} (h : s.bind L (.ident span name u) = .ok b) :
    ∃ x, s.lookup L name = .ok x ∧ b = .ident span name x := by
  obtain ⟨x, hx, rfl⟩ := map_eq_ok.mp h
  exact ⟨x, Scope.settle_eq_ok.mp hx, rfl⟩

theorem bind_access {span : Option Span} {object : SourceExpr} {field : String} {safe : Bool}
    {default : Option SourceExpr} (h : s.bind L (.access span object field safe default) = .ok b) :
    ∃ o d, s.bind L object = .ok o ∧ s.bindDefault L default = .ok d ∧ s.checkField (.ok o) field = .ok () ∧
      b = .access span o field safe d := by
  rw [Scope.bind] at h
  obtain ⟨⟨o, d⟩, ⟨⟩, hp, hc, rfl⟩ := Checked.zipWith_eq_ok.mp h
  obtain ⟨ho, hd⟩ := Checked.both_eq_ok.mp hp
  rw [ho] at hc
  exact ⟨o, d, ho, hd, Scope.settle_eq_ok.mp hc, rfl⟩

theorem bind_index {span : Option Span} {object key : SourceExpr} (h : s.bind L (.index span object key) = .ok b) :
    ∃ o k, s.bind L object = .ok o ∧ s.bind L key = .ok k ∧ b = .index span o k := by
  obtain ⟨o, k, ho, hk, rfl⟩ := Checked.zipWith_eq_ok.mp h
  exact ⟨o, k, ho, hk, rfl⟩

theorem bind_unary {span : Option Span} {op : UnaryOp} {operand : SourceExpr}
    (h : s.bind L (.unary span op operand) = .ok b) : ∃ o, s.bind L operand = .ok o ∧ b = .unary span op o := by
  obtain ⟨o, ho, rfl⟩ := map_eq_ok.mp h
  exact ⟨o, ho, rfl⟩

theorem bind_binary {span : Option Span} {op : BinaryOp} {left right : SourceExpr}
    (h : s.bind L (.binary span op left right) = .ok b) :
    ∃ l r, s.bind L left = .ok l ∧ s.bind L right = .ok r ∧ b = .binary span op l r := by
  obtain ⟨l, r, hl, hr, rfl⟩ := Checked.zipWith_eq_ok.mp h
  exact ⟨l, r, hl, hr, rfl⟩

theorem bind_conditional {span : Option Span} {condition thenBranch elseBranch : SourceExpr}
    (h : s.bind L (.conditional span condition thenBranch elseBranch) = .ok b) :
    ∃ x y z, s.bind L condition = .ok x ∧ s.bind L thenBranch = .ok y ∧ s.bind L elseBranch = .ok z ∧
      b = .conditional span x y z := by
  obtain ⟨x, ⟨y, z⟩, hx, hp, rfl⟩ := Checked.zipWith_eq_ok.mp h
  obtain ⟨hy, hz⟩ := Checked.both_eq_ok.mp hp
  exact ⟨x, y, z, hx, hy, hz, rfl⟩

theorem bind_lambda {span : Option Span} {params : List String} {body : SourceExpr}
    (h : s.bind L (.lambda span params body) = .ok b) :
    ∃ x, s.bind (L ++ params) body = .ok x ∧ b = .lambda span params x := by
  obtain ⟨x, hx, rfl⟩ := map_eq_ok.mp h
  exact ⟨x, hx, rfl⟩

theorem bind_call {span : Option Span} {name : String} {u : Unit} {args : List SourceExpr}
    (h : s.bind L (.call span name u args) = .ok b) :
    ∃ f as, Builtin.ofName? name = some f ∧ s.bindArgs L args = .ok as ∧ b = .call span name f as := by
  obtain ⟨f, as, hf, has, rfl⟩ := Checked.zipWith_eq_ok.mp h
  exact ⟨f, as, Scope.function_eq_ok.mp (Scope.settle_eq_ok.mp hf), has, rfl⟩

theorem bindArgs_cons {arg : SourceExpr} {args : List SourceExpr} {as : List BoundExpr}
    (h : s.bindArgs L (arg :: args) = .ok as) :
    ∃ x xs, s.bind L arg = .ok x ∧ s.bindArgs L args = .ok xs ∧ as = x :: xs := by
  obtain ⟨x, xs, hx, hxs, rfl⟩ := Checked.zipWith_eq_ok.mp h
  exact ⟨x, xs, hx, hxs, rfl⟩

/-- Binding keeps the form of an expression. -/
theorem bind_ctorIdx {e : SourceExpr} (h : s.bind L e = .ok b) : b.ctorIdx = e.ctorIdx := by
  cases e with
  | literal => rw [Scope.bind] at h; cases h; rfl
  | ident => obtain ⟨_, -, rfl⟩ := bind_ident h; rfl
  | access => obtain ⟨_, _, -, -, -, rfl⟩ := bind_access h; rfl
  | index => obtain ⟨_, _, -, -, rfl⟩ := bind_index h; rfl
  | unary => obtain ⟨_, -, rfl⟩ := bind_unary h; rfl
  | binary => obtain ⟨_, _, -, -, rfl⟩ := bind_binary h; rfl
  | conditional => obtain ⟨_, _, _, -, -, -, rfl⟩ := bind_conditional h; rfl
  | lambda => obtain ⟨_, -, rfl⟩ := bind_lambda h; rfl
  | call => obtain ⟨_, _, -, -, rfl⟩ := bind_call h; rfl

/-- What is bound to a name was that name. -/
theorem bind_eq_ident {e : SourceExpr} {span : Option Span} {name : String} {x : Binding}
    (h : s.bind L e = .ok (.ident span name x)) : ∃ u, e = .ident span name u ∧ s.lookup L name = .ok x := by
  have hform := bind_ctorIdx h
  cases e with
  | ident =>
    obtain ⟨x', hx, heq⟩ := bind_ident h
    cases heq
    exact ⟨_, rfl, hx⟩
  | _ => cases hform

/-- What is bound to an access was one, and its field has passed the check. -/
theorem bind_eq_access {e : SourceExpr} {span : Option Span} {o : BoundExpr} {field : String} {safe : Bool}
    {d : Option BoundExpr} (h : s.bind L e = .ok (.access span o field safe d)) :
    (∃ object, s.bind L object = .ok o) ∧ s.checkField (.ok o) field = .ok () := by
  have hform := bind_ctorIdx h
  cases e with
  | access =>
    obtain ⟨o', d', ho, -, hcheck, heq⟩ := bind_access h
    cases heq
    exact ⟨⟨_, ho⟩, hcheck⟩
  | _ => cases hform

/-- What is bound to a lambda was a lambda. -/
theorem bind_eq_lambda {e : SourceExpr} {span : Option Span} {params : List String} {x : BoundExpr}
    (h : s.bind L e = .ok (.lambda span params x)) : ∃ body, e = .lambda span params body := by
  have hform := bind_ctorIdx h
  cases e with
  | lambda =>
    obtain ⟨x', hx, heq⟩ := bind_lambda h
    cases heq
    exact ⟨_, rfl⟩
  | _ => cases hform

end Bind

/-! ## Compiling, form by form -/

/-- Whether a node is neither a slot nor a lambda, nor a path without fields. -/
def Node.isOperation : Node → Bool
  | localSlot _ | attributeSlot _ | parentSlot _ | paramSlot _ | lambda _ _ => false
  | safePath _ path _ => !path.isEmpty
  | _ => true

namespace TypeEnv

variable {env : TypeEnv} {span : Option Span} {object : Typed} {field : String}

theorem plainAccess_faults (h : (env.plainAccess span object field).faults = []) : object.faults = [] := by
  unfold plainAccess at h
  dsimp only at h
  split at h
  · split at h
    · exact h
    · exact (List.append_eq_nil_iff.mp h).1
  · exact (List.append_eq_nil_iff.mp h).1

theorem plainAccess_single {slot : Nat} (hn : object.node = .parentSlot slot) (hs : env.isSingle slot = true) :
    (env.plainAccess span object field).node = .parentField slot field := by
  unfold plainAccess
  simp [hn, hs]

theorem plainAccess_other (h : ∀ slot, object.node = .parentSlot slot → env.isSingle slot = false) :
    (env.plainAccess span object field).node = .field object.node field := by
  unfold plainAccess
  dsimp only
  split
  · next slot hn => rw [h slot hn]; rfl
  · rfl

theorem safeAccess_faults {default : Option Typed} (h : (safeAccess object field default).faults = []) :
    object.faults = [] ∧ ∀ t, default = some t → t.faults = [] := by
  obtain ⟨ho, hd⟩ := List.append_eq_nil_iff.mp h
  refine ⟨ho, ?_⟩
  rintro t rfl
  exact hd

theorem unary_faults {op : UnaryOp} (h : (env.unary span op object).faults = []) : object.faults = [] :=
  (List.append_eq_nil_iff.mp h).1

theorem binary_faults {op : BinaryOp} {left right : Typed} (h : (env.binary span op left right).faults = []) :
    left.faults = [] ∧ right.faults = [] :=
  List.append_eq_nil_iff.mp (List.append_eq_nil_iff.mp h).1

theorem conditional_faults {x y z : Typed} (h : (env.conditional span x y z).faults = []) :
    x.faults = [] ∧ y.faults = [] ∧ z.faults = [] := by
  obtain ⟨h, hz⟩ := List.append_eq_nil_iff.mp h
  obtain ⟨h, hy⟩ := List.append_eq_nil_iff.mp h
  exact ⟨(List.append_eq_nil_iff.mp h).1, hy, hz⟩

/-- A name becomes the node that reads what it means, and everything else becomes an operation. -/
theorem compile_form (T : List Ty) (b : BoundExpr) :
    (∃ span name x, b = .ident span name x ∧ (env.compile T b).node = x.node) ∨
      (env.compile T b).node.isOperation = true := by
  cases b with
  | ident span name x => exact .inl ⟨span, name, x, rfl, by rw [compile, ofBinding_node]⟩
  | access span object field safe default =>
    refine .inr ?_
    rw [compile]
    split
    · rw [safeAccess_node]
      unfold Node.safe
      split <;> simp [Node.isOperation]
    · unfold plainAccess
      dsimp only
      split
      · split <;> rfl
      · rfl
  | call =>
    refine .inr ?_
    rw [compile]
    split <;> rfl
  | _ => exact .inr (by rw [compile]; rfl)

/-- Only the name of a parent becomes a node that reads the parent. -/
theorem compile_parentSlot {T : List Ty} {b : BoundExpr} {slot : Nat}
    (h : (env.compile T b).node = .parentSlot slot) : ∃ span name n k, b = .ident span name (.parent slot n k) := by
  rcases env.compile_form T b with ⟨span, name, x, rfl, hx⟩ | hform
  · rw [h] at hx
    cases x <;> cases hx
    exact ⟨_, _, _, _, rfl⟩
  · rw [h] at hform
    cases hform

end TypeEnv

namespace Builtin

theorem ofName?_name (b : Builtin) : ofName? b.name = some b := by cases b <;> rfl

theorem lambdaParams_length {b : Builtin} {i n : Nat} {types : List Ty}
    (h : b.signature.params[i]? = some (.lambda n)) : (b.lambdaParams i types).length = n := by
  have hpos : n ≠ 0 := by
    rintro rfl
    have hmem := List.mem_of_getElem? h
    cases b <;> simp [signature] at hmem
  unfold lambdaParams
  rw [h]
  dsimp only
  split
  · next heq => cases heq; rfl
  · next heq => cases heq; simp; omega
  · next h1 h2 => exact absurd rfl (h2 n)

end Builtin

/-! ## From binding and compiling to the relation -/

/-- The nodes of a call's arguments: its lambdas where they are wanted, else the plain arguments. -/
def TypeEnv.argNodes (templates : List Template) (plain lambdas : List Typed) : List Node :=
  List.zipWith (fun (t : Template) (p : Typed × Typed) => if t.isLambda then p.2.node else p.1.node) templates
    (plain.zip lambdas)

/-- The types of an expression know of which parents there is one. -/
def TypeEnv.Fits (env : TypeEnv) (s : Scope) : Prop :=
  ∀ slot, env.isSingle slot = (s.parents[slot]?).any fun p => p.multiplicity == .one

/-- Where an expression binds and compiles without a fault, it is related to its node. -/
def Related (s : Scope) (env : TypeEnv) (e : SourceExpr) : Prop :=
  ∀ (L : List String) (T : List Ty) (b : BoundExpr), s.bind L e = .ok b → (env.compile T b).faults = [] →
    Compiles s L e (env.compile T b).node

/-- Where arguments bind and compile without a fault, they are related to their nodes. The templates `ts` are those
of the builtin from position `i` on. -/
def ArgsRelated (s : Scope) (env : TypeEnv) (args : List SourceExpr) : Prop :=
  ∀ (L : List String) (T : List Ty) (span : Option Span) (f : Builtin) (types : List Ty) (i : Nat)
    (ts : List Template) (as : List BoundExpr), s.bindArgs L args = .ok as → f.signature.params.drop i = ts →
    as.length = ts.length → (env.compilePlain T span f ts (i + 1) as).flatMap Typed.faults = [] →
    (env.compileLambdas T span f types ts (i + 1) as).flatMap Typed.faults = [] →
      CompilesArgs s L ts args (TypeEnv.argNodes ts (env.compilePlain T span f ts (i + 1) as)
        (env.compileLambdas T span f types ts (i + 1) as))

section Related
variable {s : Scope} {env : TypeEnv}

theorem Related.plainAccess (hfits : env.Fits s) {L : List String} {T : List Ty} {span : Option Span}
    {object : SourceExpr} {field : String} {default : Option SourceExpr} {o : BoundExpr}
    (ho : s.bind L object = .ok o) (h : Compiles s L object (env.compile T o).node) :
    Compiles s L (.access span object field false default)
      (env.plainAccess span (env.compile T o) field).node := by
  by_cases hdirect : ∃ slot, s.NamesSingle L object slot
  · obtain ⟨slot, hslot⟩ := hdirect
    obtain ⟨span', name, u, n, rfl, hname⟩ := id hslot
    obtain ⟨x, hx, rfl⟩ := bind_ident ho
    obtain rfl := Except.ok.inj (hname.symm.trans hx)
    obtain ⟨p, hp, -, hone⟩ := Scope.lookup_binds hname
    have hs : env.isSingle slot = true := by rw [hfits slot, hp]; simp [hone]
    have hn : (env.compile T (.ident span' name (.parent slot n .one))).node = .parentSlot slot := by
      rw [TypeEnv.compile]; rfl
    rw [TypeEnv.plainAccess_single hn hs]
    exact .parentField hslot
  · rw [TypeEnv.plainAccess_other ?_]
    · exact .field (fun slot hslot => hdirect ⟨slot, hslot⟩) h
    · intro slot hn
      obtain ⟨span', name, n, k, rfl⟩ := TypeEnv.compile_parentSlot hn
      obtain ⟨u, rfl, hname⟩ := bind_eq_ident ho
      obtain ⟨p, hp, -, hk⟩ := Scope.lookup_binds hname
      cases k with
      | one => exact absurd ⟨slot, span', name, u, n, rfl, hname⟩ hdirect
      | many => rw [hfits slot, hp]; simp [hk]

/-- A lambda before further arguments: its place wants one with as many parameters. -/
theorem ArgsRelated.lambda {span' : Option Span} {params : List String} {body : SourceExpr}
    {args : List SourceExpr} (hbody : Related s env body) (hargs : ArgsRelated s env args) :
    ArgsRelated s env (.lambda span' params body :: args) := by
  intro L T span f types i ts as has hts hlen hpf hlf
  obtain ⟨x, xs, hx, hxs, rfl⟩ := bindArgs_cons has
  obtain ⟨y, hy, rfl⟩ := bind_lambda hx
  cases ts with
  | nil => simp at hlen
  | cons t ts =>
    rw [TypeEnv.compilePlain, List.flatMap_cons, List.append_eq_nil_iff] at hpf
    rw [TypeEnv.compileLambdas, List.flatMap_cons, List.append_eq_nil_iff] at hlf
    have ht : f.signature.params[i]? = some t := by rw [← List.head?_drop, hts]; rfl
    have hts' : f.signature.params.drop (i + 1) = ts := by rw [← List.tail_drop, hts]; rfl
    have ih := hargs L T span f types (i + 1) ts xs hxs hts' (by simpa using hlen) hpf.2 hlf.2
    rw [TypeEnv.compilePlain, TypeEnv.compileLambdas]
    cases t with
    | lambda n =>
      have hexp : (f.lambdaParams i types).length = n := Builtin.lambdaParams_length ht
      have hl := hlf.1
      change (if params.length = (f.lambdaParams i types).length then _ else _ : Typed).faults = [] at hl
      change CompilesArgs s L _ _ (Typed.node (if params.length = (f.lambdaParams i types).length then _ else _) :: _)
      split at hl
      · next hcount =>
        rw [if_pos hcount]
        obtain rfl : params.length = n := hcount.trans hexp
        exact .lambda (hbody (L ++ params) _ y hy hl) ih
      · cases hl
    | _ => cases hpf.1

/-- A plain argument before further ones: its place wants no lambda. -/
theorem ArgsRelated.plain {arg : SourceExpr} {args : List SourceExpr}
    (hnot : ∀ span params body, arg ≠ .lambda span params body) (harg : Related s env arg)
    (hargs : ArgsRelated s env args) : ArgsRelated s env (arg :: args) := by
  intro L T span f types i ts as has hts hlen hpf hlf
  obtain ⟨x, xs, hx, hxs, rfl⟩ := bindArgs_cons has
  have hbound : ∀ span params body, x = .lambda span params body → False := by
    rintro span params body rfl
    obtain ⟨body', rfl⟩ := bind_eq_lambda hx
    exact hnot _ _ _ rfl
  cases ts with
  | nil => simp at hlen
  | cons t ts =>
    rw [TypeEnv.compilePlain, List.flatMap_cons, List.append_eq_nil_iff] at hpf
    on_goal 2 => exact hbound
    rw [TypeEnv.compileLambdas, List.flatMap_cons, List.append_eq_nil_iff] at hlf
    on_goal 2 => exact hbound
    have hts' : f.signature.params.drop (i + 1) = ts := by rw [← List.tail_drop, hts]; rfl
    have ih := hargs L T span f types (i + 1) ts xs hxs hts' (by simpa using hlen) hpf.2 hlf.2
    rw [TypeEnv.compilePlain, TypeEnv.compileLambdas]
    on_goal 2 => exact hbound
    on_goal 2 => exact hbound
    cases ht : t.isLambda with
    | true => rw [ht] at hlf; cases hlf.1
    | false =>
      rw [ht] at hpf
      have hx' : Compiles s L arg (env.compile T x).node :=
        harg L T x hx (List.append_eq_nil_iff.mp hpf.1).1
      simp only [TypeEnv.argNodes, List.zip_cons_cons, List.zipWith_cons_cons, ht]
      exact .plain ht hx' ih

mutual

theorem compiles_of_bind (hfits : env.Fits s) : ∀ e : SourceExpr, Related s env e
  | .literal span v => by
    intro L T b hb hf
    rw [Scope.bind] at hb
    cases hb
    rw [TypeEnv.compile]
    exact .literal
  | .ident span name u => by
    intro L T b hb hf
    obtain ⟨x, hx, rfl⟩ := bind_ident hb
    rw [TypeEnv.compile, TypeEnv.ofBinding_node]
    exact .ident hx
  | .access span object field true default => by
    intro L T b hb hf
    obtain ⟨o, d, ho, hd, -, rfl⟩ := bind_access hb
    rw [TypeEnv.compile, if_pos rfl] at hf ⊢
    obtain ⟨hof, hdf⟩ := TypeEnv.safeAccess_faults hf
    rw [TypeEnv.safeAccess_node]
    exact .safe (compiles_of_bind hfits object L T o ho hof) (compilesDefault_of_bind hfits default L T d hd hdf)
  | .access span object field false default => by
    intro L T b hb hf
    obtain ⟨o, d, ho, hd, -, rfl⟩ := bind_access hb
    rw [TypeEnv.compile, if_neg Bool.false_ne_true] at hf ⊢
    exact Related.plainAccess hfits ho
      (compiles_of_bind hfits object L T o ho (TypeEnv.plainAccess_faults hf))
  | .index span object key => by
    intro L T b hb hf
    obtain ⟨o, k, ho, hk, rfl⟩ := bind_index hb
    rw [TypeEnv.compile] at hf ⊢
    obtain ⟨hof, hkf⟩ := List.append_eq_nil_iff.mp hf
    exact .index (compiles_of_bind hfits object L T o ho hof) (compiles_of_bind hfits key L T k hk hkf)
  | .unary span op operand => by
    intro L T b hb hf
    obtain ⟨o, ho, rfl⟩ := bind_unary hb
    rw [TypeEnv.compile] at hf ⊢
    exact .unary (compiles_of_bind hfits operand L T o ho (TypeEnv.unary_faults hf))
  | .binary span op left right => by
    intro L T b hb hf
    obtain ⟨l, r, hl, hr, rfl⟩ := bind_binary hb
    rw [TypeEnv.compile] at hf ⊢
    obtain ⟨hlf, hrf⟩ := TypeEnv.binary_faults hf
    exact .binary (compiles_of_bind hfits left L T l hl hlf) (compiles_of_bind hfits right L T r hr hrf)
  | .conditional span condition thenBranch elseBranch => by
    intro L T b hb hf
    obtain ⟨x, y, z, hx, hy, hz, rfl⟩ := bind_conditional hb
    rw [TypeEnv.compile] at hf ⊢
    obtain ⟨hxf, hyf, hzf⟩ := TypeEnv.conditional_faults hf
    exact .conditional (compiles_of_bind hfits condition L T x hx hxf)
      (compiles_of_bind hfits thenBranch L T y hy hyf) (compiles_of_bind hfits elseBranch L T z hz hzf)
  | .lambda span params body => by
    intro L T b hb hf
    obtain ⟨x, -, rfl⟩ := bind_lambda hb
    rw [TypeEnv.compile] at hf
    cases hf
  | .call span name u args => by
    intro L T b hb hf
    obtain ⟨f, as, hname, has, rfl⟩ := bind_call hb
    rw [TypeEnv.compile] at hf ⊢
    split at hf
    · next hlen =>
      rw [if_pos hlen]
      obtain ⟨hpf, hlf⟩ := List.append_eq_nil_iff.mp hf
      exact .call hname
        (compilesArgs_of_bind hfits args L T span f _ 0 f.signature.params as has rfl hlen hpf hlf)
    · cases hf

theorem compilesDefault_of_bind (hfits : env.Fits s) : ∀ (e : Option SourceExpr) (L : List String) (T : List Ty)
    (b : Option BoundExpr), s.bindDefault L e = .ok b →
      (∀ t, env.compileDefault T b = some t → t.faults = []) →
        CompilesDefault s L e ((env.compileDefault T b).map Typed.node)
  | none, L, T, b, hb, hf => by
    rw [Scope.bindDefault] at hb
    cases hb
    rw [TypeEnv.compileDefault]
    exact .none
  | some e, L, T, b, hb, hf => by
    rw [Scope.bindDefault] at hb
    obtain ⟨x, hx, rfl⟩ := map_eq_ok.mp hb
    rw [TypeEnv.compileDefault] at hf ⊢
    exact .some (compiles_of_bind hfits e L T x hx (hf _ rfl))

theorem compilesArgs_of_bind (hfits : env.Fits s) : ∀ args : List SourceExpr, ArgsRelated s env args
  | [] => by
    intro L T span f types i ts as has hts hlen hpf hlf
    rw [Scope.bindArgs] at has
    cases has
    obtain rfl := List.length_eq_zero_iff.mp hlen.symm
    exact .nil
  | arg :: args => by
    have hargs := compilesArgs_of_bind hfits args
    have harg := compiles_of_bind hfits arg
    cases arg with
    | lambda span params body => exact .lambda (compiles_of_bind hfits body) hargs
    | _ => exact .plain (fun _ _ _ h => nomatch h) harg hargs

end

end Related

end Tributary
