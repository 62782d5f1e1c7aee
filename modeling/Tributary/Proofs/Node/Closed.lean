import Tributary.Node.Eval
import Tributary.Proofs.Builtin.Proper
import Tributary.Proofs.Node.Stack
import Tributary.Proofs.Plan.Stages
import Tributary.Proofs.Value.Fields

/-!
# Closed nodes

A node is closed under `n` lambda parameters if every local slot in it is one of those in scope, every call names a
builtin and has its arguments, and lambdas stand only where the builtin takes them, with the parameters that it gives
them. Closed nodes have no defect to run into, whatever the frame holds.

* `Node.Closed` : closed nodes;
* `Compiles.closed` : compiled expressions are closed;
* `Node.ClosedArgs.body` : a lambda among closed arguments is found where the builtin looks for it;
* `Node.Closed.proper` : the outcome of a closed node is no defect;
* `compiled_closed_and_proper` : so is that of every computed attribute of a plan.
-/

namespace Tributary

namespace Node

mutual

/-- A node under so many lambda parameters has no slot, call or lambda that it should not have. -/
inductive Closed : Nat → Node → Prop where
  | const {n v} : Closed n (.const v)
  | localSlot {n i} (h : i < n) : Closed n (.localSlot i)
  | attributeSlot {n i} : Closed n (.attributeSlot i)
  | parentSlot {n i} : Closed n (.parentSlot i)
  | parentField {n i field} : Closed n (.parentField i field)
  | paramSlot {n i} : Closed n (.paramSlot i)
  | field {n object name} (h : Closed n object) : Closed n (.field object name)
  | safePath {n object path default} (h : Closed n object) (hd : ClosedDefault n default) :
      Closed n (.safePath object path default)
  | index {n object key} (h₁ : Closed n object) (h₂ : Closed n key) : Closed n (.index object key)
  | unary {n op operand} (h : Closed n operand) : Closed n (.unary op operand)
  | binary {n op left right} (h₁ : Closed n left) (h₂ : Closed n right) : Closed n (.binary op left right)
  | conditional {n condition thenBranch elseBranch} (h₁ : Closed n condition) (h₂ : Closed n thenBranch)
      (h₃ : Closed n elseBranch) : Closed n (.conditional condition thenBranch elseBranch)
  | call {n name args b} (hb : Builtin.ofName? name = some b) (h : ClosedArgs n b.signature.params args) :
      Closed n (.call name args)

inductive ClosedDefault : Nat → Option Node → Prop where
  | none {n} : ClosedDefault n .none
  | some {n node} (h : Closed n node) : ClosedDefault n (.some node)

/-- There is one closed argument for each parameter of a builtin, a lambda exactly where it takes one. -/
inductive ClosedArgs : Nat → List Template → List Node → Prop where
  | nil {n} : ClosedArgs n [] []
  | lambda {n ts arity body args} (h : Closed (n + arity) body) (hs : ClosedArgs n ts args) :
      ClosedArgs n (.lambda arity :: ts) (.lambda arity body :: args)
  | plain {n t ts arg args} (ht : t.isLambda = false) (h : Closed n arg) (hs : ClosedArgs n ts args) :
      ClosedArgs n (t :: ts) (arg :: args)

end

theorem Closed.ne_lambda {n : Nat} {node : Node} (h : Closed n node) (arity : Nat) (body : Node) :
    node ≠ .lambda arity body := by
  rintro rfl
  cases h

theorem Closed.safe {n : Nat} {node : Node} {field : String} {default : Option Node} (h : Closed n node)
    (hd : ClosedDefault n default) : Closed n (node.safe field default) := by
  unfold Node.safe
  split
  · cases h with
    | safePath hi _ => exact .safePath hi hd
  · exact .safePath h hd

theorem ClosedArgs.length_eq {n : Nat} {ts : List Template} {args : List Node} (h : ClosedArgs n ts args) :
    args.length = ts.length := by
  induction args generalizing ts with
  | nil => cases h; rfl
  | cons arg args ih => cases h <;> simp [ih ‹_›]

end Node

/-! ## Compiled expressions -/

section Compiles
variable {s : Scope}

mutual

theorem Compiles.closed {L : List String} {e : SourceExpr} {node : Node} :
    Compiles s L e node → node.Closed L.length
  | .literal => .const
  | .ident (b := b) hb => by
    cases b with
    | lambdaParam i => exact .localSlot (Scope.lookup_binds hb)
    | attr => exact .attributeSlot
    | parent => exact .parentSlot
    | parentAttr => exact .parentField
    | param => exact .paramSlot
  | .parentField _ => .parentField
  | .field _ h => .field h.closed
  | .safe h hd => h.closed.safe hd.closed
  | .index h₁ h₂ => .index h₁.closed h₂.closed
  | .unary h => .unary h.closed
  | .binary h₁ h₂ => .binary h₁.closed h₂.closed
  | .conditional h₁ h₂ h₃ => .conditional h₁.closed h₂.closed h₃.closed
  | .call (b := b) _ h => .call b.ofName?_name h.closed

theorem CompilesDefault.closed {L : List String} {e : Option SourceExpr} {node : Option Node} :
    CompilesDefault s L e node → Node.ClosedDefault L.length node
  | .none => .none
  | .some h => .some h.closed

theorem CompilesArgs.closed {L : List String} {ts : List Template} {args : List SourceExpr} {nodes : List Node} :
    CompilesArgs s L ts args nodes → Node.ClosedArgs L.length ts nodes
  | .nil => .nil
  | .lambda h hs => .lambda (List.length_append ▸ h.closed) hs.closed
  | .plain ht h hs => .plain ht h.closed hs.closed

end

end Compiles

/-! ## Outcomes -/

theorem truth_proper (operator : String) (v : Value) : Proper (truth operator v) := by
  cases v <;> simp [truth, EvalError.isDefect]

theorem UnaryOp.apply_proper (op : UnaryOp) (v : Value) : Proper (op.apply v) := by
  cases op with
  | not => exact (truth_proper _ v).map _
  | neg => cases v <;> simp [UnaryOp.apply, EvalError.isDefect]

theorem BinaryOp.arithmetic_proper (op : BinaryOp) (m n : Number) : Proper (op.arithmetic m n) := by
  unfold BinaryOp.arithmetic
  split <;> (repeat' split) <;> simp [EvalError.isDefect]

theorem BinaryOp.applyStrict_proper (op : BinaryOp) (v w : Value) : Proper (op.applyStrict v w) := by
  unfold BinaryOp.applyStrict
  dsimp only
  split
  · exact proper_ok _
  · split
    · split <;> simp [EvalError.isDefect]
    · split
      · exact (op.arithmetic_proper _ _).map _
      · simp [EvalError.isDefect]

theorem BinaryOp.apply_proper (op : BinaryOp) (v w : Value) : Proper (op.apply v w) := by
  cases op with
  | eq | ne => exact proper_ok _
  | isIn =>
    unfold BinaryOp.apply
    dsimp only
    split <;> simp [EvalError.isDefect]
  | and =>
    refine (truth_proper _ v).bind fun t => ?_
    split
    · exact (truth_proper _ w).bind fun _ => proper_pure _
    · exact proper_pure _
  | or =>
    refine (truth_proper _ v).bind fun t => ?_
    split
    · exact proper_pure _
    · exact (truth_proper _ w).bind fun _ => proper_pure _
  | _ => exact BinaryOp.applyStrict_proper _ v w

theorem readField_proper (v : Value) (name : String) : Proper (readField v name) := by
  cases v <;> simp [readField, EvalError.isDefect]

theorem readParent_proper (v : Value) (name : String) : Proper (readParent v name) := by
  cases v <;> simp [readParent, readField, EvalError.isDefect]

theorem readIndex_proper (v key : Value) : Proper (readIndex v key) := by
  unfold readIndex
  split <;> simp [EvalError.isDefect]

namespace Node

theorem evalArgs_length {frame : Frame} {locals : List Value} : ∀ {args : List Node} {vs : List Value},
    evalArgs frame locals args = .ok vs → vs.length = args.length
  | [], vs, h => by
    rw [evalArgs] at h
    cases h
    rfl
  | arg :: args, vs, h => by
    by_cases hl : ∃ arity body, arg = lambda arity body
    · obtain ⟨arity, body, rfl⟩ := hl
      rw [evalArgs] at h
      obtain ⟨ws, hws, h⟩ := bind_eq_ok.mp h
      cases h
      simp [evalArgs_length hws]
    · rw [evalArgs] at h
      · obtain ⟨v, -, h⟩ := bind_eq_ok.mp h
        obtain ⟨ws, hws, h⟩ := bind_eq_ok.mp h
        cases h
        simp [evalArgs_length hws]
      · exact fun arity body heq => hl ⟨arity, body, heq⟩

section Outcomes
variable {frame : Frame}

mutual

/-- Whatever the frame holds, a closed node runs into no defect. -/
theorem Closed.proper {n : Nat} {node : Node} : Closed n node → ∀ {locals : List Value}, locals.length = n →
    Proper (node.eval frame locals)
  | .const, locals, hl => by rw [eval]; exact proper_ok _
  | .localSlot h, locals, hl => by
    rw [eval, List.getElem?_eq_getElem (hl ▸ h)]
    exact proper_ok _
  | .attributeSlot, locals, hl => by rw [eval]; exact proper_ok _
  | .parentSlot, locals, hl => by rw [eval]; exact proper_ok _
  | .parentField, locals, hl => by rw [eval]; exact readParent_proper _ _
  | .paramSlot, locals, hl => by rw [eval]; exact proper_ok _
  | .field h, locals, hl => by
    rw [eval]
    exact (h.proper hl).bind fun v => readField_proper v _
  | .safePath h hd, locals, hl => by
    rw [eval]
    refine (h.proper hl).bind fun v => ?_
    split
    · exact hd.proper hl
    · exact proper_ok _
  | .index h₁ h₂, locals, hl => by
    rw [eval]
    exact (h₁.proper hl).bind fun v => (h₂.proper hl).bind fun k => readIndex_proper v k
  | .unary h, locals, hl => by
    rw [eval]
    exact (h.proper hl).bind fun v => UnaryOp.apply_proper _ v
  | .binary h₁ h₂, locals, hl => by
    rw [eval]
    refine (h₁.proper hl).bind fun v => ?_
    split
    · refine (truth_proper _ v).bind fun t => ?_
      split
      · exact (h₂.proper hl).bind fun w => (truth_proper _ w).bind fun _ => proper_pure _
      · exact proper_pure _
    · refine (truth_proper _ v).bind fun t => ?_
      split
      · exact proper_pure _
      · exact (h₂.proper hl).bind fun w => (truth_proper _ w).bind fun _ => proper_pure _
    · exact (h₂.proper hl).bind fun w => BinaryOp.apply_proper _ v w
  | .conditional h₁ h₂ h₃, locals, hl => by
    rw [eval]
    refine (h₁.proper hl).bind fun v => (truth_proper _ v).bind fun t => ?_
    split
    · exact h₂.proper hl
    · exact h₃.proper hl
  | .call (b := b) hb h, locals, hl => by
    rw [eval, hb]
    have hargs : Proper (evalArgs frame locals _) := h.proper hl
    dsimp only
    cases hvs : evalArgs frame locals _ with
    | error err => exact (proper_error err).mpr (hargs err hvs)
    | ok vs =>
      -- The arguments are as many as the signature has, so `b` only asks for lambdas that `body` finds.
      refine b.apply_proper _ ((evalArgs_length hvs).trans h.length_eq) fun i k values hi hlen => ?_
      obtain ⟨f, hf, hproper⟩ := h.body hl hi
      show Proper (invokeAt _ i values)
      rw [invokeAt, hf]
      dsimp only
      rw [if_pos hlen.symm]
      exact hproper values hlen

theorem ClosedDefault.proper {n : Nat} {default : Option Node} : ClosedDefault n default →
    ∀ {locals : List Value}, locals.length = n → Proper (evalDefault frame locals default)
  | .none, locals, hl => by rw [evalDefault]; exact proper_ok _
  | .some h, locals, hl => by rw [evalDefault]; exact h.proper hl

theorem ClosedArgs.proper {n : Nat} {ts : List Template} {args : List Node} : ClosedArgs n ts args →
    ∀ {locals : List Value}, locals.length = n → Proper (evalArgs frame locals args)
  | .nil, locals, hl => by rw [evalArgs]; exact proper_ok _
  | .lambda h hs, locals, hl => by
    rw [evalArgs]
    exact (hs.proper hl).bind fun _ => proper_ok _
  | .plain ht h hs, locals, hl => by
    rw [evalArgs]
    · exact (h.proper hl).bind fun _ => (hs.proper hl).bind fun _ => proper_ok _
    · exact h.ne_lambda

/-- Where a builtin takes a lambda, one is found that takes as many parameters, without a defect in its body. -/
theorem ClosedArgs.body {n : Nat} {ts : List Template} {args : List Node} : ClosedArgs n ts args →
    ∀ {locals : List Value}, locals.length = n → ∀ {i k : Nat}, ts[i]? = some (.lambda k) →
      ∃ f, (bodies frame locals args)[i]? = some (some (k, f)) ∧
        ∀ values : List Value, values.length = k → Proper (f values)
  | .nil, locals, hl, i, k, hi => by simp at hi
  | .lambda h hs, locals, hl, i, k, hi => by
    rw [bodies]
    cases i with
    | zero =>
      cases hi
      exact ⟨_, rfl, fun values hlen => h.proper (by rw [List.length_append, hl, hlen])⟩
    | succ i => exact hs.body hl hi
  | .plain ht h hs, locals, hl, i, k, hi => by
    rw [bodies]
    · cases i with
      | zero => cases hi; cases ht
      | succ i => exact hs.body hl hi
    · exact h.ne_lambda

end

end Outcomes

end Node

/-! ## Plans -/

/-- Every computed attribute of a plan is closed, and evaluates in every frame without an internal error and without
an error about the number of a builtin's arguments. With the parameters of lambdas on one stack it comes to the same, and
leaves the stack empty. -/
theorem compiled_closed_and_proper {options : Options} {d : Document} {plan : Plan}
    (h : Plan.compile options d = .ok plan) {p : EntityPlan} (hp : p ∈ plan.entities) {q : AttributePlan}
    (hq : q ∈ p.attributes) {r : Compiled} (hr : q.compiled = some r) :
    r.root.Closed 0 ∧ ∀ frame : Frame,
      (∀ fault, r.root.eval frame [] ≠ .error (.internal fault)) ∧
      (∀ name expected got, r.root.eval frame [] ≠ .error (.builtin name (.argumentCount expected got))) ∧
      r.root.evalOn frame [] = (r.root.eval frame [], []) := by
  obtain ⟨m, b, g, c, hs⟩ := Stages.of_compile h
  obtain ⟨i, e, e', e'', order, hentity, rfl⟩ := hs.mem_entities hp
  obtain ⟨j, hj⟩ := List.mem_iff_getElem?.mp hq
  obtain ⟨a, a', a'', hattr, rfl⟩ := hentity.planned_attr hj
  obtain ⟨x, -, hcompiles⟩ := hattr.declared_expr hentity hr
  have hclosed : r.root.Closed 0 := hcompiles.closed
  refine ⟨hclosed, fun frame => ⟨fun fault hfault => ?_, fun name expected got hcount => ?_, ?_⟩⟩
  · have := hclosed.proper rfl _ hfault
    cases this
  · have := hclosed.proper rfl _ hcount
    cases this
  · exact r.root.evalOn_restores []

/-- Tables whose rows are summed and sorted: three lambdas, one inside another. -/
def tables : Document :=
  { sources := [{ name := "disk" }]
    entities := [
      { name := "Table"
        source := some "disk"
        attributes := [
          { name := "rows" },
          { name := "sums"
            expr := some (.call none "map" () [
              .call none "sort_by" () [.ident none "rows" (),
                .lambda none ["row"] (.call none "len" () [.ident none "row" ()])],
              .lambda none ["row"] (.call none "fold" () [.ident none "row" (), .literal none (.ofNat 0),
                .lambda none ["sum", "cell"] (.binary none .add (.ident none "sum" ())
                  (.binary none .mul (.ident none "cell" ()) (.call none "len" () [.ident none "row" ()])))])]) }] }] }

def tableFrame (rows : List Value) : Frame := { parents := [], attributes := [.array rows], params := [], now := 0 }

/-- The sums of rows of two cells and of one, and the error where a cell is no number; the stack is empty after both. -/
theorem tables_closed_and_proper : ∃ plan p q r, Plan.compile {} tables = .ok plan ∧ p ∈ plan.entities ∧
    q ∈ p.attributes ∧ q.compiled = some r ∧ r.root.Closed 0 ∧
    r.root.evalOn (tableFrame [.array [.ofNat 1, .ofNat 2], .array [.ofNat 5]]) [] =
      (.ok (.array [.ofNat 5, .ofNat 6]), []) ∧
    r.root.evalOn (tableFrame [.array [.bool true]]) [] = (.error (.invalidOperands "*" "boolean" "number"), []) ∧
    ∀ frame : Frame, ∀ fault, r.root.eval frame [] ≠ .error (.internal fault) := by
  have hvalues : ((Plan.compile {} tables).toOption.bind fun plan => (plan.entities[0]?).bind fun p =>
      (p.attributes[1]?).bind fun q => q.compiled.map fun r =>
        (r.root.eval (tableFrame [.array [.ofNat 1, .ofNat 2], .array [.ofNat 5]]) [],
          r.root.eval (tableFrame [.array [.bool true]]) [])) =
      some (.ok (.array [.ofNat 5, .ofNat 6]), .error (.invalidOperands "*" "boolean" "number")) := by decide +kernel
  obtain ⟨plan, hplan, h⟩ := Option.bind_eq_some_iff.mp hvalues
  obtain ⟨p, hp, h⟩ := Option.bind_eq_some_iff.mp h
  obtain ⟨q, hq, h⟩ := Option.bind_eq_some_iff.mp h
  obtain ⟨r, hr, h⟩ := Option.map_eq_some_iff.mp h
  obtain ⟨hsums, herror⟩ := Prod.mk.inj h
  have hplan := toOption_eq_some.mp hplan
  have hp := List.mem_of_getElem? hp
  have hq := List.mem_of_getElem? hq
  obtain ⟨hclosed, hall⟩ := compiled_closed_and_proper hplan hp hq hr
  refine ⟨plan, p, q, r, hplan, hp, hq, hr, hclosed, ?_, ?_, fun frame => (hall frame).1⟩
  · rw [(hall _).2.2, hsums]
  · rw [(hall _).2.2, herror]

end Tributary
