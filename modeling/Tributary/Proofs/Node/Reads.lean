import Tributary.Node.Eval
import Tributary.Proofs.Expr.Compiles

/-!
# What a node reads

* `Read` : a place in a frame; `Frame.get` : what a frame has there;
* `Node.reads` : the places that a node may read;
* `Node.eval_congr` : frames that agree on those places, and on the time, give the same outcome;
* `Compiles.attr_lt` : a compiled expression reads earlier attributes only.
-/

namespace Tributary

inductive Read where
  | attr (slot : Nat)
  | parent (slot : Nat)
  | parentField (slot : Nat) (name : String)
  | param (slot : Nat)
deriving DecidableEq, Repr

namespace Frame

def get (frame : Frame) : Read → Outcome
  | .attr i => .ok (slot frame.attributes i)
  | .parent i => .ok (slot frame.parents i)
  | .parentField i name => readParent (slot frame.parents i) name
  | .param i => .ok (slot frame.params i)

/-- Two frames have the same time and the same at these places. -/
structure Agree (f g : Frame) (reads : List Read) : Prop where
  now : f.now = g.now
  get : ∀ r ∈ reads, f.get r = g.get r

variable {f g : Frame} {rs ss : List Read}

theorem Agree.left (h : Agree f g (rs ++ ss)) : Agree f g rs :=
  ⟨h.now, fun r hr => h.get r (List.mem_append_left ss hr)⟩

theorem Agree.right (h : Agree f g (rs ++ ss)) : Agree f g ss :=
  ⟨h.now, fun r hr => h.get r (List.mem_append_right rs hr)⟩

end Frame

/-- What a path finds depends on its first field only, and a parent that has no fields is as good as none. -/
theorem followPath_cons (v : Value) (name : String) (path : List String) :
    followPath v (name :: path) =
      match readParent v name with
      | .ok .null => .null
      | .ok w => followPath w path
      | .error _ => .null := by
  cases v with
  | object fs =>
    rw [followPath, Value.field?, readParent, readField]
    · cases Fields.get? fs name with
      | none => rfl
      | some w => cases w <;> rfl
    · intro h
      cases h
  | _ => rfl

namespace Node

/-- The places that a path reads at its start, given those of the whole object. -/
def readsPath (object : Node) (path : List String) (whole : List Read) : List Read :=
  match object, path with
  | parentSlot i, name :: _ => [.parentField i name]
  | _, _ => whole

mutual

def reads : Node → List Read
  | const _ => []
  | localSlot _ => []
  | attributeSlot i => [.attr i]
  | parentSlot i => [.parent i]
  | parentField i name => [.parentField i name]
  | paramSlot i => [.param i]
  | field object _ => reads object
  | safePath object path default => readsPath object path (reads object) ++ readsDefault default
  | index object key => reads object ++ reads key
  | unary _ operand => reads operand
  | binary _ left right => reads left ++ reads right
  | conditional condition thenBranch elseBranch => reads condition ++ (reads thenBranch ++ reads elseBranch)
  | lambda _ body => reads body
  | call _ args => readsArgs args

def readsDefault : Option Node → List Read
  | none => []
  | some node => reads node

def readsArgs : List Node → List Read
  | [] => []
  | arg :: args => reads arg ++ readsArgs args

end

section Congr
variable {f g : Frame}

mutual

/-- A node has the same outcome in frames that agree on what it reads. -/
theorem eval_congr : ∀ (node : Node) {locals : List Value}, f.Agree g node.reads →
    node.eval f locals = node.eval g locals
  | const v, locals, h => by rw [eval, eval]
  | localSlot i, locals, h => by rw [eval, eval]
  | attributeSlot i, locals, h => by
    rw [eval, eval]
    exact h.get (.attr i) (by simp [reads])
  | parentSlot i, locals, h => by
    rw [eval, eval]
    exact h.get (.parent i) (by simp [reads])
  | parentField i name, locals, h => by
    rw [eval, eval]
    exact h.get (.parentField i name) (by simp [reads])
  | paramSlot i, locals, h => by
    rw [eval, eval]
    exact h.get (.param i) (by simp [reads])
  | field object name, locals, h => by
    rw [reads] at h
    rw [eval, eval, eval_congr object h]
  | safePath object path default, locals, h => by
    rw [reads] at h
    have hdefault : evalDefault f locals default = evalDefault g locals default := evalDefault_congr default h.right
    have hwhole := h.left
    unfold readsPath at hwhole
    split at hwhole
    · next i name path =>
      have hfield : readParent (slot f.parents i) name = readParent (slot g.parents i) name :=
        hwhole.get (.parentField i name) (List.mem_singleton_self _)
      have hpath : followPath (slot f.parents i) (name :: path) = followPath (slot g.parents i) (name :: path) := by
        rw [followPath_cons, followPath_cons, hfield]
      rw [eval, eval, eval, eval, hdefault]
      simp only [bind, Except.bind, hpath]
    · rw [eval, eval, eval_congr object hwhole, hdefault]
  | index object key, locals, h => by
    rw [reads] at h
    rw [eval, eval, eval_congr object h.left, eval_congr key h.right]
  | unary op operand, locals, h => by
    rw [reads] at h
    rw [eval, eval, eval_congr operand h]
  | binary op left right, locals, h => by
    rw [reads] at h
    rw [eval, eval, eval_congr left h.left, eval_congr right h.right]
  | conditional condition thenBranch elseBranch, locals, h => by
    rw [reads] at h
    rw [eval, eval, eval_congr condition h.left, eval_congr thenBranch h.right.left,
      eval_congr elseBranch h.right.right]
  | lambda arity body, locals, h => by rw [eval, eval]
  | call name args, locals, h => by
    rw [reads] at h
    rw [eval, eval, evalArgs_congr args h, bodies_congr args h, h.now]

theorem evalDefault_congr : ∀ (default : Option Node) {locals : List Value}, f.Agree g (readsDefault default) →
    evalDefault f locals default = evalDefault g locals default
  | none, locals, h => by rw [evalDefault, evalDefault]
  | some node, locals, h => by
    rw [readsDefault] at h
    rw [evalDefault, evalDefault, eval_congr node h]

theorem evalArgs_congr : ∀ (args : List Node) {locals : List Value}, f.Agree g (readsArgs args) →
    evalArgs f locals args = evalArgs g locals args
  | [], locals, h => by rw [evalArgs, evalArgs]
  | arg :: args, locals, h => by
    rw [readsArgs] at h
    have harg : arg.eval f locals = arg.eval g locals := eval_congr arg h.left
    have hargs : evalArgs f locals args = evalArgs g locals args := evalArgs_congr args h.right
    cases arg with
    | lambda arity body => rw [evalArgs, evalArgs, hargs]
    | _ => rw [evalArgs, evalArgs, harg, hargs] <;> nofun

theorem bodies_congr : ∀ (args : List Node) {locals : List Value}, f.Agree g (readsArgs args) →
    bodies f locals args = bodies g locals args
  | [], locals, h => by rw [bodies, bodies]
  | arg :: args, locals, h => by
    rw [readsArgs] at h
    have hargs : bodies f locals args = bodies g locals args := bodies_congr args h.right
    cases arg with
    | lambda arity body =>
      rw [reads] at h
      have hbody : ∀ params, body.eval f (locals ++ params) = body.eval g (locals ++ params) :=
        fun params => eval_congr body h.left
      rw [bodies, bodies, hargs, funext hbody]
    | _ => rw [bodies, bodies, hargs] <;> nofun

end

end Congr

def readsField (node : Node) (name : String) : List Read :=
  match node with
  | parentSlot i => [.parentField i name]
  | safePath (parentSlot i) [] none => [.parentField i name]
  | node => node.reads

theorem reads_safe (node : Node) (name : String) (default : Option Node) :
    (node.safe name default).reads = node.readsField name ++ readsDefault default := by
  cases node with
  | safePath inner path own =>
    cases own with
    | none => cases path <;> cases inner <;> simp [safe, readsField, readsPath, reads, readsDefault]
    | some => simp [safe, readsField, readsPath, reads]
  | _ => simp [safe, readsField, readsPath, reads]

theorem attr_mem_readsField {node : Node} {name : String} {i : Nat} (h : Read.attr i ∈ node.readsField name) :
    Read.attr i ∈ node.reads := by
  unfold readsField at h
  split at h
  · cases List.mem_singleton.mp h
  · cases List.mem_singleton.mp h
  · exact h

end Node

/-! ## Compiled expressions -/

section Compiles
variable {s : Scope} {i : Nat}

mutual

/-- A compiled expression reads only attributes that are declared before its own. -/
theorem Compiles.attr_lt {L : List String} {e : SourceExpr} {node : Node} : Compiles s L e node →
    Read.attr i ∈ node.reads → i < s.current
  | .literal, hi => by simp [Node.reads] at hi
  | .ident (b := b) hb, hi => by
    cases b with
    | attr k =>
      obtain rfl : i = k := by simpa [Binding.node, Node.reads] using hi
      exact Scope.lookup_binds hb
    | _ => simp [Binding.node, Node.reads] at hi
  | .parentField _, hi => by simp [Node.reads] at hi
  | .field _ h, hi => by
    rw [Node.reads] at hi
    exact h.attr_lt hi
  | .safe h hd, hi => by
    rw [Node.reads_safe, List.mem_append] at hi
    exact hi.elim (fun hi => h.attr_lt (Node.attr_mem_readsField hi)) hd.attr_lt
  | .index h₁ h₂, hi => by
    rw [Node.reads, List.mem_append] at hi
    exact hi.elim h₁.attr_lt h₂.attr_lt
  | .unary h, hi => by
    rw [Node.reads] at hi
    exact h.attr_lt hi
  | .binary h₁ h₂, hi => by
    rw [Node.reads, List.mem_append] at hi
    exact hi.elim h₁.attr_lt h₂.attr_lt
  | .conditional h₁ h₂ h₃, hi => by
    rw [Node.reads, List.mem_append, List.mem_append] at hi
    exact hi.elim h₁.attr_lt fun hi => hi.elim h₂.attr_lt h₃.attr_lt
  | .call _ h, hi => by
    rw [Node.reads] at hi
    exact h.attr_lt hi

theorem CompilesDefault.attr_lt {L : List String} {e : Option SourceExpr} {node : Option Node} :
    CompilesDefault s L e node → Read.attr i ∈ Node.readsDefault node → i < s.current
  | .none, hi => by simp [Node.readsDefault] at hi
  | .some h, hi => by
    rw [Node.readsDefault] at hi
    exact h.attr_lt hi

theorem CompilesArgs.attr_lt {L : List String} {ts : List Template} {args : List SourceExpr}
    {nodes : List Node} : CompilesArgs s L ts args nodes → Read.attr i ∈ Node.readsArgs nodes → i < s.current
  | .nil, hi => by simp [Node.readsArgs] at hi
  | .lambda h hs, hi => by
    rw [Node.readsArgs, Node.reads, List.mem_append] at hi
    exact hi.elim h.attr_lt hs.attr_lt
  | .plain _ h hs, hi => by
    rw [Node.readsArgs, List.mem_append] at hi
    exact hi.elim h.attr_lt hs.attr_lt

end

end Compiles

end Tributary
