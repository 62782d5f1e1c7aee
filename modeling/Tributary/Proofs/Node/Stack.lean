import Tributary.Node.Eval
import Tributary.Proofs.Checked

/-!
# Evaluation on one stack

The parameters of the enclosing lambdas can be kept on one stack: a call of a lambda puts its arguments on top, evaluates
the body and cuts the stack back to its height, whatever came out. Nothing else changes the stack, so that every
evaluation leaves it as it was, with an error as well as with a value.

* `OnStack` : computations on a stack; `OnStack.within` : the call of a lambda body;
* `OnStack.Restores stack c r` : on this stack the computation comes to `r` and leaves the stack as it was;
* `Builtin.applyOn`, `Node.evalOn` : builtins and nodes on a stack;
* `Builtin.applyOn_restores` : a builtin whose lambdas restore the stack does so itself;
* `Node.evalOn_restores` : a node comes to what it comes to with the parameters in a list, and restores the stack.
-/

namespace Tributary

/-- A computation that reads and changes a stack of values. An error leaves a stack as well. -/
def OnStack (α : Type) : Type := List Value → Except EvalError α × List Value

namespace OnStack

variable {α β : Type}

def done (a : α) : OnStack α := fun stack => (.ok a, stack)

def andThen (c : OnStack α) (f : α → OnStack β) : OnStack β := fun stack =>
  match c stack with
  | (.ok a, left) => f a left
  | (.error e, left) => (.error e, left)

instance : Monad OnStack where
  pure := done
  bind := andThen

def apart (r : Except EvalError α) : OnStack α := fun stack => (r, stack)

def place (i : Nat) : OnStack Value := fun stack =>
  match stack[i]? with
  | some v => (.ok v, stack)
  | none => (.error (.internal (.unboundLocal i)), stack)

/-- A computation with these values on top of the stack, which is cut back to its height afterwards. -/
def within (params : List Value) (body : OnStack Value) : OnStack Value := fun stack =>
  let (r, left) := body (stack ++ params)
  (r, left.take stack.length)

/-- On this stack the computation comes to `r` and leaves the stack as it was. -/
def Restores (stack : List Value) (c : OnStack α) (r : Except EvalError α) : Prop := c stack = (r, stack)

section Restores
variable {stack : List Value}

theorem restores_pure (a : α) : Restores stack (pure a) (pure a) := rfl

theorem restores_apart (r : Except EvalError α) : Restores stack (apart r) r := rfl

theorem Restores.bind {c : OnStack α} {r : Except EvalError α} {f : α → OnStack β} {g : α → Except EvalError β}
    (h : Restores stack c r) (hf : ∀ a, Restores stack (f a) (g a)) : Restores stack (c >>= f) (r >>= g) := by
  show andThen c f stack = _
  rw [andThen, h]
  cases r with
  | error e => rfl
  | ok a => exact hf a

/-- The values that were put on top are gone again, and nothing else. -/
theorem restores_within {params : List Value} {body : OnStack Value} {r : Outcome}
    (h : Restores (stack ++ params) body r) : Restores stack (within params body) r := by
  unfold Restores within
  rw [h]
  exact congrArg (Prod.mk r) List.take_left

end Restores

end OnStack

open OnStack

/-! ## Builtins -/

namespace Builtin

def mapItemsOn (f : Value → OnStack Value) : List Value → OnStack (List Value)
  | [] => return []
  | v :: vs => do
    let w ← f v
    let ws ← mapItemsOn f vs
    return w :: ws

def filterItemsOn (f : Value → OnStack Value) : List Value → OnStack (List Value)
  | [] => return []
  | v :: vs => do
    match ← f v with
    | .bool true => do
      let ws ← filterItemsOn f vs
      return v :: ws
    | .bool false => filterItemsOn f vs
    | .null => filterItemsOn f vs
    | w => apart (.error (filter.mismatch .predicate w))

def foldItemsOn (f : Value → Value → OnStack Value) (acc : Value) : List Value → OnStack Value
  | [] => return acc
  | v :: vs => do
    let acc ← f acc v
    foldItemsOn f acc vs

/-- The outcome of a call whose lambdas work on the stack. Only four builtins call lambdas, if there are as many
arguments as there should be. -/
def applyOn (b : Builtin) (values : List Value) (invoke : Nat → List Value → OnStack Value) (now : Int64) :
    OnStack Value :=
  match b, values with
  | .map, [items, _] => do
    let vs ← apart (Builtin.map.takeArray items)
    let ws ← mapItemsOn (fun v => invoke 1 [v]) vs
    return .array ws
  | .filter, [items, _] => do
    let vs ← apart (Builtin.filter.takeArray items)
    let ws ← filterItemsOn (fun v => invoke 1 [v]) vs
    return .array ws
  | .fold, [items, seed, _] => do
    let vs ← apart (Builtin.fold.takeArray items)
    foldItemsOn (fun acc v => invoke 2 [acc, v]) seed vs
  | .sortBy, [items, _] => do
    let vs ← apart (Builtin.sortBy.takeArray items)
    let keys ← mapItemsOn (fun v => invoke 1 [v]) vs
    return .array ((Value.sortOn Prod.fst (keys.zip vs)).map Prod.snd)
  | b, values => apart (b.apply { values, invoke := fun _ _ => .ok .null, now })

theorem twoArgs_of_ne {b : Builtin} {values : List Value} {f g : Value → Value → Outcome}
    (h : ∀ x y, values ≠ [x, y]) : b.twoArgs values f = b.twoArgs values g := by
  unfold twoArgs
  split
  · exact absurd rfl (h _ _)
  · rfl

theorem threeArgs_of_ne {b : Builtin} {values : List Value} {f g : Value → Value → Value → Outcome}
    (h : ∀ x y z, values ≠ [x, y, z]) : b.threeArgs values f = b.threeArgs values g := by
  unfold threeArgs
  split
  · exact absurd rfl (h _ _ _)
  · rfl

section Restores
variable {stack : List Value}

theorem mapItemsOn_restores {f : Value → OnStack Value} {g : Value → Outcome} (h : ∀ v, Restores stack (f v) (g v)) :
    ∀ vs : List Value, Restores stack (mapItemsOn f vs) (mapItems g vs)
  | [] => restores_pure _
  | v :: vs => (h v).bind fun _ => (mapItemsOn_restores h vs).bind fun _ => restores_pure _

theorem filterItemsOn_restores {f : Value → OnStack Value} {g : Value → Outcome}
    (h : ∀ v, Restores stack (f v) (g v)) :
    ∀ vs : List Value, Restores stack (filterItemsOn f vs) (filterItems g vs)
  | [] => restores_pure _
  | v :: vs => by
    have hrest := filterItemsOn_restores h vs
    refine (h v).bind fun w => ?_
    cases w with
    | bool b =>
      cases b with
      | true => exact hrest.bind fun _ => restores_pure _
      | false => exact hrest
    | null => exact hrest
    | _ => exact restores_apart _

theorem foldItemsOn_restores {f : Value → Value → OnStack Value} {g : Value → Value → Outcome}
    (h : ∀ acc v, Restores stack (f acc v) (g acc v)) :
    ∀ (vs : List Value) (acc : Value), Restores stack (foldItemsOn f acc vs) (foldItems g acc vs)
  | [], acc => restores_pure acc
  | v :: vs, acc => (h acc v).bind fun acc => foldItemsOn_restores h vs acc

theorem applyOn_restores {invoke : Nat → List Value → OnStack Value} {own : Nat → List Value → Outcome}
    (h : ∀ i args, Restores stack (invoke i args) (own i args)) (b : Builtin) (values : List Value) (now : Int64) :
    Restores stack (b.applyOn values invoke now) (b.apply ⟨values, own, now⟩) := by
  unfold applyOn
  split
  · exact (restores_apart _).bind fun vs => (mapItemsOn_restores (fun v => h 1 [v]) vs).bind fun _ => restores_pure _
  · exact (restores_apart _).bind fun vs => (filterItemsOn_restores (fun v => h 1 [v]) vs).bind fun _ => restores_pure _
  · exact (restores_apart _).bind fun vs => foldItemsOn_restores (fun acc v => h 2 [acc, v]) vs _
  · exact (restores_apart _).bind fun vs => (mapItemsOn_restores (fun v => h 1 [v]) vs).bind fun _ => restores_pure _
  · next hmap hfilter hfold hsort =>
    have hunused : b.apply ⟨values, fun _ _ => .ok .null, now⟩ = b.apply ⟨values, own, now⟩ := by
      cases b with
      | map => exact twoArgs_of_ne fun x y => hmap x y rfl
      | filter => exact twoArgs_of_ne fun x y => hfilter x y rfl
      | fold => exact threeArgs_of_ne fun x y z => hfold x y z rfl
      | sortBy => exact twoArgs_of_ne fun x y => hsort x y rfl
      | _ => rfl
    rw [hunused]
    exact restores_apart _

end Restores

end Builtin

/-! ## Nodes -/

def invokeOn (lambdas : List (Option (Nat × OnStack Value))) (i : Nat) (args : List Value) : OnStack Value :=
  match lambdas[i]? with
  | some (some (arity, body)) =>
    if arity = args.length then within args body else apart (.error (.internal (.lambdaArity arity args.length)))
  | _ => apart (.error (.internal (.notALambda i)))

namespace Node

mutual

def evalOn (frame : Frame) : Node → OnStack Value
  | const v => return v
  | localSlot i => place i
  | attributeSlot i => return slot frame.attributes i
  | parentSlot i => return slot frame.parents i
  | parentField i name => apart (readParent (slot frame.parents i) name)
  | paramSlot i => return slot frame.params i
  | field object name => do
    let v ← evalOn frame object
    apart (readField v name)
  | safePath object path default => do
    let v ← evalOn frame object
    match followPath v path with
    | .null => evalDefaultOn frame default
    | w => return w
  | index object key => do
    let v ← evalOn frame object
    let k ← evalOn frame key
    apart (readIndex v k)
  | unary op operand => do
    let v ← evalOn frame operand
    apart (op.apply v)
  | binary op left right => do
    let v ← evalOn frame left
    match op with
    | .and =>
      if ← apart (truth op.symbol v) then return .bool (← apart (truth op.symbol (← evalOn frame right)))
      else return .bool false
    | .or =>
      if ← apart (truth op.symbol v) then return .bool true
      else return .bool (← apart (truth op.symbol (← evalOn frame right)))
    | op => do
      let w ← evalOn frame right
      apart (op.apply v w)
  | conditional condition thenBranch elseBranch => do
    let v ← evalOn frame condition
    if ← apart (truth "?:" v) then evalOn frame thenBranch else evalOn frame elseBranch
  | lambda _ _ => apart (.error (.internal .lambdaOutsideCall))
  | call name args =>
    match Builtin.ofName? name with
    | none => apart (.error (.internal (.unknownBuiltin name)))
    | some b => do
      let values ← evalArgsOn frame args
      b.applyOn values (invokeOn (bodiesOn frame args)) frame.now

def evalDefaultOn (frame : Frame) : Option Node → OnStack Value
  | none => return .null
  | some node => evalOn frame node

def evalArgsOn (frame : Frame) : List Node → OnStack (List Value)
  | [] => return []
  | lambda _ _ :: args => do
    let vs ← evalArgsOn frame args
    return .null :: vs
  | arg :: args => do
    let v ← evalOn frame arg
    let vs ← evalArgsOn frame args
    return v :: vs

def bodiesOn (frame : Frame) : List Node → List (Option (Nat × OnStack Value))
  | [] => []
  | lambda arity body :: args => some (arity, evalOn frame body) :: bodiesOn frame args
  | _ :: args => none :: bodiesOn frame args

end

section Restores
variable {frame : Frame}

/-- A body on the stack comes to what the function does, with the arguments on top. -/
inductive SameOn (stack : List Value) : Option (Nat × OnStack Value) → Option (Nat × (List Value → Outcome)) → Prop where
  | none : SameOn stack .none .none
  | some {arity body f} (h : ∀ args, Restores (stack ++ args) body (f args)) :
      SameOn stack (.some (arity, body)) (.some (arity, f))

theorem invokeOn_restores {stack : List Value} {bodies : List (Option (Nat × OnStack Value))}
    {fs : List (Option (Nat × (List Value → Outcome)))} (h : List.Forall₂ (SameOn stack) bodies fs) (i : Nat)
    (args : List Value) : Restores stack (invokeOn bodies i args) (invokeAt fs i args) := by
  unfold invokeOn invokeAt
  cases hb : bodies[i]? with
  | none =>
    rw [List.getElem?_eq_none (h.length_eq ▸ List.getElem?_eq_none_iff.mp hb)]
    exact restores_apart _
  | some body =>
    obtain ⟨f, hf, hsame⟩ := forall₂_getElem?_left h hb
    rw [hf]
    cases hsame with
    | none => exact restores_apart _
    | @some arity body f h =>
      dsimp only
      split
      · exact restores_within (h args)
      · exact restores_apart _

mutual

theorem evalOn_restores (stack : List Value) :
    ∀ node : Node, Restores stack (node.evalOn frame) (node.eval frame stack)
  | const v => by rw [evalOn, eval]; exact restores_pure v
  | localSlot i => by
    rw [evalOn, eval]
    unfold Restores place
    cases stack[i]? <;> rfl
  | attributeSlot i => by rw [evalOn, eval]; exact restores_pure _
  | parentSlot i => by rw [evalOn, eval]; exact restores_pure _
  | parentField i name => by rw [evalOn, eval]; exact restores_apart _
  | paramSlot i => by rw [evalOn, eval]; exact restores_pure _
  | field object name => by
    rw [evalOn, eval]
    exact (evalOn_restores stack object).bind fun v => restores_apart _
  | safePath object path default => by
    rw [evalOn, eval]
    refine (evalOn_restores stack object).bind fun v => ?_
    cases followPath v path with
    | null => exact evalDefaultOn_restores stack default
    | _ => exact restores_pure _
  | index object key => by
    rw [evalOn, eval]
    exact (evalOn_restores stack object).bind fun v => (evalOn_restores stack key).bind fun k => restores_apart _
  | unary op operand => by
    rw [evalOn, eval]
    exact (evalOn_restores stack operand).bind fun v => restores_apart _
  | binary op left right => by
    rw [evalOn, eval]
    have hright := evalOn_restores stack right
    refine (evalOn_restores stack left).bind fun v => ?_
    cases op with
    | and =>
      refine (restores_apart _).bind fun t => ?_
      cases t with
      | true => exact hright.bind fun w => (restores_apart _).bind fun _ => restores_pure _
      | false => exact restores_pure _
    | or =>
      refine (restores_apart _).bind fun t => ?_
      cases t with
      | true => exact restores_pure _
      | false => exact hright.bind fun w => (restores_apart _).bind fun _ => restores_pure _
    | _ => exact hright.bind fun w => restores_apart _
  | conditional condition thenBranch elseBranch => by
    rw [evalOn, eval]
    have hthen := evalOn_restores stack thenBranch
    have helse := evalOn_restores stack elseBranch
    refine (evalOn_restores stack condition).bind fun v => (restores_apart _).bind fun t => ?_
    cases t with
    | true => exact hthen
    | false => exact helse
  | lambda _ _ => by rw [evalOn, eval]; exact restores_apart _
  | call name args => by
    rw [evalOn, eval]
    cases Builtin.ofName? name with
    | none => exact restores_apart _
    | some b =>
      exact (evalArgsOn_restores stack args).bind fun values =>
        Builtin.applyOn_restores (invokeOn_restores (bodiesOn_same stack args)) b values frame.now

theorem evalDefaultOn_restores (stack : List Value) :
    ∀ default : Option Node, Restores stack (evalDefaultOn frame default) (evalDefault frame stack default)
  | none => by rw [evalDefaultOn, evalDefault]; exact restores_pure _
  | some node => by rw [evalDefaultOn, evalDefault]; exact evalOn_restores stack node

theorem evalArgsOn_restores (stack : List Value) :
    ∀ args : List Node, Restores stack (evalArgsOn frame args) (evalArgs frame stack args)
  | [] => by rw [evalArgsOn, evalArgs]; exact restores_pure _
  | arg :: args => by
    have hargs := evalArgsOn_restores stack args
    have harg := evalOn_restores stack arg
    cases arg with
    | lambda arity body => exact hargs.bind fun _ => restores_pure _
    | _ => exact harg.bind fun _ => hargs.bind fun _ => restores_pure _

theorem bodiesOn_same (stack : List Value) :
    ∀ args : List Node, List.Forall₂ (SameOn stack) (bodiesOn frame args) (bodies frame stack args)
  | [] => by rw [bodiesOn, bodies]; exact .nil
  | arg :: args => by
    have hargs := bodiesOn_same stack args
    cases arg with
    | lambda arity body => exact .cons (.some fun args => evalOn_restores (stack ++ args) body) hargs
    | _ => exact .cons .none hargs

end

end Restores

end Node

end Tributary
