import Tributary.Proofs.Expr.Named
import Tributary.Proofs.Plan.Stages
import Tributary.Proofs.Value.Fields

/-!
# Slots against names

A compiled expression evaluates by slots to what its declared expression evaluates to by names. The parameters of
enclosing lambdas are the values of the slots, the latest name first.

* `read_of_lookup` : a slot holds the value of the name that is bound to it;
* `parentOf?_eq_some_iff` : when an expression names a single parent;
* `eval_safe` : a path of safe links is one link after the other;
* `Compiles.eval_eq` : related expressions and nodes have the same outcome;
* `eval_compiled_eq_eval_named` : so does every computed attribute of a plan.
-/

namespace Tributary

/-! ## Values by name -/

theorem lookup_zip_reverse (name : String) : ∀ (names : List String) (values : List Value),
    values.length = names.length →
      (names.zip values).reverse.lookup name = (lastIndex? name names).bind fun i => values[i]?
  | [], values, _ => by simp [lastIndex?]
  | x :: names, [], h => by simp at h
  | x :: names, v :: values, h => by
    have hlen : values.length = names.length := by simpa using h
    rw [List.zip_cons_cons, List.reverse_cons, List.lookup_append, lookup_zip_reverse name names values hlen,
      lastIndex?]
    cases hi : lastIndex? name names with
    | none =>
      by_cases hx : x = name
      · subst hx; simp
      · have hne : (name == x) = false := by simpa using fun h => hx h.symm
        simp [hx, List.lookup_cons, hne]
    | some i =>
      have hlt : i < values.length := hlen ▸ lastIndex?_lt hi
      simp [hlt]

theorem lookup_zipIdx (f : Nat → Value) (name : String) : ∀ (names : List String) (k : Nat),
    ((names.zipIdx k).map fun p => (p.1, f p.2)).lookup name =
      (names.findIdx? (· == name)).map fun i => f (k + i)
  | [], k => rfl
  | x :: names, k => by
    rw [List.zipIdx_cons, List.map_cons, List.findIdx?_cons]
    by_cases hx : x = name
    · subst hx; simp
    · have hne : (name == x) = false := by simpa using fun h => hx h.symm
      have hne' : (x == name) = false := by simpa using hx
      simp only [List.lookup_cons, hne, hne', lookup_zipIdx f name names (k + 1)]
      cases names.findIdx? (· == name) with
      | none => rfl
      | some i => simp [show k + 1 + i = k + (i + 1) by omega]

/-- The values at the places of names are those of the slots. -/
theorem withValues_eq {α : Type} (as : List α) (values : List Value) :
    withValues as values = as.zipIdx.map fun p => (p.1, slot values p.2) := by
  suffices h : ∀ k, withValues as (values.drop k) = (as.zipIdx k).map fun p => (p.1, slot values p.2) from h 0
  induction as with
  | nil => exact fun k => by rw [withValues]; rfl
  | cons a as ih =>
    intro k
    rw [List.zipIdx_cons, List.map_cons, ← ih (k + 1)]
    cases hdrop : values.drop k with
    | nil =>
      have hk := List.drop_eq_nil_iff.mp hdrop
      rw [withValues, slot, List.getElem?_eq_none hk, List.drop_eq_nil_iff.mpr (by omega)]
      rfl
    | cons v rest =>
      have hv : values[k]? = some v := by rw [← List.head?_drop, hdrop, List.head?_cons]
      have hrest : values.drop (k + 1) = rest := by rw [← List.tail_drop, hdrop, List.tail_cons]
      rw [withValues, slot, hv, hrest]
      rfl

theorem withValues_lookup (names : List String) (values : List Value) (name : String) :
    (withValues names values).lookup name = (names.findIdx? (· == name)).map (slot values) := by
  rw [withValues_eq, lookup_zipIdx]
  simp

theorem readField_eq (v : Value) (name : String) : readField v name = v.fieldOf name := by
  cases v with
  | object fields => rw [readField, Value.fieldOf, Fields.get?_eq_lookup]
  | _ => rfl

theorem readParent_eq (v : Value) (name : String) : readParent v name = v.fieldOfParent name := by
  cases v with
  | object fields => exact readField_eq (.object fields) name
  | _ => rfl

section Read
variable {s : Scope} {L : List String} {frame : Frame} {V : List Value} {name : String}

theorem namedFrame_find? (s : Scope) (frame : Frame) (name : String) :
    ((s.namedFrame frame).parents.find? fun p => p.name == name) =
      (s.parent? name).map fun q => q.2.named (slot frame.parents q.1) := by
  simp only [Scope.namedFrame, withValues_eq, Scope.parent?, List.find?_map, Option.map_map]
  rfl

theorem namedFrame_declaring (s : Scope) (frame : Frame) (name : String) :
    (s.namedFrame frame).declaring name =
      (s.lenders name).map fun q => q.2.named (slot frame.parents q.1) := by
  simp only [Scope.namedFrame, withValues_eq, NamedFrame.declaring, Scope.lenders, List.filter_map, List.map_map]
  rfl

/-- The slot that a name is bound to holds the value of that name. -/
theorem read_of_lookup {b : Binding} (h : s.lookup L name = .ok b) (hV : V.length = L.length) :
    b.node.eval frame V = (s.namedFrame frame).read (L.zip V).reverse name := by
  unfold NamedFrame.read
  rw [lookup_zip_reverse name L V hV, namedFrame_find?, namedFrame_declaring]
  simp only [Scope.namedFrame, withValues_lookup]
  unfold Scope.lookup at h
  cases hlast : lastIndex? name L with
  | some i =>
    rw [hlast] at h
    cases h
    have hlt : i < V.length := hV ▸ lastIndex?_lt hlast
    simp [Binding.node, Node.eval, hlt]
  | none =>
    rw [hlast] at h
    simp only [Scope.lookupGlobal] at h
    cases hattr : s.attrs.findIdx? (· == name) with
    | some i =>
      simp only [hattr] at h
      split at h
      · cases h; rfl
      · split at h <;> cases h
    | none =>
      simp only [hattr] at h
      cases hparent : s.parent? name with
      | some q =>
        simp only [hparent] at h
        cases h
        rfl
      | none =>
        simp only [hparent] at h
        cases hparam : s.params.findIdx? (· == name) with
        | some i =>
          simp only [hparam] at h
          cases h
          rfl
        | none =>
          simp only [hparam, Scope.lookupLent] at h
          split at h
          · cases h
          · next q p hq =>
            cases h
            rw [hq]
            exact readParent_eq _ _
          · cases h

/-- The name of a parent of which there is one: no lambda parameter and no attribute hides it. -/
theorem lookup_eq_single_iff {i : Nat} {n : String} :
    s.lookup L name = .ok (.parent i n .one) ↔
      lastIndex? name L = none ∧ s.attrs.findIdx? (· == name) = none ∧
        ∃ p, s.parent? name = some (i, p) ∧ p.multiplicity = .one ∧ p.name = n := by
  unfold Scope.lookup Scope.lookupGlobal
  cases lastIndex? name L with
  | some k => simp
  | none =>
    cases s.attrs.findIdx? (· == name) with
    | some k =>
      simp only [reduceCtorEq, false_and, and_false, iff_false]
      split
      · simp
      · split <;> simp
    | none =>
      cases s.parent? name with
      | some q =>
        obtain ⟨k, p⟩ := q
        simp only [Except.ok.injEq, Binding.parent.injEq, true_and, Option.some.injEq, Prod.mk.injEq]
        constructor
        · rintro ⟨rfl, rfl, hp⟩
          exact ⟨p, ⟨rfl, rfl⟩, hp, rfl⟩
        · rintro ⟨p, ⟨rfl, rfl⟩, hp, rfl⟩
          exact ⟨rfl, rfl, hp⟩
      | none =>
        simp only [reduceCtorEq, false_and, exists_false, and_false, iff_false]
        split
        · simp
        · unfold Scope.lookupLent
          split <;> simp

theorem single?_eq_some_iff (hV : V.length = L.length) {v : Value} :
    (s.namedFrame frame).single? (L.zip V).reverse name = some v ↔
      ∃ i n, s.lookup L name = .ok (.parent i n .one) ∧ v = slot frame.parents i := by
  simp only [lookup_eq_single_iff, NamedFrame.single?, lookup_zip_reverse name L V hV, namedFrame_find?]
  simp only [Scope.namedFrame, withValues_lookup]
  cases hlast : lastIndex? name L with
  | some k =>
    have hlt : k < V.length := hV ▸ lastIndex?_lt hlast
    simp [hlt]
  | none =>
    cases s.attrs.findIdx? (· == name) with
    | some k => simp
    | none =>
      cases s.parent? name with
      | none => simp
      | some q =>
        obtain ⟨k, p⟩ := q
        by_cases hp : p.multiplicity = .one
        · simp [ParentNames.named, hp, eq_comm]
        · simp [ParentNames.named, hp]

/-- An expression names a single parent exactly where its name is bound to one. -/
theorem parentOf?_eq_some_iff (hV : V.length = L.length) {e : SourceExpr} {v : Value} :
    (s.namedFrame frame).parentOf? (L.zip V).reverse e = some v ↔
      ∃ i, s.NamesSingle L e i ∧ v = slot frame.parents i := by
  cases e with
  | ident span name u =>
    rw [NamedFrame.parentOf?, single?_eq_some_iff hV]
    constructor
    · rintro ⟨i, n, h, hv⟩
      exact ⟨i, ⟨span, name, u, n, rfl, h⟩, hv⟩
    · rintro ⟨i, ⟨_, _, _, n, heq, h⟩, hv⟩
      cases heq
      exact ⟨i, n, h, hv⟩
  | _ => simp [NamedFrame.parentOf?, Scope.NamesSingle]

end Read

/-! ## Accesses and operators -/

theorem followPath_append (field : String) : ∀ (path : List String) (v : Value),
    followPath v (path ++ [field]) = (followPath v path).field field
  | [], v => by
    simp only [List.nil_append, followPath, Value.field]
    cases v.field? field with
    | none => rfl
    | some w => cases w <;> rfl
  | name :: path, v => by
    simp only [List.cons_append, followPath]
    cases v.field? name with
    | none => rfl
    | some w =>
      cases w with
      | null => rfl
      | _ => exact followPath_append field path _

/-- What a safe link gives of a value: its field, or the default in the place of null. -/
def Value.orElse (v : Value) (default : Outcome) : Outcome :=
  match v with
  | .null => default
  | w => .ok w

theorem eval_safePath (frame : Frame) (V : List Value) (node : Node) (path : List String) (d : Option Node) :
    (Node.safePath node path d).eval frame V =
      (node.eval frame V).bind fun v => (followPath v path).orElse (Node.evalDefault frame V d) := by
  rw [Node.eval]
  refine congrArg (Except.bind _) (funext fun v => ?_)
  cases followPath v path <;> rfl

theorem Node.safe_ne_lambda (node : Node) (field : String) (d : Option Node) (arity : Nat) (body : Node) :
    node.safe field d ≠ .lambda arity body := by
  unfold Node.safe
  split <;> simp

/-- A path of safe links has the outcome of one link after the other. -/
theorem eval_safe (frame : Frame) (V : List Value) (node : Node) (field : String) (d : Option Node) :
    (node.safe field d).eval frame V =
      (node.eval frame V).bind fun v => (v.field field).orElse (Node.evalDefault frame V d) := by
  have hone : (Node.safePath node [field] d).eval frame V =
      (node.eval frame V).bind fun v => (v.field field).orElse (Node.evalDefault frame V d) := by
    rw [eval_safePath]
    refine congrArg (Except.bind _) (funext fun v => ?_)
    rw [show followPath v [field] = v.field field from followPath_append field [] v]
  cases node with
  | safePath inner path own =>
    cases own with
    | some _ => exact hone
    | none =>
      rw [Node.safe, eval_safePath, eval_safePath]
      cases inner.eval frame V with
      | error _ => rfl
      | ok v =>
        -- Without a default of its own the inner path gives what it finds, be it null.
        have hown : (followPath v path).orElse (Node.evalDefault frame V none) = .ok (followPath v path) := by
          cases followPath v path <;> rfl
        simp only [Except.bind, hown, followPath_append]
  | _ => exact hone

theorem eval_access_safe (frame : NamedFrame) (locals : List (String × Value)) (span : Option Span)
    (object : SourceExpr) (field : String) (default : Option SourceExpr) :
    SourceExpr.eval frame locals (.access span object field true default) =
      (SourceExpr.eval frame locals object).bind fun v =>
        (v.field field).orElse (SourceExpr.evalDefault frame locals default) := by
  rw [SourceExpr.eval]
  refine congrArg (Except.bind _) (funext fun v => ?_)
  cases v with
  | object fields =>
    simp only [Value.safeField?, Value.field, Value.field?, Fields.get?_eq_lookup]
    cases fields.lookup field with
    | none => rfl
    | some w => cases w <;> rfl
  | _ => rfl

theorem eval_binary (frame : Frame) (V : List Value) (op : BinaryOp) (left right : Node) :
    (Node.binary op left right).eval frame V = op.outcome (left.eval frame V) (right.eval frame V) := by
  rw [Node.eval]
  rfl

/-! ## Calls of lambdas -/

/-- Two lambdas take as many arguments and have the same outcome on so many. -/
inductive SameBody : Option (Nat × (List Value → Outcome)) → Option (Nat × (List Value → Outcome)) → Prop where
  | none : SameBody .none .none
  | some {arity f g} (h : ∀ values : List Value, values.length = arity → f values = g values) :
      SameBody (.some (arity, f)) (.some (arity, g))

theorem invokeAt_congr {fs gs : List (Option (Nat × (List Value → Outcome)))} (h : List.Forall₂ SameBody fs gs)
    (i : Nat) (args : List Value) : invokeAt fs i args = invokeAt gs i args := by
  unfold invokeAt
  by_cases hi : i < fs.length
  · have hi' : i < gs.length := h.length_eq ▸ hi
    have hsame := h.get hi hi'
    simp only [List.get_eq_getElem] at hsame
    rw [List.getElem?_eq_getElem hi, List.getElem?_eq_getElem hi']
    generalize fs[i] = f, gs[i] = g at hsame
    cases hsame with
    | none => rfl
    | @some arity f g h =>
      by_cases hlen : arity = args.length
      · simp only [if_pos hlen, h args hlen.symm]
      · simp only [if_neg hlen]
  · have hi' : ¬ i < gs.length := h.length_eq ▸ hi
    rw [List.getElem?_eq_none (by omega), List.getElem?_eq_none (by omega)]

/-- The parameters of a lambda come before those of the lambdas around it. -/
theorem zip_append_reverse {L params : List String} {V values : List Value} (hV : V.length = L.length) :
    ((L ++ params).zip (V ++ values)).reverse = (params.zip values).reverse ++ (L.zip V).reverse := by
  rw [List.zip_append hV.symm, List.reverse_append]

/-! ## The simulation -/

/-- No expression becomes a lambda by itself. -/
theorem Compiles.ne_lambda {s : Scope} {L : List String} {e : SourceExpr} {node : Node} (h : Compiles s L e node) :
    (∀ span params body, e ≠ .lambda span params body) ∧ ∀ arity body, node ≠ .lambda arity body := by
  cases h with
  | @ident _ _ _ _ b => cases b <;> simp [Binding.node]
  | @safe _ _ _ field _ node d => exact ⟨by simp, node.safe_ne_lambda field d⟩
  | _ => simp

section Simulation
variable {s : Scope} {frame : Frame}

mutual

theorem Compiles.eval_eq {L : List String} {e : SourceExpr} {node : Node} : Compiles s L e node →
    ∀ {V : List Value}, V.length = L.length →
      node.eval frame V = SourceExpr.eval (s.namedFrame frame) (L.zip V).reverse e
  | .literal, V, hV => by rw [Node.eval, SourceExpr.eval]
  | .ident hb, V, hV => by rw [read_of_lookup hb hV, SourceExpr.eval]
  | .parentField ho, V, hV => by
    rw [Node.eval, SourceExpr.eval, (parentOf?_eq_some_iff hV).mpr ⟨_, ho, rfl⟩, readParent_eq]
  | .field ho h, V, hV => by
    have hnone : (s.namedFrame frame).parentOf? (L.zip V).reverse _ = none :=
      Option.eq_none_iff_forall_ne_some.mpr fun v hv =>
        have ⟨i, hi, _⟩ := (parentOf?_eq_some_iff hV).mp hv
        ho i hi
    rw [Node.eval, SourceExpr.eval, hnone, h.eval_eq hV]
    simp only [readField_eq]
  | .safe h hd, V, hV => by rw [eval_safe, eval_access_safe, h.eval_eq hV, hd.eval_eq hV]
  | .index h₁ h₂, V, hV => by rw [Node.eval, SourceExpr.eval, h₁.eval_eq hV, h₂.eval_eq hV]
  | .unary h, V, hV => by rw [Node.eval, SourceExpr.eval, h.eval_eq hV]
  | .binary h₁ h₂, V, hV => by rw [eval_binary, SourceExpr.eval, h₁.eval_eq hV, h₂.eval_eq hV]
  | .conditional h₁ h₂ h₃, V, hV => by
    rw [Node.eval, SourceExpr.eval, h₁.eval_eq hV, h₂.eval_eq hV, h₃.eval_eq hV]
  | .call hb h, V, hV => by
    have hinvoke := funext fun i => funext fun args => invokeAt_congr (h.bodies_same hV) i args
    rw [Node.eval, SourceExpr.eval, hb, Builtin.ofName?_name, h.eval_eq hV, hinvoke]
    rfl

theorem CompilesDefault.eval_eq {L : List String} {e : Option SourceExpr} {node : Option Node} :
    CompilesDefault s L e node → ∀ {V : List Value}, V.length = L.length →
      Node.evalDefault frame V node = SourceExpr.evalDefault (s.namedFrame frame) (L.zip V).reverse e
  | .none, V, hV => by rw [Node.evalDefault, SourceExpr.evalDefault]
  | .some h, V, hV => by rw [Node.evalDefault, SourceExpr.evalDefault, h.eval_eq hV]

theorem CompilesArgs.eval_eq {L : List String} {ts : List Template} {args : List SourceExpr} {nodes : List Node} :
    CompilesArgs s L ts args nodes → ∀ {V : List Value}, V.length = L.length →
      Node.evalArgs frame V nodes = SourceExpr.evalArgs (s.namedFrame frame) (L.zip V).reverse args
  | .nil, V, hV => by rw [Node.evalArgs, SourceExpr.evalArgs]
  | .lambda h hs, V, hV => by rw [Node.evalArgs, SourceExpr.evalArgs, hs.eval_eq hV]
  | .plain ht h hs, V, hV => by
    rw [Node.evalArgs, SourceExpr.evalArgs, h.eval_eq hV, hs.eval_eq hV]
    · exact h.ne_lambda.1
    · exact h.ne_lambda.2

theorem CompilesArgs.bodies_same {L : List String} {ts : List Template} {args : List SourceExpr}
    {nodes : List Node} : CompilesArgs s L ts args nodes → ∀ {V : List Value}, V.length = L.length →
      List.Forall₂ SameBody (Node.bodies frame V nodes)
        (SourceExpr.bodies (s.namedFrame frame) (L.zip V).reverse args)
  | .nil, V, hV => by rw [Node.bodies, SourceExpr.bodies]; exact .nil
  | .lambda h hs, V, hV => by
    rw [Node.bodies, SourceExpr.bodies]
    refine .cons (.some fun values hlen => ?_) (hs.bodies_same hV)
    rw [h.eval_eq (by simp [hV, hlen]), zip_append_reverse hV]
  | .plain ht h hs, V, hV => by
    rw [Node.bodies, SourceExpr.bodies]
    · exact .cons .none (hs.bodies_same hV)
    · exact h.ne_lambda.1
    · exact h.ne_lambda.2

end

end Simulation

/-! ## Plans -/

/-- A computed attribute of a plan evaluates in every frame to what its declared expression means there by names. The
slots have the names of the attributes, parents and visible parameters of the entity. -/
theorem eval_compiled_eq_eval_named {options : Options} {d : Document} {m : Model SourceExpr} {plan : Plan}
    (hm : Model.build options d = .ok m) (hplan : Plan.compile options d = .ok plan)
    {i : Nat} {e : Entity SourceExpr} (he : m.entities[i]? = some e)
    {j : Nat} {a : Attribute SourceExpr} (ha : e.attributes[j]? = some a) {x : SourceExpr} (hx : a.expr = some x) :
    ∃ p q r, plan.entity? e.name = some p ∧ p.attributes[j]? = some q ∧ q.compiled = some r ∧
      p.attributes.map AttributePlan.name = e.attributes.map Attribute.name ∧
      p.parents.map ParentSlot.name = e.parents.map Parent.name ∧
      p.params = m.visibleParams i ∧
      ∀ frame : Frame, r.root.eval frame [] = SourceExpr.eval ((m.attrScope e i a j).namedFrame frame) [] x := by
  obtain ⟨b, g, c, hs⟩ := Stages.of_build hm hplan
  obtain ⟨e', e'', hentity⟩ := hs.entity he
  obtain ⟨order, hfound⟩ := hs.entity?_name hentity
  obtain ⟨a', a'', hattr⟩ := hentity.attr ha
  obtain ⟨r, hr, hcompiles⟩ := hattr.compiles hentity hx
  have hparents : (b.entityPlan g order e' e'' i).parents.map ParentSlot.name = e.parents.map Parent.name := by
    simp only [Model.entityPlan, List.map_map, hentity.parents_eq]
    rfl
  exact ⟨_, _, r, hfound, hattr.planned order, hr, hentity.planned_names order, hparents, hs.visibleParams_eq i,
    fun frame => hcompiles.eval_eq rfl⟩

/-- Orders with their customer. A lambda parameter has the name of an attribute of the order, another that of an
attribute of the customer; two safe links make one path. -/
def orders : Document :=
  { sources := [{ name := "shop", params := [{ name := "rate" }] }]
    entities := [
      { name := "Customer", source := some "shop", attributes := [{ name := "tier" }, { name := "address" }] },
      { name := "Order"
        parents := [{ entity := "Customer" }]
        attributes := [
          { name := "lines" },
          { name := "total"
            expr := some (.call none "fold" () [.ident none "lines" (), .ident none "rate" (),
              .lambda none ["tier", "lines"]
                (.binary none .add (.ident none "tier" ()) (.ident none "lines" ()))]) },
          { name := "city"
            expr := some (.access none (.access none (.access none (.ident none "Customer" ()) "address" false none)
              "post" true none) "city" true (some (.ident none "tier" ()))) }] }] }

/-- Two lines at a rate, for the customer that is given, if one is. -/
def orderFrame (customers : List Value) : Frame :=
  { parents := customers, attributes := [.array [.ofNat 1, .ofNat 2]], params := [.ofNat 10], now := 0 }

/-- A customer with an address, one without, and none. -/
def customers : List (List Value) :=
  [[.ofFields [("address", .ofFields [("post", .ofFields [("city", .string "Oslo")])]), ("tier", .ofNat 3)]],
    [.ofFields [("tier", .ofNat 2)]], []]

/-- The name of the second entity, and the outcomes of its total and its cities by names. -/
def ordersByNames? : Option (String × Outcome × List Outcome) := do
  let m ← (Model.build {} orders).toOption
  let e ← m.entities[1]?
  let a ← e.attributes[1]?
  let x ← a.expr
  let b ← e.attributes[2]?
  let y ← b.expr
  return (e.name, SourceExpr.eval ((m.attrScope e 1 a 1).namedFrame (orderFrame [])) [] x,
    customers.map fun c => SourceExpr.eval ((m.attrScope e 1 b 2).namedFrame (orderFrame c)) [] y)

/-- The total of two lines on top of the rate; the city of the address, in its place the customer's tier, and null where
there is no customer. -/
theorem eval_orders : ∃ plan p total city, Plan.compile {} orders = .ok plan ∧ plan.entity? "Order" = some p ∧
    (p.attributes[1]?).bind AttributePlan.compiled = some total ∧
    (p.attributes[2]?).bind AttributePlan.compiled = some city ∧
    total.root.eval (orderFrame []) [] = .ok (.ofNat 13) ∧
    (customers.map fun c => city.root.eval (orderFrame c) []) = [.ok (.string "Oslo"), .ok (.ofNat 2), .ok .null] := by
  have hvalues : ordersByNames? =
      some ("Order", .ok (.ofNat 13), [.ok (.string "Oslo"), .ok (.ofNat 2), .ok .null]) := by decide +kernel
  have hcompiled : (Plan.compile {} orders).toOption.isSome = true := by decide +kernel
  obtain ⟨plan, hplan⟩ := Option.isSome_iff_exists.mp hcompiled
  have hplan := toOption_eq_some.mp hplan
  obtain ⟨m, hm, h⟩ := Option.bind_eq_some_iff.mp hvalues
  obtain ⟨e, he, h⟩ := Option.bind_eq_some_iff.mp h
  obtain ⟨a, ha, h⟩ := Option.bind_eq_some_iff.mp h
  obtain ⟨x, hx, h⟩ := Option.bind_eq_some_iff.mp h
  obtain ⟨b, hb, h⟩ := Option.bind_eq_some_iff.mp h
  obtain ⟨y, hy, h⟩ := Option.bind_eq_some_iff.mp h
  obtain ⟨hname, htotal, hcities⟩ : e.name = "Order" ∧ _ ∧ _ := by simpa using h
  have hm := toOption_eq_some.mp hm
  obtain ⟨p, q, total, hp, hq, hqc, -, -, -, heval⟩ := eval_compiled_eq_eval_named hm hplan he ha hx
  obtain ⟨p', r, city, hp', hr, hrc, -, -, -, heval'⟩ := eval_compiled_eq_eval_named hm hplan he hb hy
  obtain rfl := Option.some.inj (hp.symm.trans hp')
  refine ⟨plan, p, total, city, hplan, hname ▸ hp, by simp [hq, hqc], by simp [hr, hrc], ?_, ?_⟩
  · rw [heval, htotal]
  · simpa only [heval'] using hcities

end Tributary
