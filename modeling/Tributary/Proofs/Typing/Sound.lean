import Tributary.Node.Eval
import Tributary.Proofs.Plan.Stages
import Tributary.Proofs.Typing.Relation

/-!
# Inferred types are sound

In a frame whose slots hold what is declared, an expression that has a value has one of the type inferred for it.

* `TypeEnv.Admits` : a frame holds what the types of an expression know; `Frame.conforms` : what a model declares;
* `BinaryOp.arithmetic_gives`, `BinaryOp.test_gives`, `readIndex_gives`, `readParent_yields` : operators and reads;
* `HasTy.gives` : the value of a node is of each type that the node has;
* `compiled_conforms` : the value of a computed attribute is of the type in the plan.
-/

namespace Tributary

/-! ## Operators and reads -/

theorem UnaryOp.not_gives (v : Value) : Gives .boolean (UnaryOp.not.apply v) :=
  yields_map fun _ => rfl

theorem UnaryOp.neg_gives {t : Ty} (ht : t.isNumeric = true) (v : Value) : Gives t (UnaryOp.neg.apply v) := by
  cases v with
  | null => exact yields_ok.mpr (Ty.admits_null t)
  | number n => exact yields_ok.mpr (Ty.admits_number ht _)
  | _ => exact yields_error _

theorem BinaryOp.arithmetic_gives {op : BinaryOp} (hop : op.isArithmetic = true) {t : Ty} (ht : t.isNumeric = true)
    (v w : Value) : Gives t (op.apply v w) := by
  have hstrict : Gives t (op.applyStrict v w) := by
    have hordering : op.isOrdering = false := by cases op <;> first | rfl | cases hop
    unfold applyStrict
    simp only [hordering, Bool.false_eq_true, if_false]
    split
    · exact yields_ok.mpr (Ty.admits_null t)
    · split
      · exact yields_map fun n => Ty.admits_number ht n
      · exact yields_error _
  cases op <;> first | exact hstrict | cases hop

theorem BinaryOp.test_gives {op : BinaryOp} (hop : op.isArithmetic = false) (v w : Value) :
    Gives .boolean (op.apply v w) := by
  have hstrict : op.isOrdering = true → Gives .boolean (op.applyStrict v w) := by
    intro hordering
    unfold applyStrict
    simp only [hordering, if_true]
    split
    · exact yields_ok.mpr rfl
    · split
      · exact yields_ok.mpr rfl
      · exact yields_error _
  cases op with
  | eq | ne => exact yields_ok.mpr rfl
  | lt | le | gt | ge => exact hstrict rfl
  | isIn =>
    unfold apply
    dsimp only
    split
    · exact yields_ok.mpr rfl
    · exact yields_error _
  | and =>
    refine yields_bind fun c => ?_
    split
    · exact yields_bind fun _ => yields_ok.mpr rfl
    · exact yields_ok.mpr rfl
  | or =>
    refine yields_bind fun c => ?_
    split
    · exact yields_ok.mpr rfl
    · exact yields_bind fun _ => yields_ok.mpr rfl
  | _ => cases hop

theorem Value.admits_item {t : Ty} {vs : List Value} (h : t.admits (.array vs) = true) (i : Nat) :
    t.element.admits ((vs[i]?).getD .null) = true := by
  cases hi : vs[i]? with
  | none => exact Ty.admits_null _
  | some v => exact Ty.admits_element h (List.mem_of_getElem? hi)

theorem readIndex_gives {t : Ty} {v : Value} (h : t.admits v = true) (key : Value) :
    Gives t.element (readIndex v key) := by
  unfold readIndex
  split
  · exact yields_ok.mpr (Ty.admits_null _)
  · next vs n =>
    refine yields_ok.mpr ?_
    unfold Value.index
    dsimp only
    split
    · split
      · exact Value.admits_item h _
      · exact Ty.admits_null _
    · exact Ty.admits_null _
  · next fs s =>
    -- No type of objects has a type for their elements.
    have hany : t.element = .any := by cases t <;> first | rfl | cases h
    rw [hany]
    exact yields_ok.mpr (Ty.admits_any _)
  · exact yields_error _

theorem invokeAt_gives {t : Ty} {lambdas : List (Option (Nat × (List Value → Outcome)))} {i : Nat} {args : List Value}
    (h : ∀ arity body, lambdas[i]? = some (some (arity, body)) → Gives t (body args)) :
    Gives t (invokeAt lambdas i args) := by
  unfold invokeAt
  split
  · next arity body hi =>
    split
    · exact h arity body hi
    · exact yields_error _
  · exact yields_error _

theorem readParent_yields (v : Value) (name : String) : Yields (fun w => w = v.field name) (readParent v name) := by
  cases v with
  | null | object => exact yields_ok.mpr rfl
  | _ => exact yields_error _

/-! ## Nodes -/

namespace TypeEnv

variable {env : TypeEnv} {frame : Frame}

/-- A frame holds what the types of an expression know. -/
structure Admits (env : TypeEnv) (frame : Frame) : Prop where
  attrs : ∀ (i : Nat) t, env.attrs[i]? = some t → t.admits (slot frame.attributes i) = true
  params : ∀ (i : Nat) t, env.params[i]? = some t → t.admits (slot frame.params i) = true
  parents : ∀ (i : Nat) p, env.parents[i]? = some p → p.whole.admits (slot frame.parents i) = true
  fields : ∀ i name, (env.parentAttrTy i name).admits ((slot frame.parents i).field name) = true

/-- The first argument of a builtin that keeps items may be an array. -/
theorem HasTys.accepts_items {T : List Ty} {f : Builtin} {types : List Ty} {args : List Node} {lambdas : List Ty}
    (h : env.HasTys T f types 0 f.signature.params args types lambdas) (hkeeps : f.keepsItems = true) {t : Ty}
    (ht : types[0]? = some t) : Template.array.accepts t = true := by
  obtain ⟨ts, hts⟩ : ∃ ts, f.signature.params = .array :: ts := by
    cases f <;> first | exact ⟨_, rfl⟩ | cases hkeeps
  rw [hts] at h
  cases h with
  | plain hnot hfits _ _ =>
    obtain rfl := Option.some.inj ht
    exact hfits

mutual

/-- The value of a node is of each type that the node has. -/
theorem HasTy.gives (hframe : env.Admits frame) {T : List Ty} {node : Node} {t : Ty} : env.HasTy T node t →
    ∀ {locals : List Value}, Ty.AdmitEach T locals → Gives t (node.eval frame locals)
  | .any, locals, hlocals => fun v _ => Ty.admits_any v
  | .const, locals, hlocals => by
    rw [Node.eval]
    exact yields_ok.mpr (Ty.admits_ofValue _)
  | .localSlot h, locals, hlocals => by
    obtain ⟨v, hv, hadmits⟩ := forall₂_getElem?_left hlocals h
    rw [Node.eval, hv]
    exact yields_ok.mpr hadmits
  | .attributeSlot h, locals, hlocals => by
    rw [Node.eval]
    exact yields_ok.mpr (hframe.attrs _ _ h)
  | .paramSlot h, locals, hlocals => by
    rw [Node.eval]
    exact yields_ok.mpr (hframe.params _ _ h)
  | .parentSlot h, locals, hlocals => by
    rw [Node.eval]
    exact yields_ok.mpr (hframe.parents _ _ h)
  | .parentField, locals, hlocals => by
    rw [Node.eval]
    rintro w hw
    rw [readParent_yields _ _ w hw]
    exact hframe.fields _ _
  | .index h, locals, hlocals => by
    rw [Node.eval]
    exact (h.gives hframe hlocals).bind fun v hv => yields_bind fun key => readIndex_gives hv key
  | .not, locals, hlocals => by
    rw [Node.eval]
    exact yields_bind fun v => UnaryOp.not_gives v
  | .neg ht, locals, hlocals => by
    rw [Node.eval]
    exact yields_bind fun v => UnaryOp.neg_gives ht v
  | .arithmetic hop ht, locals, hlocals => by
    rw [Node.eval]
    refine yields_bind fun v => ?_
    split
    · cases hop
    · cases hop
    · exact yields_bind fun w => BinaryOp.arithmetic_gives hop ht v w
  | .test hop, locals, hlocals => by
    rw [Node.eval]
    refine yields_bind fun v => ?_
    split
    · refine yields_bind fun c => ?_
      split
      · exact yields_bind fun _ => yields_bind fun _ => yields_ok.mpr rfl
      · exact yields_ok.mpr rfl
    · refine yields_bind fun c => ?_
      split
      · exact yields_ok.mpr rfl
      · exact yields_bind fun _ => yields_bind fun _ => yields_ok.mpr rfl
    · exact yields_bind fun w => BinaryOp.test_gives hop v w
  | .conditional h₁ h₂, locals, hlocals => by
    rw [Node.eval]
    refine yields_bind fun v => yields_bind fun c => ?_
    split
    · exact fun w hw => Ty.admits_unify_left _ _ (h₁.gives hframe hlocals w hw)
    · exact fun w hw => Ty.admits_unify_right _ _ (h₂.gives hframe hlocals w hw)
  | .call (f := f) hsteady hargs, locals, hlocals => by
    rw [Node.eval, f.ofName?_name]
    refine (hargs.values hframe hlocals).bind fun vs hvs => ?_
    refine f.apply_gives _ hsteady hvs (fun hkeeps t ht => hargs.accepts_items hkeeps ht) fun i args hps => ?_
    exact invokeAt_gives fun arity body hi => hargs.body hframe hlocals hi (by rwa [Nat.zero_add])

theorem HasTys.values (hframe : env.Admits frame) {T : List Ty} {f : Builtin} {types : List Ty} {i : Nat}
    {ts : List Template} {args : List Node} {as ls : List Ty} : env.HasTys T f types i ts args as ls →
      ∀ {locals : List Value}, Ty.AdmitEach T locals →
      Yields (fun vs => Ty.AdmitEach as vs) (Node.evalArgs frame locals args)
  | .nil, locals, hlocals => by
    rw [Node.evalArgs]
    exact yields_ok.mpr .nil
  | .lambda h hs, locals, hlocals => by
    rw [Node.evalArgs]
    exact (hs.values hframe hlocals).bind fun vs hvs => yields_ok.mpr (.cons (Ty.admits_null _) hvs)
  | .plain hnot hfits h hs, locals, hlocals => by
    rw [Node.evalArgs]
    on_goal 2 => exact hnot
    exact (h.gives hframe hlocals).bind fun v hv => (hs.values hframe hlocals).bind fun vs hvs =>
      yields_ok.mpr (.cons hv hvs)

/-- A lambda among arguments gives what is known of it, called with what its parameters are known to be. -/
theorem HasTys.body (hframe : env.Admits frame) {T : List Ty} {f : Builtin} {types : List Ty} {i : Nat}
    {ts : List Template} {args : List Node} {as ls : List Ty} : env.HasTys T f types i ts args as ls →
      ∀ {locals : List Value}, Ty.AdmitEach T locals →
      ∀ {k arity : Nat} {body : List Value → Outcome}, (Node.bodies frame locals args)[k]? = some (some (arity, body)) →
      ∀ {vs : List Value}, Ty.AdmitEach (f.lambdaParams (i + k) types) vs →
        Gives ((ls[k]?).getD .any) (body vs)
  | .nil, locals, hlocals, k, arity, body, hk, vs, hvs => fun v _ => Ty.admits_any v
  | .lambda h hs, locals, hlocals, k, arity, body, hk, vs, hvs => by
    rw [Node.bodies] at hk
    cases k with
    | zero =>
      cases hk
      exact h.gives hframe (List.rel_append hlocals hvs)
    | succ k => exact hs.body hframe hlocals hk (by rwa [Nat.add_right_comm])
  | .plain hnot hfits h hs, locals, hlocals, k, arity, body, hk, vs, hvs => by
    rw [Node.bodies] at hk
    on_goal 2 => exact hnot
    cases k with
    | zero => cases hk
    | succ k => exact hs.body hframe hlocals hk (by rwa [Nat.add_right_comm])

end

end TypeEnv

/-! ## Plans -/

/-- Whether a value may be in the slot of a parent: of one, null or a record whose fields are of the types of the parent's
attributes; of many, an array of records. -/
def Model.admitsParent {ε : Type} (m : Model ε) (p : Parent) (v : Value) : Bool :=
  match p.multiplicity with
  | .one => Ty.object.admits v &&
      ((m.parentEntity? p).elim [] Entity.attributes).all fun a => (v.field? a.name).all a.ty.admits
  | .many => (Ty.array .object).admits v

/-- Whether values are, slot by slot, what their declarations allow. -/
def slotsHold {α : Type} (allows : α → Value → Bool) (declared : List α) (values : List Value) : Bool :=
  declared.zipIdx.all fun p => allows p.1 (slot values p.2)

/-- Whether the slots of a frame hold what a model declares for an entity with some parameters. -/
def Frame.conforms {ε : Type} (frame : Frame) (m : Model ε) (params : List Param) (e : Entity ε) : Bool :=
  slotsHold (fun a => a.ty.admits) e.attributes frame.attributes && slotsHold m.admitsParent e.parents frame.parents &&
    slotsHold (fun p => p.ty.admits) params frame.params

theorem slotsHold_iff {α : Type} {allows : α → Value → Bool} {declared : List α} {values : List Value} :
    slotsHold allows declared values = true ↔
      ∀ (k : Nat) a, declared[k]? = some a → allows a (slot values k) = true := by
  rw [slotsHold, List.all_eq_true]
  constructor
  · intro h k a ha
    exact h (a, k) (List.mem_zipIdx_iff_getElem?.mpr ha)
  · rintro h ⟨a, k⟩ ha
    exact h k a (List.mem_zipIdx_iff_getElem?.mp ha)

section Plans
variable {options : Options} {b : Model BoundExpr} {p : Parent} {v : Value}

theorem Model.admitsParent_whole (h : b.admitsParent p v = true) : (b.parentTypesOf p).whole.admits v = true := by
  unfold admitsParent at h
  unfold parentTypesOf ParentTypes.whole
  dsimp only
  cases hk : p.multiplicity with
  | one =>
    rw [hk] at h
    exact (Bool.and_eq_true_iff.mp h).1
  | many =>
    rw [hk] at h
    exact h

theorem Model.mem_parentTypesOf {name : String} {t : Ty} (h : (b.parentTypesOf p).attrs.lookup name = some t) :
    ∃ a ∈ (b.parentEntity? p).elim [] Entity.attributes, a.name = name ∧ a.ty = t := by
  obtain ⟨l₁, l₂, hsplit, -⟩ := List.lookup_eq_some_iff.mp h
  have hmem : (name, t) ∈ (b.parentTypesOf p).attrs := by
    rw [hsplit]
    exact List.mem_append_right _ List.mem_cons_self
  unfold parentTypesOf at hmem
  cases hparent : b.parentEntity? p with
  | none =>
    rw [hparent] at hmem
    cases hmem
  | some parent =>
    rw [hparent] at hmem
    obtain ⟨a, ha, heq⟩ := List.mem_map.mp hmem
    cases heq
    exact ⟨a, ha, rfl, rfl⟩

theorem Model.admitsParent_field (h : b.admitsParent p v = true) {name : String} {t : Ty}
    (ht : (b.parentTypesOf p).attrs.lookup name = some t) : t.admits (v.field name) = true := by
  unfold admitsParent at h
  split at h
  · obtain ⟨a, ha, rfl, rfl⟩ := mem_parentTypesOf ht
    have hfield := List.all_eq_true.mp (Bool.and_eq_true_iff.mp h).2 a ha
    unfold Value.field
    cases hw : v.field? a.name with
    | none => exact Ty.admits_null _
    | some w => simpa [hw] using hfield
  · -- Many records are an array, which has no fields.
    rcases Ty.eq_of_array_admits h with rfl | ⟨vs, rfl, -⟩ <;> exact Ty.admits_null t

theorem Frame.admits_of_conforms {frame : Frame} {params : List Param} {e : Entity BoundExpr}
    (h : frame.conforms b params e = true) (a : Attribute BoundExpr) : (b.typeEnv options params e a).Admits frame := by
  rw [conforms, Bool.and_eq_true, Bool.and_eq_true, slotsHold_iff, slotsHold_iff, slotsHold_iff] at h
  obtain ⟨⟨hattrs, hparents⟩, hparams⟩ := h
  have hparent : ∀ {i : Nat} {q : ParentTypes}, (b.typeEnv options params e a).parents[i]? = some q →
      ∃ p, b.parentTypesOf p = q ∧ b.admitsParent p (slot frame.parents i) = true := by
    intro i q hq
    rw [Model.typeEnv, List.getElem?_map] at hq
    obtain ⟨p, hp, hq⟩ := Option.map_eq_some_iff.mp hq
    exact ⟨p, hq, hparents i p hp⟩
  constructor
  · intro i t ht
    rw [Model.typeEnv, List.getElem?_map] at ht
    obtain ⟨a', ha', rfl⟩ := Option.map_eq_some_iff.mp ht
    exact hattrs i a' ha'
  · intro i t ht
    rw [Model.typeEnv, List.getElem?_map] at ht
    obtain ⟨p, hp, rfl⟩ := Option.map_eq_some_iff.mp ht
    exact hparams i p hp
  · intro i q hq
    obtain ⟨p, rfl, hp⟩ := hparent hq
    exact Model.admitsParent_whole hp
  · intro i name
    unfold TypeEnv.parentAttrTy
    cases ht : (((b.typeEnv options params e a).parents[i]?).bind fun q => q.attrs.lookup name) with
    | none => exact Ty.admits_any _
    | some t =>
      obtain ⟨q, hq, ht⟩ := Option.bind_eq_some_iff.mp ht
      obtain ⟨p, rfl, hp⟩ := hparent hq
      exact Model.admitsParent_field hp ht

end Plans

/-- Types are inferred soundly where no call is of a fold or keeps items of null: if in a frame whose slots hold what is
declared the expression of an attribute has a value, then it is of the type that the plan has for the expression. -/
theorem compiled_conforms {options : Options} {d : Document} {m : Model SourceExpr} {b : Model BoundExpr} {plan : Plan}
    (hm : Model.build options d = .ok m) (hb : m.resolve = .ok b) (hplan : Plan.compile options d = .ok plan) {i j : Nat}
    {e : Entity BoundExpr} {a : Attribute BoundExpr} {x : BoundExpr} (he : b.entities[i]? = some e)
    (ha : e.attributes[j]? = some a) (hx : a.expr = some x) :
    ∃ p q r, plan.entity? e.name = some p ∧ p.attributes[j]? = some q ∧ q.compiled = some r ∧
      ((b.typeEnv options p.params e a).isFaithful [] x = true → ∀ frame : Frame,
        frame.conforms b p.params e = true → ∀ v, r.root.eval frame [] = .ok v → r.ty.admits v = true) := by
  obtain ⟨g, c, hs⟩ := Stages.of_resolve hm hb hplan
  obtain ⟨e₀, e'', hentity⟩ := hs.entity_of_bound he
  obtain ⟨a₀, a'', hattr⟩ := hentity.attr_of_bound ha
  obtain ⟨⟨x₀, -, hbind⟩, hfaults, hcompiled⟩ := hattr.bound_expr hx
  obtain ⟨order, hplanned⟩ := hs.entity?_name hentity
  rw [← hentity.name_eq] at hplanned
  refine ⟨_, _, _, hplanned, hattr.planned order, hcompiled, fun hfaithful frame hframe v hv => ?_⟩
  have hty := TypeEnv.hasTy_of_compile x [] (hentity.matched hbind) hfaithful hfaults
  exact hty.gives (Frame.admits_of_conforms hframe a) .nil v hv

/-- Parcels with the weights of their parts. Those below a limit are weighed by a factor of the route. -/
def parcels : Document :=
  { sources := [{ name := "depot", params := [{ name := "limit", type := "number" }] }]
    entities := [
      { name := "Route", source := some "depot", attributes := [{ name := "factor", type := "number" }] },
      { name := "Parcel"
        parents := [{ entity := "Route" }]
        attributes := [
          { name := "weights", type := "array<number>" },
          { name := "loads"
            expr := some (.call none "map" () [
              .call none "filter" () [.ident none "weights" (),
                .lambda none ["w"] (.binary none .lt (.ident none "w" ()) (.ident none "limit" ()))],
              .lambda none ["w"] (.binary none .mul (.ident none "w" ()) (.ident none "factor" ()))]) }] }] }

/-- What a parcel sees: one of its weights is missing, and one is over the limit. -/
def parcelFrame : Frame :=
  { parents := [.object [("factor", .ofNat 2)]]
    attributes := [.array [.ofNat 1, .null, .ofNat 5]]
    params := [.ofNat 3]
    now := 0 }

theorem parcel_conforms : ∃ m b plan e a x p q r, Model.build {} parcels = .ok m ∧ m.resolve = .ok b ∧
    Plan.compile {} parcels = .ok plan ∧ b.entities[1]? = some e ∧ e.attributes[1]? = some a ∧ a.expr = some x ∧
    plan.entity? e.name = some p ∧ p.attributes[1]? = some q ∧ q.compiled = some r ∧
    (b.typeEnv {} p.params e a).isFaithful [] x = true ∧ parcelFrame.conforms b p.params e = true ∧
    r.ty = .array .number ∧ ∃ v, r.root.eval parcelFrame [] = .ok v ∧ r.ty.admits v = true := by
  have hbound : ((Model.build {} parcels).toOption.bind fun m => m.resolve.toOption.bind fun b =>
      (b.entities[1]?).bind fun e => (e.attributes[1]?).bind fun a => a.expr.bind fun x =>
        (Plan.compile {} parcels).toOption.bind fun plan => (plan.entity? e.name).bind fun p =>
          (p.attributes[1]?).bind fun q => q.compiled.map fun r =>
            ((b.typeEnv {} p.params e a).isFaithful [] x, parcelFrame.conforms b p.params e, r.ty,
              (r.root.eval parcelFrame []).toOption.isSome)) = some (true, true, .array .number, true) := by
    decide +kernel
  obtain ⟨m, hm, h⟩ := Option.bind_eq_some_iff.mp hbound
  obtain ⟨b, hb, h⟩ := Option.bind_eq_some_iff.mp h
  obtain ⟨e, he, h⟩ := Option.bind_eq_some_iff.mp h
  obtain ⟨a, ha, h⟩ := Option.bind_eq_some_iff.mp h
  obtain ⟨x, hx, h⟩ := Option.bind_eq_some_iff.mp h
  obtain ⟨plan, hplan, h⟩ := Option.bind_eq_some_iff.mp h
  obtain ⟨p, hp, h⟩ := Option.bind_eq_some_iff.mp h
  obtain ⟨q, hq, h⟩ := Option.bind_eq_some_iff.mp h
  obtain ⟨r, hr, h⟩ := Option.map_eq_some_iff.mp h
  simp only [Prod.mk.injEq] at h
  obtain ⟨hfaithful, hframe, hty, hsome⟩ := h
  obtain ⟨v, hv⟩ := Option.isSome_iff_exists.mp hsome
  have hv := toOption_eq_some.mp hv
  have hm := toOption_eq_some.mp hm
  have hb := toOption_eq_some.mp hb
  have hplan := toOption_eq_some.mp hplan
  obtain ⟨p', q', r', hp', hq', hr', hconforms⟩ := compiled_conforms hm hb hplan he ha hx
  obtain rfl : p = p' := Option.some.inj (hp.symm.trans hp')
  obtain rfl : q = q' := Option.some.inj (hq.symm.trans hq')
  obtain rfl : r = r' := Option.some.inj (hr.symm.trans hr')
  exact ⟨m, b, plan, e, a, x, p, q, r, hm, hb, hplan, he, ha, hx, hp, hq, hr, hfaithful, hframe, hty, v, hv,
    hconforms hfaithful parcelFrame hframe v hv⟩

end Tributary
