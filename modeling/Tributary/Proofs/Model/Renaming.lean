import Mathlib.Data.Finset.Card
import Mathlib.Logic.Equiv.Basic
import Tributary.Compiled
import Tributary.Proofs.Checked
import Tributary.Proofs.Graph.Reach

/-!
# Models with their entities in another order

Entities refer to each other by place. Where a permutation moves them to other places and every reference is renamed
with it, an entity still sees the same names, parameters and types, so that binding and compiling go the same way.

* `Moved σ f as bs` : what is at place `i` of `as` is at place `σ i` of `bs`, changed by `f`;
* `exists_moved` : the items of a permuted list have moved; `Moved.each` : checks of items that have moved;
* `Entity.rename`, `Endpoint.rename` : references to entities, renamed;
* `Model.Renamed` : two models with the same entities, at different places;
* `Model.Renamed.visibleParams` : the parameters that an entity sees;
* `Model.Renamed.resolve`, `Model.Renamed.compile` : expressions are bound and compiled alike.
-/

namespace Tributary

/-! ## Items at other places -/

/-- What is at place `i` of one list is at place `σ i` of the other, changed by `f`. -/
def Moved {α β : Type} (σ : Equiv.Perm Nat) (f : α → β) (as : List α) (bs : List β) : Prop :=
  ∀ i, bs[σ i]? = (as[i]?).map f

/-- Keeps the first place and moves the others. -/
def liftPlaces (σ : Equiv.Perm Nat) : Equiv.Perm Nat where
  toFun i := i.casesOn 0 fun i => σ i + 1
  invFun i := i.casesOn 0 fun i => σ.symm i + 1
  left_inv i := by cases i <;> simp
  right_inv i := by cases i <;> simp

/-- The items of a permuted list have moved. -/
theorem exists_moved {α : Type} {as bs : List α} (h : as.Perm bs) : ∃ σ : Equiv.Perm Nat, Moved σ id as bs := by
  induction h with
  | nil => exact ⟨.refl _, fun i => by simp⟩
  | cons a _ ih =>
    obtain ⟨σ, hσ⟩ := ih
    refine ⟨liftPlaces σ, fun i => ?_⟩
    cases i with
    | zero => rfl
    | succ i => exact hσ i
  | swap a b l =>
    refine ⟨Equiv.swap 0 1, fun i => ?_⟩
    match i with
    | 0 => rfl
    | 1 => rfl
    | i + 2 =>
      rw [Equiv.swap_apply_of_ne_of_ne (by omega) (by omega)]
      simp
  | trans _ _ ih ih' =>
    obtain ⟨σ, hσ⟩ := ih
    obtain ⟨τ, hτ⟩ := ih'
    refine ⟨σ.trans τ, fun i => ?_⟩
    rw [Equiv.trans_apply, hτ, hσ, Option.map_id, id]

namespace Moved

variable {α β α' β' : Type} {σ : Equiv.Perm Nat} {f : α → α'} {as : List α} {as' : List α'}

theorem some (h : Moved σ f as as') {i : Nat} {a : α} (ha : as[i]? = some a) : as'[σ i]? = some (f a) := by
  rw [h, ha]
  rfl

/-- Every item of the other list has been moved there. -/
theorem exists_place (h : Moved σ f as as') {j : Nat} {a' : α'} (ha' : as'[j]? = .some a') :
    ∃ i a, σ i = j ∧ as[i]? = .some a ∧ f a = a' := by
  have hj := h (σ.symm j)
  rw [Equiv.apply_symm_apply, ha'] at hj
  obtain ⟨a, ha, heq⟩ := Option.map_eq_some_iff.mp hj.symm
  exact ⟨σ.symm j, a, σ.apply_symm_apply j, ha, heq⟩

theorem symm {as bs : List α} (h : Moved σ id as bs) : Moved σ.symm id bs as := by
  intro i
  have hi := h (σ.symm i)
  rw [Equiv.apply_symm_apply, Option.map_id, id] at hi
  rw [hi, Option.map_id, id]

theorem lt_iff (h : Moved σ f as as') (i : Nat) : σ i < as'.length ↔ i < as.length := by
  rw [← not_iff_not, Nat.not_lt, Nat.not_lt, ← List.getElem?_eq_none_iff, ← List.getElem?_eq_none_iff, h,
    Option.map_eq_none_iff]

theorem length_eq (h : Moved σ f as as') : as'.length = as.length := by
  have hrange : Finset.range as'.length = (Finset.range as.length).map σ.toEmbedding := by
    ext j
    rw [Finset.mem_map_equiv, Finset.mem_range, Finset.mem_range, ← h.lt_iff, Equiv.apply_symm_apply]
  have hcard := congrArg Finset.card hrange
  rwa [Finset.card_map, Finset.card_range, Finset.card_range] at hcard

theorem zipIdx (h : Moved σ f as as') : Moved σ (fun p => (f p.1, σ p.2)) as.zipIdx as'.zipIdx := by
  intro i
  rw [List.getElem?_zipIdx, List.getElem?_zipIdx, h]
  cases as[i]? <;> simp

/-- Where checks succeed on a list and go the same way on items that have moved, their results have moved, too. -/
theorem each {g : α → Checked β} {bs : List β} (h : Moved σ f as as') (hbs : Checked.each g as = .ok bs)
    (g' : α' → Checked β') {r : β → β'} (hg : ∀ a b, g a = .ok b → g' (f a) = .ok (r b)) :
    ∃ bs', Checked.each g' as' = .ok bs' ∧ Moved σ r bs bs' := by
  have hall := Checked.each_eq_ok.mp hbs
  have hsucceeds : ∀ a' ∈ as', ∃ b', g' a' = .ok b' := by
    intro a' ha'
    obtain ⟨j, hj⟩ := List.mem_iff_getElem?.mp ha'
    obtain ⟨i, a, -, ha, rfl⟩ := h.exists_place hj
    obtain ⟨b, -, hb⟩ := forall₂_getElem?_left hall ha
    exact ⟨r b, hg a b hb⟩
  obtain ⟨bs', hbs'⟩ := Checked.exists_each hsucceeds
  refine ⟨bs', hbs', fun i => ?_⟩
  cases ha : as[i]? with
  | none =>
    have hlen := Checked.each_length hbs
    have hlen' := Checked.each_length hbs'
    have hi := List.getElem?_eq_none_iff.mp ha
    have hi' := List.getElem?_eq_none_iff.mp ((h i).trans (by rw [ha]; rfl))
    rw [List.getElem?_eq_none (by omega), List.getElem?_eq_none (by omega)]
    rfl
  | some a =>
    obtain ⟨b, hb, hgb⟩ := forall₂_getElem?_left hall ha
    obtain ⟨b', hb', hgb'⟩ := Checked.each_getElem? hbs' (h.some ha)
    rw [hb, hb', Option.map_some]
    exact congrArg Option.some (Except.ok.inj (hgb'.symm.trans (hg a b hgb)))

end Moved

/-! ## References -/

def Parent.rename (σ : Equiv.Perm Nat) (p : Parent) : Parent := { p with entity := σ p.entity }

def Entity.rename {ε : Type} (σ : Equiv.Perm Nat) (e : Entity ε) : Entity ε :=
  { e with parents := e.parents.map (Parent.rename σ) }

/-- What is read off the parents of an entity is the same, as far as it does not look at references. -/
theorem Entity.map_parents_rename {ε γ : Type} {σ : Equiv.Perm Nat} {f f' : Parent → γ}
    (hf : ∀ p, f' (p.rename σ) = f p) (e : Entity ε) : (e.rename σ).parents.map f' = e.parents.map f := by
  show (e.parents.map (Parent.rename σ)).map f' = e.parents.map f
  rw [List.map_map]
  exact List.map_congr_left fun p _ => hf p

def Endpoint.rename (σ : Equiv.Perm Nat) (e : Endpoint) : Endpoint := { e with entity := σ e.entity }

namespace Model

variable {ε : Type}

/-- The queue of ancestors takes nodes off in the same order whatever they are named. -/
theorem climb_map {f : Nat → Nat} (hf : Function.Injective f) {next next' : Nat → List Nat}
    (hnext : ∀ i, next' (f i) = (next i).map f) (n : Nat) (visited queue : List Nat) :
    climb next' n (visited.map f) (queue.map f) = (climb next n visited queue).map f := by
  induction n generalizing visited queue with
  | zero => cases queue <;> rfl
  | succ n ih =>
    cases queue with
    | nil => rfl
    | cons i queue =>
      have hcontains : (visited.map f).contains (f i) = visited.contains i := by
        rw [Bool.eq_iff_iff]
        simp [hf.eq_iff]
      rw [List.map_cons, climb, climb, hcontains]
      split
      · exact ih _ _
      · rw [List.map_cons, ← ih, List.map_cons, List.map_append, hnext]

/-- The same entities at other places. Sources are looked up by name, so their order does not matter. -/
structure Renamed (σ : Equiv.Perm Nat) (m m' : Model ε) : Prop where
  entities : Moved σ (Entity.rename σ) m.entities m'.entities
  endpoints : m'.endpoints = m.endpoints.map (Endpoint.rename σ)
  source : ∀ name, m'.source? name = m.source? name

namespace Renamed

variable {σ : Equiv.Perm Nat} {m m' : Model ε}

/-! ## What an entity sees -/

theorem parentEntity? (h : m.Renamed σ m') (p : Parent) :
    m'.parentEntity? (p.rename σ) = (m.parentEntity? p).map (Entity.rename σ) :=
  h.entities p.entity

theorem parentsOf (h : m.Renamed σ m') (i : Nat) : m'.parentsOf (σ i) = (m.parentsOf i).map σ := by
  unfold Model.parentsOf
  rw [h.entities]
  cases m.entities[i]? with
  | none => rfl
  | some e =>
    show (e.parents.map (Parent.rename σ)).map Parent.entity = (e.parents.map Parent.entity).map σ
    rw [List.map_map, List.map_map]
    rfl

theorem parents_length (h : m.Renamed σ m') : ((List.range m'.entities.length).flatMap m'.parentsOf).length
    = ((List.range m.entities.length).flatMap m.parentsOf).length := by
  have hperm : (List.range m'.entities.length).Perm ((List.range m.entities.length).map σ) := by
    refine (List.perm_ext_iff_of_nodup List.nodup_range (List.nodup_range.map σ.injective)).mpr fun j => ?_
    rw [List.mem_range, List.mem_map]
    constructor
    · intro hj
      refine ⟨σ.symm j, List.mem_range.mpr ((h.entities.lt_iff _).mp ?_), σ.apply_symm_apply j⟩
      rwa [σ.apply_symm_apply]
    · rintro ⟨i, hi, rfl⟩
      exact (h.entities.lt_iff i).mpr (List.mem_range.mp hi)
  rw [(hperm.flatMap_right m'.parentsOf).length_eq, List.flatMap_map, List.length_flatMap, List.length_flatMap]
  simp only [h.parentsOf, List.length_map]

theorem ancestors (h : m.Renamed σ m') (i : Nat) : m'.ancestors (σ i) = (m.ancestors i).map σ := by
  unfold Model.ancestors
  rw [h.parents_length, h.parentsOf]
  exact climb_map σ.injective h.parentsOf _ [i] _

theorem sourceParams (h : m.Renamed σ m') (i : Nat) : m'.sourceParams (σ i) = m.sourceParams i := by
  have hsource : (m'.entities[σ i]?).bind Entity.source = (m.entities[i]?).bind Entity.source := by
    rw [h.entities]
    cases m.entities[i]? <;> rfl
  unfold Model.sourceParams
  rw [hsource, funext h.source]

theorem endpointsOf (h : m.Renamed σ m') (i : Nat) :
    m'.endpointsOf (σ i) = (m.endpointsOf i).map (Endpoint.rename σ) := by
  have hsame : ((fun e : Endpoint => e.entity == σ i) ∘ Endpoint.rename σ) = fun e => e.entity == i :=
    funext fun e => σ.injective.beq_eq
  unfold Model.endpointsOf
  rw [h.endpoints, List.filter_map, hsame]

/-- An entity sees the same parameters in the same slots: its ancestors are found in the same order. -/
theorem visibleParams (h : m.Renamed σ m') (i : Nat) : m'.visibleParams (σ i) = m.visibleParams i := by
  have hexposing : (m'.endpointsOf (σ i)).flatMap Endpoint.allParams =
      (m.endpointsOf i).flatMap Endpoint.allParams := by
    rw [h.endpointsOf, List.flatMap_map]
    rfl
  have hancestors : (m'.ancestors (σ i)).flatMap m'.sourceParams = (m.ancestors i).flatMap m.sourceParams := by
    rw [h.ancestors, List.flatMap_map]
    exact List.flatMap_congr fun k _ => h.sourceParams k
  unfold Model.visibleParams Model.reachableParams
  rw [h.sourceParams, hexposing, hancestors]

theorem parentNames (h : m.Renamed σ m') (p : Parent) : m'.parentNames (p.rename σ) = m.parentNames p := by
  unfold Model.parentNames
  rw [h.parentEntity?]
  cases m.parentEntity? p <;> rfl

theorem parentTypesOf (h : m.Renamed σ m') (p : Parent) : m'.parentTypesOf (p.rename σ) = m.parentTypesOf p := by
  unfold Model.parentTypesOf
  rw [h.parentEntity?]
  cases m.parentEntity? p <;> rfl

end Renamed

/-! ## Binding and compiling -/

variable {σ : Equiv.Perm Nat}

theorem Renamed.resolveAttr {m m' : Model SourceExpr} (h : m.Renamed σ m') (params : List Param)
    (e : Entity SourceExpr) (a : Attribute SourceExpr) (slot : Nat) :
    m'.resolveAttr params (e.rename σ) a slot = m.resolveAttr params e a slot := by
  unfold Model.resolveAttr
  rw [Entity.map_parents_rename h.parentNames]
  rfl

theorem Renamed.resolveEntity {m m' : Model SourceExpr} (h : m.Renamed σ m') {e : Entity SourceExpr} {i : Nat}
    {b : Entity BoundExpr} (hb : m.resolveEntity e i = .ok b) :
    m'.resolveEntity (e.rename σ) (σ i) = .ok (b.rename σ) := by
  obtain ⟨attributes, hall, rfl⟩ := map_eq_ok.mp hb
  refine map_eq_ok.mpr ⟨attributes, ?_, rfl⟩
  rw [h.visibleParams, ← hall]
  congr 1
  funext q
  exact h.resolveAttr _ e q.1 q.2

theorem Renamed.resolve {m m' : Model SourceExpr} (h : m.Renamed σ m') {b : Model BoundExpr}
    (hb : m.resolve = .ok b) : ∃ b', m'.resolve = .ok b' ∧ b.Renamed σ b' := by
  obtain ⟨entities, hall, rfl⟩ := map_eq_ok.mp hb
  obtain ⟨entities', hall', hmoved⟩ := h.entities.zipIdx.each hall (fun q => m'.resolveEntity q.1 q.2)
    fun q b hq => h.resolveEntity hq
  exact ⟨_, map_eq_ok.mpr ⟨entities', hall', rfl⟩, hmoved, h.endpoints, h.source⟩

theorem Renamed.compileAttr {b b' : Model BoundExpr} (h : b.Renamed σ b') (options : Options) (params : List Param)
    (e : Entity BoundExpr) (a : Attribute BoundExpr) :
    b'.compileAttr options params (e.rename σ) a = b.compileAttr options params e a := by
  unfold Model.compileAttr Model.typeEnv
  rw [Entity.map_parents_rename h.parentTypesOf]
  rfl

theorem Renamed.compileEntity {b b' : Model BoundExpr} (h : b.Renamed σ b') {options : Options}
    {e : Entity BoundExpr} {i : Nat} {c : Entity Compiled} (hc : b.compileEntity options e i = .ok c) :
    b'.compileEntity options (e.rename σ) (σ i) = .ok (c.rename σ) := by
  obtain ⟨attributes, hall, rfl⟩ := map_eq_ok.mp hc
  refine map_eq_ok.mpr ⟨attributes, ?_, rfl⟩
  rw [h.visibleParams, ← hall]
  congr 1
  funext a
  exact h.compileAttr options _ e a

theorem Renamed.compile {b b' : Model BoundExpr} (h : b.Renamed σ b') {options : Options} {c : Model Compiled}
    (hc : b.compile options = .ok c) : ∃ c', b'.compile options = .ok c' ∧ c.Renamed σ c' := by
  obtain ⟨entities, hall, rfl⟩ := map_eq_ok.mp hc
  obtain ⟨entities', hall', hmoved⟩ := h.entities.zipIdx.each hall (fun q => b'.compileEntity options q.1 q.2)
    fun q c hq => h.compileEntity hq
  exact ⟨_, map_eq_ok.mpr ⟨entities', hall', rfl⟩, hmoved, h.endpoints, h.source⟩

end Model

end Tributary
