import Tributary.Proofs.Distinct
import Tributary.Proofs.Expr.Compiles

/-!
# What a name means

The rules of scoping as a relation, apart from the order in which a look-up tries them. Each rule says what must not
have the name for the rule to hold.

* `Scope.Means s L name x` : under the lambda parameters `L` the name means `x`;
* `Scope.Distinct s` : attributes, parents and parameters of a scope have distinct names;
* `Scope.lookup_eq_ok` : a look-up gives what a name means;
* `Scope.Misses s name k` : why a name means nothing; `Scope.lookup_misses` : a look-up that fails says so.
-/

namespace Tributary

/-- A parent gives an attribute to expressions by its bare name: there is one record of it, which has the attribute. -/
def ParentNames.Lends (p : ParentNames) (name : String) : Prop := p.multiplicity = .one ∧ name ∈ p.attrs

theorem ParentNames.lends_iff {p : ParentNames} {name : String} : p.lends name = true ↔ p.Lends name := by
  simp [lends, Lends]

theorem lastIndex?_eq_none {name : String} {names : List String} : lastIndex? name names = none ↔ name ∉ names := by
  induction names with
  | nil => simp [lastIndex?]
  | cons x xs ih =>
    rw [lastIndex?]
    cases hlast : lastIndex? name xs with
    | some i =>
      have hmem : name ∈ xs := by
        by_contra hnot
        rw [ih.mpr hnot] at hlast
        cases hlast
      simp [hmem]
    | none =>
      have hnot := ih.mp hlast
      by_cases hx : x = name
      · simp [hx]
      · simp [hx, hnot, Ne.symm hx]

theorem lastIndex?_eq_some {name : String} {names : List String} {i : Nat} :
    lastIndex? name names = some i ↔ names[i]? = some name ∧ ∀ k, i < k → names[k]? ≠ some name := by
  induction names generalizing i with
  | nil => simp [lastIndex?]
  | cons x xs ih =>
    rw [lastIndex?]
    cases hlast : lastIndex? name xs with
    | some j =>
      obtain ⟨hj, hafter⟩ := ih.mp hlast
      dsimp only
      constructor
      · rintro ⟨⟩
        refine ⟨hj, fun k hk => ?_⟩
        obtain ⟨k, rfl⟩ : ∃ k', k = k' + 1 := ⟨k - 1, by omega⟩
        exact hafter k (by omega)
      · rintro ⟨hi, hlater⟩
        -- The name stands at `j + 1`, so its last place is not before that.
        cases i with
        | zero => exact absurd hj (hlater (j + 1) (Nat.succ_pos j))
        | succ i =>
          have hrest : lastIndex? name xs = some i := ih.mpr ⟨hi, fun k hk => hlater (k + 1) (Nat.succ_lt_succ hk)⟩
          rw [Option.some.inj (hlast.symm.trans hrest)]
    | none =>
      have hnot := lastIndex?_eq_none.mp hlast
      have hnone : ∀ k, xs[k]? ≠ some name := fun k hk => hnot (List.mem_of_getElem? hk)
      dsimp only
      constructor
      · intro h
        split at h
        · next hx =>
          cases h
          refine ⟨by rw [hx]; rfl, fun k hk => ?_⟩
          obtain ⟨k, rfl⟩ : ∃ k', k = k' + 1 := ⟨k - 1, by omega⟩
          exact hnone k
        · cases h
      · rintro ⟨hi, -⟩
        cases i with
        | zero => rw [if_pos (Option.some.inj hi)]
        | succ i => exact absurd hi (hnone i)

namespace Scope

/-- Under a scope and the parameters of the enclosing lambdas, what a name means. -/
inductive Means (s : Scope) (L : List String) (name : String) : Binding → Prop where
  /-- The innermost lambda parameter of the name. -/
  | lambdaParam {slot} (h : L[slot]? = some name) (hlast : ∀ k, slot < k → L[k]? ≠ some name) :
      Means s L name (.lambdaParam slot)
  /-- An earlier attribute of the entity. -/
  | attr {slot} (hlocal : name ∉ L) (h : s.attrs[slot]? = some name) (hearlier : slot < s.current) :
      Means s L name (.attr slot)
  /-- A parent. -/
  | parent {slot p} (hlocal : name ∉ L) (hattr : name ∉ s.attrs) (h : s.parents[slot]? = some p)
      (hname : p.name = name) : Means s L name (.parent slot name p.multiplicity)
  /-- A visible parameter. -/
  | param {slot} (hlocal : name ∉ L) (hattr : name ∉ s.attrs) (hparent : name ∉ s.parents.map ParentNames.name)
      (h : s.params[slot]? = some name) : Means s L name (.param slot)
  /-- An attribute of the only parent that lends it. -/
  | parentAttr {slot p} (hlocal : name ∉ L) (hattr : name ∉ s.attrs) (hparent : name ∉ s.parents.map ParentNames.name)
      (hparam : name ∉ s.params) (h : s.parents[slot]? = some p) (hlends : p.Lends name)
      (honly : ∀ (k : Nat) q, s.parents[k]? = some q → q.Lends name → k = slot) :
      Means s L name (.parentAttr slot p.name name)

/-- The attributes, the parents and the parameters of a scope have distinct names. -/
structure Distinct (s : Scope) : Prop where
  attrs : s.attrs.Nodup
  parents : (s.parents.map ParentNames.name).Nodup
  params : s.params.Nodup

def IsLater (s : Scope) (name : String) : Prop := ∃ slot, s.current ≤ slot ∧ s.attrs[slot]? = some name

/-- A name is that of an attribute of two parents that lend it. -/
def IsShared (s : Scope) (name : String) : Prop :=
  ∃ (i j : Nat) (p q : ParentNames), i ≠ j ∧ s.parents[i]? = some p ∧ s.parents[j]? = some q ∧
    p.Lends name ∧ q.Lends name

inductive Misses (s : Scope) (name : String) : ProblemKind → Prop where
  | later (h : s.IsLater name) : Misses s name .forwardReference
  | shared (hlater : ¬ s.IsLater name) (h : s.IsShared name) : Misses s name .ambiguousReference
  | unknown (hlater : ¬ s.IsLater name) (hshared : ¬ s.IsShared name) : Misses s name .unresolvedReference

variable {s : Scope} {L : List String} {name : String}

theorem findIdx?_name {names : List String} (h : names.Nodup) {i : Nat} :
    names.findIdx? (· == name) = some i ↔ names[i]? = some name := by
  have hkey : names.findIdx? (fun a => id a == name) = some i ↔ _ := findIdx?_key_eq_some (by rwa [List.map_id])
  simpa using hkey

theorem findIdx?_name_none {names : List String} : names.findIdx? (· == name) = none ↔ name ∉ names := by
  rw [List.findIdx?_eq_none_iff]
  constructor
  · intro h hmem
    simpa using h name hmem
  · intro h x hx
    simpa using fun heq : x = name => h (heq ▸ hx)

theorem parent?_eq_none : s.parent? name = none ↔ name ∉ s.parents.map ParentNames.name := by
  rw [parent?, Option.map_eq_none_iff, List.find?_eq_none]
  constructor
  · intro h hmem
    obtain ⟨p, hp, rfl⟩ := List.mem_map.mp hmem
    obtain ⟨i, hi⟩ := List.mem_iff_getElem?.mp hp
    simpa using h (p, i) (List.mem_zipIdx_iff_getElem?.mpr hi)
  · rintro h ⟨p, i⟩ hp hname
    have hmem := List.mem_of_getElem? (List.mem_zipIdx_iff_getElem?.mp hp)
    exact h (beq_iff_eq.mp hname ▸ List.mem_map_of_mem hmem)

theorem parent?_of_name (h : s.Distinct) {slot : Nat} {p : ParentNames} (hp : s.parents[slot]? = some p) :
    s.parent? p.name = some (slot, p) := by
  cases hfound : s.parent? p.name with
  | none => exact absurd (List.mem_map_of_mem (List.mem_of_getElem? hp)) (parent?_eq_none.mp hfound)
  | some q =>
    obtain ⟨slot', p'⟩ := q
    obtain ⟨hp', hname⟩ := parent?_eq_some hfound
    obtain rfl := place_eq_of_key_eq h.parents hp' hp hname
    rw [Option.some.inj (hp'.symm.trans hp)]

/-! ## Parents that lend an attribute -/

theorem mem_lenders_iff {slot : Nat} {p : ParentNames} :
    (slot, p) ∈ s.lenders name ↔ s.parents[slot]? = some p ∧ p.Lends name := by
  refine ⟨mem_lenders, fun ⟨hp, hlends⟩ => ?_⟩
  refine List.mem_map.mpr ⟨(p, slot), List.mem_filter.mpr ⟨List.mem_zipIdx_iff_getElem?.mpr hp, ?_⟩, rfl⟩
  exact ParentNames.lends_iff.mpr hlends

theorem lenders_slots_nodup : ((s.lenders name).map Prod.fst).Nodup := by
  have hslots : (s.lenders name).map Prod.fst = (s.parents.zipIdx.filter fun p => p.1.lends name).map Prod.snd := by
    rw [lenders, List.map_map]
    rfl
  rw [hslots]
  refine List.Nodup.sublist (List.filter_sublist.map _) ?_
  rw [List.zipIdx_map_snd]
  exact List.nodup_range'

theorem only_of_lenders {slot : Nat} {p : ParentNames} (h : s.lenders name = [(slot, p)]) :
    ∀ (k : Nat) q, s.parents[k]? = some q → q.Lends name → k = slot := by
  intro k q hq hlends
  have hmem : (k, q) ∈ s.lenders name := mem_lenders_iff.mpr ⟨hq, hlends⟩
  rw [h, List.mem_singleton] at hmem
  exact (Prod.mk.inj hmem).1

theorem lenders_of_only {slot : Nat} {p : ParentNames} (hp : s.parents[slot]? = some p) (hlends : p.Lends name)
    (honly : ∀ (k : Nat) q, s.parents[k]? = some q → q.Lends name → k = slot) : s.lenders name = [(slot, p)] := by
  have hall : ∀ x ∈ s.lenders name, x = (slot, p) := by
    rintro ⟨k, q⟩ hx
    obtain ⟨hq, hlends'⟩ := mem_lenders_iff.mp hx
    obtain rfl := honly k q hq hlends'
    rw [Option.some.inj (hq.symm.trans hp)]
  have hmem : (slot, p) ∈ s.lenders name := mem_lenders_iff.mpr ⟨hp, hlends⟩
  have hnodup : (s.lenders name).Nodup := List.Nodup.of_map _ lenders_slots_nodup
  cases hlist : s.lenders name with
  | nil => rw [hlist] at hmem; cases hmem
  | cons x xs =>
    rw [hlist] at hall hnodup
    obtain rfl := hall x List.mem_cons_self
    cases xs with
    | nil => rfl
    | cons y ys =>
      have hy := hall y (by simp)
      exact absurd (hy ▸ List.mem_cons_self) (List.nodup_cons.mp hnodup).1

theorem isShared_of_lenders {x y : Nat × ParentNames} {rest : List (Nat × ParentNames)}
    (h : s.lenders name = x :: y :: rest) : s.IsShared name := by
  have hnodup : ((s.lenders name).map Prod.fst).Nodup := lenders_slots_nodup
  rw [h] at hnodup
  have hne : x.1 ≠ y.1 := by
    intro heq
    exact (List.nodup_cons.mp hnodup).1 (by rw [heq]; exact List.mem_cons_self)
  obtain ⟨hx, hxl⟩ := mem_lenders_iff.mp (show (x.1, x.2) ∈ s.lenders name by simp [h])
  obtain ⟨hy, hyl⟩ := mem_lenders_iff.mp (show (y.1, y.2) ∈ s.lenders name by simp [h])
  exact ⟨x.1, y.1, x.2, y.2, hne, hx, hy, hxl, hyl⟩

theorem not_isShared_of_lenders (h : s.lenders name = []) : ¬ s.IsShared name := by
  rintro ⟨i, -, p, -, -, hp, -, hlends, -⟩
  have hmem := mem_lenders_iff.mpr ⟨hp, hlends⟩
  rw [h] at hmem
  cases hmem

/-! ## Look-ups -/

theorem not_isLater (h : name ∉ s.attrs) : ¬ s.IsLater name :=
  fun ⟨_, _, hslot⟩ => h (List.mem_of_getElem? hslot)

/-- What only a parent may have is lent by exactly one. -/
theorem lookupLent_eq_ok {x : Binding} : s.lookupLent name = .ok x ↔
    ∃ slot p, s.parents[slot]? = some p ∧ p.Lends name ∧
      (∀ (k : Nat) q, s.parents[k]? = some q → q.Lends name → k = slot) ∧ x = .parentAttr slot p.name name := by
  constructor
  · intro h
    unfold lookupLent at h
    split at h
    · cases h
    · next slot p hlenders =>
      cases h
      obtain ⟨hp, hlends⟩ := mem_lenders_iff.mp (hlenders ▸ List.mem_singleton_self (slot, p))
      exact ⟨slot, p, hp, hlends, only_of_lenders hlenders, rfl⟩
    · cases h
  · rintro ⟨slot, p, hp, hlends, honly, rfl⟩
    rw [lookupLent, lenders_of_only hp hlends honly]

theorem lookupGlobal_eq_ok (h : s.Distinct) (hlocal : name ∉ L) {x : Binding} :
    s.lookupGlobal name = .ok x ↔ s.Means L name x := by
  have hnotLocal : ∀ slot : Nat, L[slot]? ≠ some name := fun _ hslot => hlocal (List.mem_of_getElem? hslot)
  unfold lookupGlobal
  cases hattr : s.attrs.findIdx? (· == name) with
  | some i =>
    have hi := (findIdx?_name h.attrs).mp hattr
    have hmem := List.mem_of_getElem? hi
    dsimp only
    constructor
    · intro hx
      split at hx
      · next hlt => cases hx; exact .attr hlocal hi hlt
      · split at hx <;> cases hx
    · intro hx
      cases hx with
      | lambdaParam hslot => exact absurd hslot (hnotLocal _)
      | attr _ hslot hearlier =>
        obtain rfl := Option.some.inj (hattr.symm.trans ((findIdx?_name h.attrs).mpr hslot))
        rw [if_pos hearlier]
      | parent _ hnot | param _ hnot | parentAttr _ hnot => exact absurd hmem hnot
  | none =>
    have hattr := findIdx?_name_none.mp hattr
    dsimp only
    cases hparent : s.parent? name with
    | some q =>
      obtain ⟨hp, hname⟩ := parent?_eq_some hparent
      have hmem : name ∈ s.parents.map ParentNames.name := hname ▸ List.mem_map_of_mem (List.mem_of_getElem? hp)
      constructor
      · rintro ⟨⟩
        rw [hname]
        exact .parent hlocal hattr hp hname
      · intro hx
        cases hx with
        | lambdaParam hslot => exact absurd hslot (hnotLocal _)
        | attr _ hslot => exact absurd (List.mem_of_getElem? hslot) hattr
        | parent _ _ hp' hname' =>
          have hfound := parent?_of_name h hp'
          rw [hname', hparent] at hfound
          obtain rfl := Option.some.inj hfound
          dsimp only
          rw [hname']
        | param _ _ hnot | parentAttr _ _ hnot => exact absurd hmem hnot
    | none =>
      have hparent := parent?_eq_none.mp hparent
      dsimp only
      cases hparam : s.params.findIdx? (· == name) with
      | some i =>
        have hi := (findIdx?_name h.params).mp hparam
        constructor
        · rintro ⟨⟩
          exact .param hlocal hattr hparent hi
        · intro hx
          cases hx with
          | lambdaParam hslot => exact absurd hslot (hnotLocal _)
          | attr _ hslot => exact absurd (List.mem_of_getElem? hslot) hattr
          | parent _ _ hp hname => exact absurd (hname ▸ List.mem_map_of_mem (List.mem_of_getElem? hp)) hparent
          | param _ _ _ hslot => rw [Option.some.inj (hparam.symm.trans ((findIdx?_name h.params).mpr hslot))]
          | parentAttr _ _ _ hnot => exact absurd (List.mem_of_getElem? hi) hnot
      | none =>
        have hparam := findIdx?_name_none.mp hparam
        dsimp only
        rw [lookupLent_eq_ok]
        constructor
        · rintro ⟨slot, p, hp, hlends, honly, rfl⟩
          exact .parentAttr hlocal hattr hparent hparam hp hlends honly
        · intro hx
          cases hx with
          | lambdaParam hslot => exact absurd hslot (hnotLocal _)
          | attr _ hslot => exact absurd (List.mem_of_getElem? hslot) hattr
          | parent _ _ hp hname => exact absurd (hname ▸ List.mem_map_of_mem (List.mem_of_getElem? hp)) hparent
          | param _ _ _ hslot => exact absurd (List.mem_of_getElem? hslot) hparam
          | parentAttr _ _ _ _ hp hlends honly => exact ⟨_, _, hp, hlends, honly, rfl⟩

/-- A look-up gives what a name means, and nothing where it means nothing. -/
theorem lookup_eq_ok (h : s.Distinct) {x : Binding} : s.lookup L name = .ok x ↔ s.Means L name x := by
  unfold lookup
  cases hlast : lastIndex? name L with
  | some slot =>
    obtain ⟨hslot, hafter⟩ := lastIndex?_eq_some.mp hlast
    have hmem := List.mem_of_getElem? hslot
    constructor
    · rintro ⟨⟩
      exact .lambdaParam hslot hafter
    · intro hx
      cases hx with
      | lambdaParam hslot' hafter' =>
        rw [Option.some.inj (hlast.symm.trans (lastIndex?_eq_some.mpr ⟨hslot', hafter'⟩))]
      | attr hnot | parent hnot | param hnot | parentAttr hnot => exact absurd hmem hnot
  | none => exact lookupGlobal_eq_ok h (lastIndex?_eq_none.mp hlast)

theorem lookupLent_misses {problem : Problem} (hlater : ¬ s.IsLater name) (h : s.lookupLent name = .error problem) :
    s.Misses name problem.kind := by
  unfold lookupLent at h
  split at h
  · next hlenders =>
    cases h
    exact .unknown hlater (not_isShared_of_lenders hlenders)
  · cases h
  · next hnil hone =>
    cases h
    obtain ⟨x, y, rest, hlenders⟩ : ∃ x y rest, s.lenders name = x :: y :: rest := by
      cases hlist : s.lenders name with
      | nil => exact absurd hlist hnil
      | cons x xs =>
        cases xs with
        | nil => exact absurd hlist (hone x.1 x.2)
        | cons y ys => exact ⟨x, y, ys, rfl⟩
    exact .shared hlater (isShared_of_lenders hlenders)

/-- A look-up that fails says why the name means nothing. -/
theorem lookup_misses {problem : Problem} (h : s.lookup L name = .error problem) : s.Misses name problem.kind := by
  unfold lookup at h
  split at h
  · cases h
  · unfold lookupGlobal at h
    split at h
    · next i hi =>
      obtain ⟨hlt, heq, -⟩ := List.findIdx?_eq_some_iff_getElem.mp hi
      have hslot : s.attrs[i]? = some name := by rw [List.getElem?_eq_getElem hlt, beq_iff_eq.mp heq]
      split at h
      · cases h
      · next hge =>
        have hlater : s.IsLater name := ⟨i, Nat.le_of_not_lt hge, hslot⟩
        split at h <;> cases h <;> exact .later hlater
    · next hattr =>
      have hlater := not_isLater (findIdx?_name_none.mp hattr)
      split at h
      · cases h
      · split at h
        · cases h
        · exact lookupLent_misses hlater h

end Scope

end Tributary
