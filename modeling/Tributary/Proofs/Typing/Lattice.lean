import Mathlib.Order.Bounds.Basic
import Tributary.Typing

/-!
# Types as a lattice

Types by what they say: null, which says that there is nothing, is below every type, and the type that is not known is
above every type. In between integers are numbers, and arrays are ordered as their items are. The type of what may come
from either of two places is the least type above both.

* `Ty.Below a b` : what has type `a` has type `b`, the order of types;
* `Ty.le_unify_left`, `Ty.le_unify_right`, `Ty.unify_le` : `unify` is the join of that order;
* `Ty.unifyAll_le_iff` : so is `unifyAll`, of the types in a list;
* `Ty.Conformance` : what it is that values conform to types; `Ty.Conformance.mono` : they also conform to types above;
* `Ty.unify_join` : the laws of `unify`, and what follows for literals and values.
-/

namespace Tributary

namespace Ty

/-! ## The order -/

/-- What has the first type also has the second. -/
inductive Below : Ty → Ty → Prop where
  | refl (t : Ty) : Below t t
  | null (t : Ty) : Below null t
  | any (t : Ty) : Below t any
  | integer : Below integer number
  | array {a b : Ty} (h : Below a b) : Below (array a) (array b)

theorem Below.trans {a b c : Ty} (h : Below a b) (h' : Below b c) : Below a c := by
  induction h generalizing c with
  | refl t => exact h'
  | null t => exact .null c
  | any t => cases h' <;> exact .any t
  | integer =>
    cases h' with
    | refl => exact .integer
    | any => exact .any _
  | array h ih =>
    cases h' with
    | refl => exact .array h
    | any => exact .any _
    | array h' => exact .array (ih h')

theorem Below.antisymm {a b : Ty} (h : Below a b) (h' : Below b a) : a = b := by
  induction h with
  | refl t => rfl
  | null t => cases h' <;> rfl
  | any t => cases h' <;> rfl
  | integer => cases h'
  | array h ih =>
    cases h' with
    | refl => rfl
    | array h' => rw [ih h']

instance : PartialOrder Ty where
  le := Below
  le_refl := Below.refl
  le_trans _ _ _ := Below.trans
  le_antisymm _ _ := Below.antisymm

/-! ## The join -/

theorem le_unify_left (a b : Ty) : a ≤ a.unify b := by
  fun_induction unify a b with
  | case1 a => exact le_refl a
  | case2 b => exact .null b
  | case3 a => exact le_refl a
  | case4 => exact .integer
  | case5 => exact le_refl _
  | case6 a b _ ih => exact .array ih
  | case7 a b => exact .any a

theorem le_unify_right (a b : Ty) : b ≤ a.unify b := by
  fun_induction unify a b with
  | case1 a => exact le_refl a
  | case2 b => exact le_refl b
  | case3 a => exact .null a
  | case4 => exact le_refl _
  | case5 => exact .integer
  | case6 a b _ ih => exact .array ih
  | case7 a b => exact .any b

/-- Above an array there are arrays of items above its items, and the top. -/
theorem eq_of_array_le {a c : Ty} (h : array a ≤ c) : c = any ∨ ∃ b, c = array b ∧ a ≤ b := by
  cases h with
  | refl => exact .inr ⟨a, rfl, le_refl a⟩
  | any => exact .inl rfl
  | array h => exact .inr ⟨_, rfl, h⟩

theorem unify_le {a b c : Ty} (ha : a ≤ c) (hb : b ≤ c) : a.unify b ≤ c := by
  fun_induction unify a b generalizing c with
  | case1 a => exact ha
  | case2 b => exact hb
  | case3 a => exact ha
  | case4 => exact hb
  | case5 => exact ha
  | case6 a b _ ih =>
    obtain rfl | ⟨c, rfl, hac⟩ := eq_of_array_le ha
    · exact .any _
    · obtain hc | ⟨_, hc, hbc⟩ := eq_of_array_le hb
      · cases hc
      · cases hc
        exact .array (ih hac hbc)
  | case7 a b =>
    -- neither of the two is below the other, and only the top is above both
    cases ha <;> cases hb <;> first | exact .any _ | simp_all

instance : SemilatticeSup Ty where
  sup := unify
  le_sup_left := le_unify_left
  le_sup_right := le_unify_right
  sup_le _ _ _ := unify_le

instance : OrderBot Ty where
  bot := null
  bot_le := Below.null

instance : OrderTop Ty where
  top := any
  le_top := Below.any

theorem foldl_unify_le_iff {ts : List Ty} : ∀ {t c : Ty}, ts.foldl unify t ≤ c ↔ t ≤ c ∧ ∀ s ∈ ts, s ≤ c := by
  induction ts with
  | nil => simp
  | cons s ts ih =>
    intro t c
    have hsup : t.unify s ≤ c ↔ t ≤ c ∧ s ≤ c := sup_le_iff
    rw [List.foldl_cons, ih, hsup, List.forall_mem_cons, and_assoc]

theorem unifyAll_le_iff {ts : List Ty} (h : ts ≠ []) {c : Ty} : unifyAll ts ≤ c ↔ ∀ t ∈ ts, t ≤ c := by
  cases ts with
  | nil => cases h rfl
  | cons t ts => rw [unifyAll, foldl_unify_le_iff, List.forall_mem_cons]

theorem le_unifyAll {ts : List Ty} {t : Ty} (h : t ∈ ts) : t ≤ unifyAll ts :=
  (unifyAll_le_iff (List.ne_nil_of_mem h)).mp (le_refl _) t h

/-- Only which types there are counts. -/
theorem unifyAll_congr {ts us : List Ty} (h : ∀ t, t ∈ ts ↔ t ∈ us) : unifyAll ts = unifyAll us := by
  by_cases hts : ts = []
  · subst hts
    rw [List.eq_nil_iff_forall_not_mem.mpr fun t ht => List.not_mem_nil ((h t).mpr ht)]
  · have hus : us ≠ [] := by
      rintro rfl
      exact hts (List.eq_nil_iff_forall_not_mem.mpr fun t ht => List.not_mem_nil ((h t).mp ht))
    refine eq_of_forall_ge_iff fun c => ?_
    rw [unifyAll_le_iff hts, unifyAll_le_iff hus]
    exact forall_congr' fun t => imp_congr_left (h t)

theorem mem_ofValues {vs : List Value} {t : Ty} : t ∈ ofValues vs ↔ ∃ v ∈ vs, ofValue v = t := by
  induction vs with
  | nil => simp [ofValues]
  | cons v vs ih => simp [ofValues, ih, eq_comm]

/-! ## Values -/

/-- What it is that values conform to types. Only null conforms to the type of null, and it conforms to every type; any
value conforms to the type that is not known; integers are numbers, and arrays are taken item by item. How values of the
other types are told apart is left open. -/
structure Conformance where
  holds : Ty → Value → Prop
  null (t : Ty) : holds t .null
  eq_null {v : Value} (h : holds .null v) : v = .null
  any (v : Value) : holds .any v
  number {v : Value} (h : holds .integer v) : holds .number v
  array {t : Ty} {v : Value} : holds (.array t) v ↔ v = .null ∨ ∃ vs, v = .array vs ∧ ∀ w ∈ vs, holds t w

namespace Conformance

variable (C : Conformance)

/-- What conforms to a type conforms to all types above it. -/
theorem mono {a b : Ty} (h : a ≤ b) {v : Value} (hv : C.holds a v) : C.holds b v := by
  induction h generalizing v with
  | refl => exact hv
  | null t =>
    obtain rfl := C.eq_null hv
    exact C.null t
  | any => exact C.any v
  | integer => exact C.number hv
  | array h ih =>
    obtain rfl | ⟨vs, rfl, hvs⟩ := C.array.mp hv
    · exact C.null _
    · exact C.array.mpr (.inr ⟨vs, rfl, fun w hw => ih (hvs w hw)⟩)

end Conformance

/-- Whether a value conforms to a type, where integers are told apart from other numbers. -/
def conforms : Ty → Value → Bool
  | _, .null => true
  | any, _ => true
  | boolean, .bool _ => true
  | integer, .number n => n.isInteger
  | number, .number _ => true
  | string, .string _ => true
  | datetime, .time _ => true
  | binary, .bytes _ => true
  | image, .object _ => true
  | object, .object _ => true
  | array item, .array vs => vs.all fun v => conforms item v
  | _, _ => false

theorem conforms_null (t : Ty) : t.conforms .null = true := by cases t <;> rfl

theorem conforms_any (v : Value) : any.conforms v = true := by cases v <;> rfl

theorem eq_null_of_conforms {v : Value} (h : null.conforms v = true) : v = .null := by
  cases v with
  | null => rfl
  | _ => cases h

theorem conforms_number {v : Value} (h : integer.conforms v = true) : number.conforms v = true := by
  cases v with
  | null | number => rfl
  | _ => cases h

theorem array_conforms_iff {t : Ty} {v : Value} :
    (array t).conforms v = true ↔ v = .null ∨ ∃ vs, v = .array vs ∧ ∀ w ∈ vs, t.conforms w = true := by
  cases v with
  | null => exact ⟨fun _ => .inl rfl, fun _ => rfl⟩
  | array vs => simp [conforms]
  | _ => simp [conforms]

/-- Integers are told apart from other numbers, and pictures are objects. -/
def strictConformance : Conformance where
  holds t v := t.conforms v = true
  null := conforms_null
  eq_null := eq_null_of_conforms
  any := conforms_any
  number := conforms_number
  array := array_conforms_iff

/-- The type of what may come from either of two places is a join: the laws of a semilattice hold, with null at the
bottom and the type that is not known at the top. So the type of an array is that of its items in any order, and values
keep conforming. -/
theorem unify_join :
    (∀ a : Ty, a.unify a = a) ∧ (∀ a b : Ty, a.unify b = b.unify a) ∧
    (∀ a b c : Ty, (a.unify b).unify c = a.unify (b.unify c)) ∧
    (∀ a : Ty, null.unify a = a ∧ a.unify null = a) ∧ (∀ a : Ty, any.unify a = any ∧ a.unify any = any) ∧
    (∀ a b : Ty, IsLUB {a, b} (a.unify b)) ∧
    (∀ vs ws : List Value, (∀ v, v ∈ vs ↔ v ∈ ws) → ofValue (.array vs) = ofValue (.array ws)) ∧
    ∀ (C : Conformance) (a b : Ty) (v : Value), C.holds a v → C.holds (a.unify b) v := by
  refine ⟨sup_idem, sup_comm, sup_assoc, fun a => ⟨bot_sup_eq a, sup_bot_eq a⟩, fun a => ⟨top_sup_eq a, sup_top_eq a⟩,
    fun a b => isLUB_pair, ?_, fun C a b v hv => C.mono (le_unify_left a b) hv⟩
  intro vs ws h
  have htypes : ∀ t, t ∈ ofValues vs ↔ t ∈ ofValues ws := by
    intro t
    rw [mem_ofValues, mem_ofValues]
    exact exists_congr fun v => and_congr_left fun _ => h v
  rw [ofValue, ofValue, unifyAll_congr htypes]

/-- An array of one integer, one of null and two and a half, and null. -/
def samples : List Value :=
  [.array [.number (.int 1)], .array [.null, .number (.float ⟨0x4004000000000000⟩)], .null]

/-- Turned around and with the first repeated they have the same type, and the integer is then among numbers. -/
theorem samples_unify :
    ofValue (.array samples) = .array (.array .number) ∧
    ofValue (.array (samples.reverse ++ samples.take 1)) = .array (.array .number) ∧
    ((array integer).unify (array number)).conforms (.array [.number (.int 1)]) = true := by
  obtain ⟨-, -, -, -, -, -, hitems, hvalues⟩ := unify_join
  have htype : ofValue (.array samples) = .array (.array .number) := by decide +kernel
  refine ⟨htype, ?_, hvalues strictConformance (.array .integer) (.array .number) (.array [.number (.int 1)]) ?_⟩
  · rw [← htype]
    refine hitems _ _ fun v => ?_
    rw [List.mem_append, List.mem_reverse]
    exact or_iff_left_of_imp List.mem_of_mem_take
  · show (array integer).conforms (.array [.number (.int 1)]) = true
    rfl

end Ty

end Tributary
