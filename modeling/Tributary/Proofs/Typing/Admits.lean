import Mathlib.Data.List.Forall2
import Tributary.Proofs.Typing.Lattice

/-!
# Values of a type

* `Ty.admits t v` : value `v` may be where type `t` is known; missing data may be anywhere;
* `Ty.AdmitEach ts vs` : the same of values and types in their order;
* `Ty.admits_element` : the items of an array are of the type of an element;
* `Ty.within a b` : type `a` is within type `b`; `Ty.admits_within` : then values of the one are of the other;
* `Ty.looseConformance` : being of a type keeps to the order of types;
* `Ty.admits_unify_left`, `Ty.admits_unify_right` : what may come from either of two places;
* `Ty.admits_ofValue` : a literal is of its own type.
-/

namespace Tributary

def Value.isNumber : Value → Bool
  | .number _ => true
  | _ => false

namespace Ty

/-- Whether a value may be where a type is known. Null may be anywhere, and of the type of null there is nothing else.
Numbers are not told apart, a byte string may be an array of numbers, and a picture is an object. -/
def admits : Ty → Value → Bool
  | _, .null => true
  | any, _ => true
  | boolean, .bool _ => true
  | integer, .number _ => true
  | number, .number _ => true
  | string, .string _ => true
  | datetime, .time _ => true
  | binary, .bytes _ => true
  | binary, .array vs => vs.all Value.isNumber
  | image, .object _ => true
  | object, .object _ => true
  | array item, .array vs => vs.all fun v => admits item v
  | _, _ => false

abbrev AdmitEach (ts : List Ty) (vs : List Value) : Prop := List.Forall₂ (fun t v => t.admits v = true) ts vs

@[simp] theorem admits_null (t : Ty) : t.admits .null = true := by cases t <;> rfl

@[simp] theorem admits_any (v : Value) : any.admits v = true := by cases v <;> rfl

theorem admits_number {t : Ty} (ht : t.isNumeric = true) (n : Number) : t.admits (.number n) = true := by
  cases t <;> first | rfl | cases ht

theorem admits_array {item : Ty} {vs : List Value} :
    (array item).admits (.array vs) = true ↔ ∀ v ∈ vs, item.admits v = true :=
  List.all_eq_true

/-- What is of the type of null is null. -/
theorem admits_null_iff {v : Value} : null.admits v = true ↔ v = .null := by
  cases v with
  | null => exact ⟨fun _ => rfl, fun _ => rfl⟩
  | _ => exact ⟨nofun, nofun⟩

/-- A value of an array type is an array of such items, or missing. -/
theorem eq_of_array_admits {item : Ty} {v : Value} (h : (array item).admits v = true) :
    v = .null ∨ ∃ vs, v = .array vs ∧ ∀ w ∈ vs, item.admits w = true := by
  cases v with
  | null => exact .inl rfl
  | array vs => exact .inr ⟨vs, rfl, admits_array.mp h⟩
  | _ => cases h

/-- The items of an array are of the type of an element. -/
theorem admits_element {t : Ty} {vs : List Value} (h : t.admits (.array vs) = true) {v : Value} (hv : v ∈ vs) :
    t.element.admits v = true := by
  cases t with
  | array item => exact admits_array.mp h v hv
  | binary =>
    have hnumber := List.all_eq_true.mp h v hv
    cases v <;> first | rfl | cases hnumber
  | any => exact admits_any v
  | _ => cases h

/-! ## Types within others -/

def isRecord : Ty → Bool
  | object | image => true
  | _ => false

/-- Whether a type is within another, so that every value of the one is of the other. -/
def within : Ty → Ty → Bool
  | null, _ => true
  | _, any => true
  | array a, array b => within a b
  | a, b => a == b || (a.isNumeric && b.isNumeric) || (a.isRecord && b.isRecord)

theorem isNumeric_iff {t : Ty} : t.isNumeric = true ↔ t = integer ∨ t = number := by cases t <;> simp [isNumeric]

theorem isRecord_iff {t : Ty} : t.isRecord = true ↔ t = object ∨ t = image := by cases t <;> simp [isRecord]

theorem admits_within {a b : Ty} (h : a.within b = true) {v : Value} (hv : a.admits v = true) : b.admits v = true := by
  fun_induction within a b generalizing v with
  | case1 b => rw [admits_null_iff.mp hv]; exact admits_null b
  | case2 => exact admits_any v
  | case3 a b ih =>
    rcases eq_of_array_admits hv with rfl | ⟨vs, rfl, hitems⟩
    · exact admits_null _
    · exact admits_array.mpr fun w hw => ih h (hitems w hw)
  | case4 a b =>
    simp only [Bool.or_eq_true, Bool.and_eq_true, beq_iff_eq, isNumeric_iff, isRecord_iff] at h
    rcases h with (rfl | ⟨ha, hb⟩) | ⟨ha, hb⟩
    · exact hv
    all_goals
      obtain rfl | rfl := ha <;> obtain rfl | rfl := hb <;> cases v <;> first | rfl | cases hv

/-! ## Types of what may come from several places -/

theorem number_admits_of_integer {v : Value} (h : integer.admits v = true) : number.admits v = true := by
  cases v with
  | null | number => rfl
  | _ => cases h

theorem array_admits_iff {item : Ty} {v : Value} :
    (array item).admits v = true ↔ v = .null ∨ ∃ vs, v = .array vs ∧ ∀ w ∈ vs, item.admits w = true := by
  refine ⟨eq_of_array_admits, ?_⟩
  rintro (rfl | ⟨vs, rfl, hitems⟩)
  · exact admits_null _
  · exact admits_array.mpr hitems

/-- Numbers are not told apart. -/
def looseConformance : Conformance where
  holds t v := t.admits v = true
  null := admits_null
  eq_null := admits_null_iff.mp
  any := admits_any
  number := number_admits_of_integer
  array := array_admits_iff

theorem admits_unify_left (a b : Ty) {v : Value} (h : a.admits v = true) : (a.unify b).admits v = true :=
  looseConformance.mono (le_unify_left a b) h

theorem admits_unify_right (a b : Ty) {v : Value} (h : b.admits v = true) : (a.unify b).admits v = true :=
  looseConformance.mono (le_unify_right a b) h

theorem admits_unifyAll {ts : List Ty} {t : Ty} (ht : t ∈ ts) {v : Value} (h : t.admits v = true) :
    (unifyAll ts).admits v = true :=
  looseConformance.mono (le_unifyAll ht) h

mutual

/-- A literal is of its own type. -/
theorem admits_ofValue : ∀ v : Value, (ofValue v).admits v = true
  | .null => rfl
  | .bool _ => rfl
  | .number n => by
    rw [ofValue]
    split <;> rfl
  | .string _ => rfl
  | .time _ => rfl
  | .bytes _ => rfl
  | .array vs => by
    rw [ofValue, admits_array]
    intro v hv
    obtain ⟨t, ht, h⟩ := admits_ofValues vs v hv
    exact admits_unifyAll ht h
  | .object _ => rfl

theorem admits_ofValues : ∀ vs : List Value, ∀ v ∈ vs, ∃ t ∈ ofValues vs, t.admits v = true
  | [], v, hv => by cases hv
  | w :: vs, v, hv => by
    rw [ofValues]
    have hw := admits_ofValue w
    rcases List.mem_cons.mp hv with rfl | hv
    · exact ⟨_, List.mem_cons_self, hw⟩
    · obtain ⟨t, ht, h⟩ := admits_ofValues vs v hv
      exact ⟨t, List.mem_cons_of_mem _ ht, h⟩

end

end Ty

end Tributary
