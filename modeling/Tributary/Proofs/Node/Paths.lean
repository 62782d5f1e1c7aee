import Tributary.Proofs.Expr.Simulation

/-!
# Safe paths and nested lookups

A path of fields may be followed in one node, or looked up field by field with the builtin `get`. Both pass over whatever
is missing, each in its own way; they give the same.

* `Value.Reaches v path w` : following the path from `v`, every field is there and not null, and the last is `w`;
* `Value.reaches_iff` : a path leads to what is reached, and to null where nothing is;
* `Node.nestedGet` : the lookups one inside the other; `Node.eval_get` : the outcome of one of them;
* `Node.eval_nestedGet` : they follow the path;
* `Node.safePath_agrees` : the node and the lookups agree, and neither fails.
-/

namespace Tributary

namespace Value

/-- Following the path every field is there and not null, and the last one is `w`. -/
inductive Reaches : Value → List String → Value → Prop where
  | here {v : Value} : Reaches v [] v
  | field {fs : Fields} {name : String} {v w : Value} {path : List String} (hv : Fields.get? fs name = some v)
      (hne : v ≠ .null) (h : Reaches v path w) : Reaches (.object fs) (name :: path) w

theorem followPath_cons_cons (v : Value) (name next : String) (path : List String) :
    followPath v (name :: next :: path) = followPath (v.field name) (next :: path) := by
  rw [followPath, field]
  cases v.field? name with
  | none => rfl
  | some w => cases w <;> rfl

theorem followPath_of_reaches {v w : Value} {path : List String} (h : v.Reaches path w) : followPath v path = w := by
  induction h with
  | here => rfl
  | @field fs name v w path hv hne h ih =>
    rw [followPath, field?, hv]
    cases v with
    | null => exact absurd rfl hne
    | _ => exact ih

theorem Reaches.ne_null {v w : Value} {path : List String} (h : v.Reaches path w) (hv : v ≠ .null) : w ≠ .null := by
  induction h with
  | here => exact hv
  | field _ hne _ ih => exact ih hne

theorem reaches_followPath {v : Value} {path : List String} (h : followPath v path ≠ .null) :
    v.Reaches path (followPath v path) := by
  induction path generalizing v with
  | nil => exact .here
  | cons name path ih =>
    cases v with
    | object fs =>
      rw [followPath, field?] at h ⊢
      cases hv : Fields.get? fs name with
      | none => simp [hv] at h
      | some w =>
        rw [hv] at h
        cases w with
        | null => exact absurd rfl h
        | _ => exact .field hv (by simp) (ih h)
    | _ => exact absurd rfl h

/-- A path leads to what is reached, and to null exactly where nothing is. -/
theorem reaches_iff {v w : Value} {name : String} {path : List String} :
    v.Reaches (name :: path) w ↔ followPath v (name :: path) = w ∧ w ≠ .null := by
  constructor
  · intro h
    refine ⟨followPath_of_reaches h, ?_⟩
    cases h with
    | field _ hne h => exact h.ne_null hne
  · rintro ⟨rfl, hne⟩
    exact reaches_followPath hne

/-- What a path leads to, or the default in the place of null, is what is reached, or the default where nothing is. -/
theorem exists_followPath_orElse (v d : Value) (name : String) (path : List String) :
    ∃ u, (followPath v (name :: path)).orElse (.ok d) = .ok u ∧
      (∀ w, v.Reaches (name :: path) w → u = w) ∧ ((¬ ∃ w, v.Reaches (name :: path) w) → u = d) := by
  simp only [reaches_iff]
  generalize followPath v (name :: path) = u
  cases u with
  | null => exact ⟨d, rfl, by simp, fun _ => rfl⟩
  | _ => exact ⟨_, rfl, fun w hw => hw.1, fun hnone => absurd ⟨_, rfl, by simp⟩ hnone⟩

end Value

namespace Node

def get (object : Node) (name : String) (default : Node) : Node :=
  .call "get" [object, .const (.string name), default]

/-- Lookups one inside the other; only the last has the default, those on the way have null. -/
def nestedGet (object default : Node) : List String → Node
  | [] => object
  | [name] => object.get name default
  | name :: path => nestedGet (object.get name (.const .null)) default path

section Eval
variable {frame : Frame} {locals : List Value} {object default : Node} {x d : Value}

theorem ne_lambda_of_eval (h : object.eval frame locals = .ok x) : ∀ arity body, object ≠ .lambda arity body := by
  rintro arity body rfl
  rw [eval] at h
  cases h

theorem evalArgs_cons {args : List Node} {vs : List Value} (h : object.eval frame locals = .ok x)
    (hargs : evalArgs frame locals args = .ok vs) : evalArgs frame locals (object :: args) = .ok (x :: vs) := by
  rw [evalArgs, h, hargs]
  · rfl
  · exact ne_lambda_of_eval h

theorem runGet_eq (v : Value) (name : String) (d : Value) :
    Builtin.runGet v (.string name) d = (v.field name).orElse (.ok d) := by
  cases v with
  | object fs =>
    rw [Builtin.runGet, Builtin.entry?, Value.field, Value.field?]
    cases Fields.get? fs name with
    | none => rfl
    | some w => cases w <;> rfl
  | _ => rfl

/-- A lookup gives the field, or the default in the place of null. -/
theorem eval_get (name : String) (ho : object.eval frame locals = .ok x) (hd : default.eval frame locals = .ok d) :
    (object.get name default).eval frame locals = (x.field name).orElse (.ok d) := by
  have hname : (const (.string name)).eval frame locals = .ok (.string name) := by rw [eval]
  have hargs : evalArgs frame locals [object, .const (.string name), default] = .ok [x, .string name, d] :=
    evalArgs_cons ho (evalArgs_cons hname (evalArgs_cons hd (by rw [evalArgs])))
  rw [get, eval, show Builtin.ofName? "get" = some .get by decide, hargs]
  exact runGet_eq x name d

/-- Nested lookups follow the path. -/
theorem eval_nestedGet (name : String) (path : List String) (ho : object.eval frame locals = .ok x)
    (hd : default.eval frame locals = .ok d) :
    (object.nestedGet default (name :: path)).eval frame locals =
      (followPath x (name :: path)).orElse (.ok d) := by
  induction path generalizing object x name with
  | nil => rw [nestedGet, eval_get name ho hd, show followPath x [name] = x.field name from followPath_append name [] x]
  | cons next path ih =>
    have hnull : (const .null).eval frame locals = .ok .null := by rw [eval]
    have hget : (object.get name (.const .null)).eval frame locals = .ok (x.field name) := by
      rw [eval_get name ho hnull]
      cases x.field name <;> rfl
    rw [nestedGet, ih next hget, Value.followPath_cons_cons]
    simp

end Eval

/-- Following a path safely and looking it up field by field with `get` give the same, whatever is on the way, and
neither fails. The value is the one that is reached by the path, or the default where none is; without a default it is
null. -/
theorem safePath_agrees (frame : Frame) (locals : List Value) (object default : Node) (x d : Value) (name : String)
    (path : List String) (ho : object.eval frame locals = .ok x) (hd : default.eval frame locals = .ok d) :
    (∃ v, (safePath object (name :: path) (some default)).eval frame locals = .ok v ∧
      (object.nestedGet default (name :: path)).eval frame locals = .ok v ∧
      (∀ w, x.Reaches (name :: path) w → v = w) ∧ ((¬ ∃ w, x.Reaches (name :: path) w) → v = d)) ∧
    ∃ v, (safePath object (name :: path) none).eval frame locals = .ok v ∧
      (object.nestedGet (.const .null) (name :: path)).eval frame locals = .ok v ∧
      (∀ w, x.Reaches (name :: path) w → v = w) ∧ ((¬ ∃ w, x.Reaches (name :: path) w) → v = .null) := by
  have hnull : (const .null).eval frame locals = .ok .null := by rw [eval]
  have hpath : ∀ fallback u, evalDefault frame locals fallback = .ok u →
      (safePath object (name :: path) fallback).eval frame locals = (followPath x (name :: path)).orElse (.ok u) := by
    intro fallback u hu
    rw [eval_safePath, ho, hu]
    rfl
  constructor
  · obtain ⟨v, hv, hreached⟩ := Value.exists_followPath_orElse x d name path
    refine ⟨v, ?_, ?_, hreached⟩
    · rw [hpath (some default) d (by rw [evalDefault, hd]), hv]
    · rw [eval_nestedGet name path ho hd, hv]
  · obtain ⟨v, hv, hreached⟩ := Value.exists_followPath_orElse x .null name path
    refine ⟨v, ?_, ?_, hreached⟩
    · rw [hpath none .null (by rw [evalDefault]), hv]
    · rw [eval_nestedGet name path ho hnull, hv]

/-- A shipment with a code for its box, an array where an address might be, and no note. -/
def shipment : Value :=
  .object [("box", .object [("address", .array [.string "town"]), ("code", .string "A-17")]), ("note", .null)]

/-- The code of the box is there; an array has no town, and nothing is inside of null. -/
theorem shipment_paths :
    let frame : Frame := ⟨[], [], [], 0⟩
    let read (path : List String) : Outcome :=
      (safePath (.const shipment) path (some (.const (.bool false)))).eval frame []
    let look (path : List String) : Outcome := ((const shipment).nestedGet (.const (.bool false)) path).eval frame []
    (read ["box", "code"] = .ok (.string "A-17") ∧ look ["box", "code"] = .ok (.string "A-17")) ∧
    (read ["box", "address", "town"] = .ok (.bool false) ∧ look ["box", "address", "town"] = .ok (.bool false)) ∧
    (read ["note", "text"] = .ok (.bool false) ∧ look ["note", "text"] = .ok (.bool false)) := by
  intro frame read look
  have hobject : (const shipment).eval frame [] = .ok shipment := by rw [eval]
  have hdefault : (const (.bool false)).eval frame [] = .ok (.bool false) := by rw [eval]
  have hmissing : ∀ name path, followPath shipment (name :: path) = .null → ¬ ∃ w, shipment.Reaches (name :: path) w := by
    rintro name path hnull ⟨w, hw⟩
    obtain ⟨heq, hne⟩ := Value.reaches_iff.mp hw
    exact hne (heq.symm.trans hnull)
  have hagrees := fun name path => (safePath_agrees frame [] _ _ shipment _ name path hobject hdefault).1
  refine ⟨?_, ?_, ?_⟩
  · obtain ⟨v, hread, hlook, hreached, -⟩ := hagrees "box" ["code"]
    obtain rfl := hreached (.string "A-17") (Value.reaches_iff.mpr ⟨rfl, by simp⟩)
    exact ⟨hread, hlook⟩
  · obtain ⟨v, hread, hlook, -, hdefault⟩ := hagrees "box" ["address", "town"]
    obtain rfl := hdefault (hmissing _ _ rfl)
    exact ⟨hread, hlook⟩
  · obtain ⟨v, hread, hlook, -, hdefault⟩ := hagrees "note" ["text"]
    obtain rfl := hdefault (hmissing _ _ rfl)
    exact ⟨hread, hlook⟩

end Node

end Tributary
