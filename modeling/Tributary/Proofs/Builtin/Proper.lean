import Mathlib.Data.List.Basic
import Tributary.Builtin.Apply
import Tributary.Proofs.Value.Json

/-!
# Errors of builtins

A builtin that is given as many arguments as it has parameters, and lambdas where its signature has them, fails only
because of the values that it is given.

* `EvalError.isDefect` : an error that comes from the expression and not from values;
* `Proper r` : the outcome `r` is no defect;
* `takeNumber_proper`, …, `takeRaster_proper` : arguments are taken without a defect;
* `mapItems_proper`, `filterItems_proper`, `foldItems_proper` : what lambdas do not bring in is not added;
* `Builtin.apply_proper` : the same of every builtin.
-/

namespace Tributary

/-- Whether an error comes from the expression that is evaluated and not from the values that it reads. -/
def EvalError.isDefect : EvalError → Bool
  | .internal _ => true
  | .builtin _ (.argumentCount _ _) => true
  | _ => false

def Proper {α : Type} (r : Except EvalError α) : Prop := ∀ e, r = .error e → e.isDefect = false

section Proper
variable {α β : Type}

@[simp] theorem proper_ok (a : α) : Proper (.ok a) := nofun

@[simp] theorem proper_pure (a : α) : Proper (pure a) := proper_ok a

@[simp] theorem proper_error (e : EvalError) : Proper (.error e : Except EvalError α) ↔ e.isDefect = false := by
  constructor
  · intro h
    exact h e rfl
  · rintro h _ ⟨⟩
    exact h

theorem Proper.bind {r : Except EvalError α} {f : α → Except EvalError β} (hr : Proper r)
    (hf : ∀ a, Proper (f a)) : Proper (r >>= f) := by
  cases r with
  | ok a => exact hf a
  | error e => exact (proper_error e).mpr (hr e rfl)

theorem Proper.map {r : Except EvalError α} (hr : Proper r) (f : α → β) : Proper (r.map f) := by
  cases r with
  | ok a => exact proper_ok (f a)
  | error e => exact (proper_error e).mpr (hr e rfl)

end Proper

namespace Builtin

@[simp] theorem isDefect_mismatch (b : Builtin) (expected : Expected) (v : Value) :
    (b.mismatch expected v).isDefect = false := rfl

/-! ## Arguments -/

section Arguments
variable (b : Builtin) (v : Value)

theorem takeNumber_proper : Proper (b.takeNumber v) := by
  cases v <;> simp [takeNumber]

theorem takeInteger_proper : Proper (b.takeInteger v) := by
  cases v with
  | number n => cases h : n.toInt? <;> simp [takeInteger, h]
  | _ => simp [takeInteger]

theorem takeString_proper : Proper (b.takeString v) := by
  cases v <;> simp [takeString]

theorem takeArray_proper : Proper (b.takeArray v) := by
  cases v <;> simp [takeArray]

theorem stringsFrom_proper : ∀ (vs : List Value) (i : Nat), Proper (b.stringsFrom i vs)
  | [], i => by simp [stringsFrom]
  | v :: vs, i => by
    cases v with
    | string s => exact (stringsFrom_proper vs (i + 1)).map _
    | _ => simp [stringsFrom, objection, EvalError.isDefect]

theorem takeStrings_proper : Proper (b.takeStrings v) := by
  cases v with
  | array vs => exact stringsFrom_proper b vs 0
  | _ => simp [takeStrings]

theorem takeBytes_proper : Proper (b.takeBytes v) := by
  cases v with
  | array vs => cases h : bytes? vs <;> simp [takeBytes, h]
  | _ => simp [takeBytes]

theorem takeTime_proper : Proper (b.takeTime v) := by
  cases v with
  | string s => cases h : Time.readMoment? s <;> simp [takeTime, h]
  | _ => simp [takeTime]

theorem takeDimension_proper (name : String) : Proper (takeDimension b v name) := by
  refine (takeInteger_proper b _).bind fun n => ?_
  split <;> simp [objection, EvalError.isDefect]

theorem takeRaster_proper : Proper (b.takeRaster v) := by
  cases v with
  | object fs =>
    refine (takeDimension_proper b _ _).bind fun width => ?_
    refine (takeDimension_proper b _ _).bind fun height => ?_
    refine (takeDimension_proper b _ _).bind fun channels => ?_
    split
    · refine (takeBytes_proper b _).bind fun data => ?_
      split <;> simp [objection, EvalError.isDefect]
    · simp [objection, EvalError.isDefect]
  | _ => simp [takeRaster]

theorem takeSize_proper : Proper (takeSize v) := by
  refine (takeInteger_proper _ v).bind fun n => ?_
  split <;> simp [objection, EvalError.isDefect]

end Arguments

/-! ## Collections -/

section Collections
variable {f : Value → Outcome}

theorem mapItems_proper (hf : ∀ v, Proper (f v)) : ∀ vs : List Value, Proper (mapItems f vs)
  | [] => by simp [mapItems]
  | v :: vs => (hf v).bind fun _ => (mapItems_proper hf vs).bind fun _ => proper_ok _

theorem filterItems_proper (hf : ∀ v, Proper (f v)) : ∀ vs : List Value, Proper (filterItems f vs)
  | [] => by simp [filterItems]
  | v :: vs => by
    have ih := filterItems_proper hf vs
    refine (hf v).bind fun w => ?_
    cases w with
    | null => exact ih
    | bool keep =>
      cases keep with
      | true => exact ih.map _
      | false => exact ih
    | _ => simp

theorem foldItems_proper {f : Value → Value → Outcome} (hf : ∀ acc v, Proper (f acc v)) :
    ∀ (vs : List Value) (acc : Value), Proper (foldItems f acc vs)
  | [], acc => by simp [foldItems]
  | v :: vs, acc => (hf acc v).bind fun acc => foldItems_proper hf vs acc

theorem numbersOf_proper (b : Builtin) : ∀ vs : List Value, Proper (numbersOf b vs)
  | [] => by simp [numbersOf]
  | v :: vs => by
    have ih := numbersOf_proper b vs
    cases v with
    | null => exact ih
    | _ => exact (takeNumber_proper b _).bind fun _ => ih.bind fun _ => proper_ok _

theorem runMap_proper (hf : ∀ v, Proper (f v)) (items : Value) : Proper (runMap f items) :=
  (takeArray_proper _ items).bind fun vs => (mapItems_proper hf vs).bind fun _ => proper_ok _

theorem runFilter_proper (hf : ∀ v, Proper (f v)) (items : Value) : Proper (runFilter f items) :=
  (takeArray_proper _ items).bind fun vs => (filterItems_proper hf vs).bind fun _ => proper_ok _

theorem runFold_proper {f : Value → Value → Outcome} (hf : ∀ acc v, Proper (f acc v)) (items seed : Value) :
    Proper (runFold f items seed) :=
  (takeArray_proper _ items).bind fun vs => foldItems_proper hf vs seed

theorem runSortBy_proper (hf : ∀ v, Proper (f v)) (items : Value) : Proper (runSortBy f items) :=
  (takeArray_proper _ items).bind fun vs => (mapItems_proper hf vs).bind fun _ => proper_ok _

theorem runSum_proper (items : Value) : Proper (runSum items) :=
  (takeArray_proper _ items).bind fun vs => (numbersOf_proper _ vs).bind fun _ => proper_ok _

theorem runAvg_proper (items : Value) : Proper (runAvg items) := by
  refine (takeArray_proper _ items).bind fun vs => (numbersOf_proper _ vs).bind fun ns => ?_
  by_cases h : ns.isEmpty = true <;> simp [h]

theorem runLen_proper (v : Value) : Proper (runLen v) := by
  cases v <;> simp [runLen]

theorem runZip_proper (left right : Value) : Proper (runZip left right) :=
  (takeArray_proper _ left).bind fun _ => (takeArray_proper _ right).bind fun _ => proper_ok _

theorem runGet_proper (container key default : Value) : Proper (runGet container key default) := by
  unfold runGet
  split <;> exact proper_ok _

end Collections

/-! ## Scalars -/

section Scalars

theorem orNull_proper (v : Value) {f : Value → Outcome} (hf : ∀ v, Proper (f v)) : Proper (orNull v f) := by
  unfold orNull
  split
  · exact proper_ok _
  · exact hf v

theorem runNumeric_proper (b : Builtin) (f : Number → Number) (v : Value) : Proper (runNumeric b f v) :=
  orNull_proper v fun v => (takeNumber_proper b v).map _

theorem runExtremum_proper (b : Builtin) (preferred : Ordering → Bool) (left right : Value) :
    Proper (runExtremum b preferred left right) := by
  unfold runExtremum
  split
  · exact orNull_proper right fun v => (takeNumber_proper b v).map _
  · exact (takeNumber_proper b left).map _
  · exact (takeNumber_proper b left).bind fun _ => (takeNumber_proper b right).bind fun _ => proper_ok _

theorem runRound_proper (v digits : Value) : Proper (runRound v digits) := by
  refine orNull_proper v fun v => (takeNumber_proper _ v).bind fun n => (takeInteger_proper _ digits).bind fun d => ?_
  split <;> simp [objection, EvalError.isDefect]

theorem runToNumber_proper (v : Value) : Proper (runToNumber v) := by
  cases v with
  | string s => cases h : Number.ofText? s <;> simp [runToNumber, h, objection, EvalError.isDefect]
  | _ => simp [runToNumber]

theorem runCase_proper (b : Builtin) (f : String → String) (v : Value) : Proper (runCase b f v) :=
  orNull_proper v fun v => (takeString_proper b v).map _

theorem runSplit_proper (v sep : Value) : Proper (runSplit v sep) := by
  unfold runSplit
  split
  · exact proper_ok _
  · refine (takeString_proper _ v).bind fun s => (takeString_proper _ sep).bind fun sep => ?_
    split <;> simp [objection, EvalError.isDefect]

theorem runJoin_proper (parts sep : Value) : Proper (runJoin parts sep) :=
  (takeStrings_proper _ parts).bind fun _ => (takeString_proper _ sep).bind fun _ => proper_ok _

theorem runReplace_proper (v old new : Value) : Proper (runReplace v old new) :=
  orNull_proper v fun v => (takeString_proper _ v).bind fun _ => (takeString_proper _ old).bind fun _ =>
    (takeString_proper _ new).bind fun _ => proper_ok _

theorem concatPart_proper (v : Value) : Proper (concatPart v) := by
  unfold concatPart
  split
  · exact proper_ok _
  · exact takeString_proper _ v

theorem runConcat_proper (left right : Value) : Proper (runConcat left right) :=
  (concatPart_proper left).bind fun _ => (concatPart_proper right).bind fun _ => proper_ok _

/-- Every value becomes text. -/
theorem exists_runToText (v : Value) : ∃ s, runToText v = .ok (.string s) := by
  unfold runToText
  split
  · exact ⟨_, rfl⟩
  · -- the tree is there, as text or not
    rw [v.toJson?_serialize]
    cases v.toJson <;> exact ⟨_, rfl⟩

theorem runToText_proper (v : Value) : Proper (runToText v) := by
  obtain ⟨s, hs⟩ := exists_runToText v
  rw [hs]
  exact proper_ok _

theorem runPredicate_proper (f : String → Bool) (v : Value) : Proper (runPredicate f v) := by
  cases v <;> exact proper_ok _

theorem runFormatDate_proper (v format : Value) : Proper (runFormatDate v format) := by
  refine orNull_proper v fun v => (takeTime_proper _ v).bind fun ns => (takeString_proper _ format).bind fun f => ?_
  split <;> simp [objection, EvalError.isDefect]

theorem runParseDate_proper (v : Value) : Proper (runParseDate v) := by
  refine orNull_proper v fun v => (takeString_proper _ v).bind fun s => ?_
  split <;> simp [objection, EvalError.isDefect]

theorem runBinarySize_proper (v : Value) : Proper (runBinarySize v) := by
  unfold runBinarySize
  split
  · exact proper_ok _
  · exact (takeBytes_proper _ v).map _

theorem runEncodeBase64_proper (v : Value) : Proper (runEncodeBase64 v) :=
  orNull_proper v fun v => (takeBytes_proper _ v).map _

theorem runDecodeBase64_proper (v : Value) : Proper (runDecodeBase64 v) := by
  refine orNull_proper v fun v => (takeString_proper _ v).bind fun s => ?_
  split <;> simp [objection, EvalError.isDefect]

theorem runPicture_proper (b : Builtin) (f : Raster → Raster) (v : Value) : Proper (runPicture b f v) := by
  unfold runPicture
  split
  · exact proper_ok _
  · exact (takeRaster_proper b v).map _

theorem runResize_proper (v width height : Value) : Proper (runResize v width height) := by
  unfold runResize
  split
  · exact proper_ok _
  · refine (takeRaster_proper _ v).bind fun r => (takeSize_proper width).bind fun w =>
      (takeSize_proper height).bind fun h => ?_
    split <;> simp [EvalError.isDefect]

theorem runRotate_proper (v degrees : Value) : Proper (runRotate v degrees) := by
  unfold runRotate
  split
  · exact proper_ok _
  · refine (takeRaster_proper _ v).bind fun r => (takeInteger_proper _ degrees).bind fun d => ?_
    split <;> simp [objection, EvalError.isDefect]

end Scalars

/-! ## Calls -/

section Calls
variable (b : Builtin) {vs : List Value}

theorem noArgs_proper (hlen : vs.length = 0) {f : Outcome} (hf : Proper f) : Proper (b.noArgs vs f) := by
  obtain rfl := List.length_eq_zero_iff.mp hlen
  exact hf

theorem oneArg_proper (hlen : vs.length = 1) {f : Value → Outcome} (hf : ∀ x, Proper (f x)) :
    Proper (b.oneArg vs f) := by
  obtain ⟨x, rfl⟩ := List.length_eq_one_iff.mp hlen
  exact hf x

theorem twoArgs_proper (hlen : vs.length = 2) {f : Value → Value → Outcome} (hf : ∀ x y, Proper (f x y)) :
    Proper (b.twoArgs vs f) := by
  obtain ⟨x, y, rfl⟩ := List.length_eq_two.mp hlen
  exact hf x y

theorem threeArgs_proper (hlen : vs.length = 3) {f : Value → Value → Value → Outcome}
    (hf : ∀ x y z, Proper (f x y z)) : Proper (b.threeArgs vs f) := by
  obtain ⟨x, y, z, rfl⟩ := List.length_eq_three.mp hlen
  exact hf x y z

/-- A builtin with all its arguments, and with lambdas that have no defect where its signature has lambdas, has none
itself. In particular it calls lambdas with as many arguments as its signature says. -/
theorem apply_proper (c : Call) (hlen : c.values.length = b.arity)
    (hinvoke : ∀ (i k : Nat) (args : List Value), b.signature.params[i]? = some (.lambda k) → args.length = k →
      Proper (c.invoke i args)) : Proper (b.apply c) := by
  cases b with
  | map => exact twoArgs_proper _ hlen fun x _ => runMap_proper (fun v => hinvoke 1 1 [v] rfl rfl) x
  | filter => exact twoArgs_proper _ hlen fun x _ => runFilter_proper (fun v => hinvoke 1 1 [v] rfl rfl) x
  | sortBy => exact twoArgs_proper _ hlen fun x _ => runSortBy_proper (fun v => hinvoke 1 1 [v] rfl rfl) x
  | fold =>
    exact threeArgs_proper _ hlen fun x y _ => runFold_proper (fun acc v => hinvoke 2 2 [acc, v] rfl rfl) x y
  | now => exact noArgs_proper _ hlen (proper_ok _)
  | sum => exact oneArg_proper _ hlen runSum_proper
  | avg => exact oneArg_proper _ hlen runAvg_proper
  | len => exact oneArg_proper _ hlen runLen_proper
  | zip => exact twoArgs_proper _ hlen runZip_proper
  | get => exact threeArgs_proper _ hlen runGet_proper
  | upper | lower => exact oneArg_proper _ hlen (runCase_proper _ _)
  | split => exact twoArgs_proper _ hlen runSplit_proper
  | join => exact twoArgs_proper _ hlen runJoin_proper
  | replace => exact threeArgs_proper _ hlen runReplace_proper
  | concat => exact twoArgs_proper _ hlen runConcat_proper
  | toText => exact oneArg_proper _ hlen runToText_proper
  | abs | ceil | floor => exact oneArg_proper _ hlen (runNumeric_proper _ _)
  | max | min => exact twoArgs_proper _ hlen (runExtremum_proper _ _)
  | round => exact twoArgs_proper _ hlen runRound_proper
  | toNumber => exact oneArg_proper _ hlen runToNumber_proper
  | formatDate => exact twoArgs_proper _ hlen runFormatDate_proper
  | parseDate => exact oneArg_proper _ hlen runParseDate_proper
  | binarySize => exact oneArg_proper _ hlen runBinarySize_proper
  | encodeBase64 => exact oneArg_proper _ hlen runEncodeBase64_proper
  | decodeBase64 => exact oneArg_proper _ hlen runDecodeBase64_proper
  | imageGrayscale | imageInvert => exact oneArg_proper _ hlen (runPicture_proper _ _)
  | imageResize => exact threeArgs_proper _ hlen runResize_proper
  | imageRotate => exact twoArgs_proper _ hlen runRotate_proper
  | isEmail | isUrl | isUuid => exact oneArg_proper _ hlen (runPredicate_proper _)

end Calls

end Builtin

end Tributary
