import Tributary.Builtin.Apply
import Tributary.Proofs.Checked
import Tributary.Proofs.Typing.Admits

/-!
# Results of builtins

* `Yields P r` : what comes out of `r`, if anything does, has the property `P`; `Gives t r` : it is of type `t`;
* `takeArray_yields`, `mapItems_yields`, `filterItems_yields` : items come from where they should;
* `foldItems_keeps`, `foldItems_yields` : what every step of a fold keeps, the fold keeps;
* `runMap_gives`, …, `runRotate_gives` : one lemma for each builtin, on all values;
* `Builtin.isSteady` : the calls that give what their signatures say;
* `Builtin.apply_gives` : a steady call gives what its signature says, if its lambdas give what their types say.
-/

namespace Tributary

/-- What comes out of a computation that may fail has a property. -/
def Yields {α : Type} (P : α → Prop) (r : Except EvalError α) : Prop := ∀ a, r = .ok a → P a

abbrev Gives (t : Ty) (r : Outcome) : Prop := Yields (fun v => t.admits v = true) r

section Yields
variable {α β : Type} {P : α → Prop} {Q : β → Prop}

theorem yields_ok {a : α} : Yields P (.ok a) ↔ P a := by
  constructor
  · intro h
    exact h a rfl
  · rintro h _ ⟨⟩
    exact h

theorem yields_error (e : EvalError) : Yields P (.error e) := nofun

theorem Yields.bind {r : Except EvalError α} {f : α → Except EvalError β} (hr : Yields P r)
    (hf : ∀ a, P a → Yields Q (f a)) : Yields Q (r >>= f) := by
  intro y hy
  obtain ⟨x, hx, hy⟩ := bind_eq_ok.mp hy
  exact hf x (hr x hx) y hy

theorem yields_bind {r : Except EvalError α} {f : α → Except EvalError β} (hf : ∀ a, Yields Q (f a)) :
    Yields Q (r >>= f) :=
  Yields.bind (P := fun _ => True) (fun _ _ => trivial) fun a _ => hf a

theorem Yields.map {r : Except EvalError α} {f : α → β} (hr : Yields (fun a => Q (f a)) r) : Yields Q (r.map f) := by
  intro y hy
  obtain ⟨x, hx, rfl⟩ := map_eq_ok.mp hy
  exact hr x hx

theorem yields_map {r : Except EvalError α} {f : α → β} (hf : ∀ a, Q (f a)) : Yields Q (r.map f) :=
  Yields.map fun a _ => hf a

end Yields

theorem Value.insertSorted_perm {α : Type} (key : α → Value) (a : α) : ∀ as : List α,
    (Value.insertSorted key a as).Perm (a :: as)
  | [] => .refl _
  | b :: bs => by
    unfold insertSorted
    split
    · exact ((insertSorted_perm key a bs).cons b).trans (.swap a b bs)
    · exact .refl _

theorem Value.sortOn_perm {α : Type} (key : α → Value) (as : List α) : (Value.sortOn key as).Perm as := by
  have hfold : ∀ (as sorted : List α),
      (as.foldl (fun sorted a => Value.insertSorted key a sorted) sorted).Perm (as.reverse ++ sorted) := by
    intro as
    induction as with
    | nil => exact fun sorted => .refl _
    | cons a as ih =>
      intro sorted
      rw [List.foldl_cons, List.reverse_cons, List.append_assoc]
      exact (ih _).trans ((insertSorted_perm key a sorted).append_left _)
  have hsorted := hfold as []
  rw [List.append_nil] at hsorted
  exact (List.reverse_perm _).trans (hsorted.trans (List.reverse_perm as))

namespace Builtin

variable {t : Ty}

/-! ## Collections -/

section Collections
variable {f : Value → Outcome}

theorem takeArray_yields (b : Builtin) {items : Value} (h : t.admits items = true) :
    Yields (fun vs => ∀ v ∈ vs, t.element.admits v = true) (b.takeArray items) := by
  cases items with
  | array vs => exact yields_ok.mpr fun v hv => Ty.admits_element h hv
  | null => exact yields_ok.mpr nofun
  | _ => exact yields_error _

theorem mapItems_yields {P : Value → Prop} : ∀ {vs : List Value}, (∀ v ∈ vs, Yields P (f v)) →
    Yields (fun ws => ∀ w ∈ ws, P w) (mapItems f vs)
  | [], _ => yields_ok.mpr nofun
  | v :: vs, hf => by
    refine (hf v List.mem_cons_self).bind fun w hw => ?_
    refine (mapItems_yields fun v hv => hf v (List.mem_cons_of_mem _ hv)).bind fun ws hws => ?_
    exact yields_ok.mpr (List.forall_mem_cons.mpr ⟨hw, hws⟩)

theorem filterItems_yields : ∀ vs : List Value, Yields (fun ws => ws.Sublist vs) (filterItems f vs)
  | [] => yields_ok.mpr .slnil
  | v :: vs => by
    have ih := filterItems_yields vs
    have hskip : Yields (fun ws => ws.Sublist (v :: vs)) (filterItems f vs) := fun ws hws => (ih ws hws).cons v
    refine yields_bind fun w => ?_
    split
    · exact Yields.map fun ws hws => (ih ws hws).cons_cons v
    · exact hskip
    · exact hskip
    · exact yields_error _

/-- What every step of a fold keeps, the fold keeps. -/
theorem foldItems_keeps {P : Value → Prop} {f : Value → Value → Outcome} : ∀ {vs : List Value} {acc : Value},
    (∀ acc, ∀ v ∈ vs, P acc → Yields P (f acc v)) → P acc → Yields P (foldItems f acc vs)
  | [], _, _, hacc => yields_ok.mpr hacc
  | v :: _, acc, hf, hacc => (hf acc v List.mem_cons_self hacc).bind fun _ hacc' =>
    foldItems_keeps (fun acc w hw => hf acc w (List.mem_cons_of_mem v hw)) hacc'

/-- Where every step gives something that may be the start of the next, so does the fold, unless there is no step. -/
theorem foldItems_yields {P Q : Value → Prop} {f : Value → Value → Outcome} {vs : List Value} {seed : Value}
    (hf : ∀ acc, ∀ v ∈ vs, P acc → Yields Q (f acc v)) (hQ : ∀ w, Q w → P w) (hseed : P seed) :
    Yields (fun w => P w ∧ (vs ≠ [] → Q w)) (foldItems f seed vs) := by
  cases vs with
  | nil => exact yields_ok.mpr ⟨hseed, fun h => absurd rfl h⟩
  | cons v vs =>
    have hstep : ∀ acc, ∀ w ∈ vs, Q acc → Yields Q (f acc w) :=
      fun acc w hw hacc => hf acc w (List.mem_cons_of_mem v hw) (hQ acc hacc)
    refine (hf seed v List.mem_cons_self hseed).bind fun acc hacc => ?_
    exact fun w hw => ⟨hQ w (foldItems_keeps hstep hacc w hw), fun _ => foldItems_keeps hstep hacc w hw⟩

theorem runMap_gives {item : Ty} {items : Value} (hitems : t.admits items = true)
    (hf : ∀ v, t.element.admits v = true → Gives item (f v)) : Gives (.array item) (runMap f items) := by
  refine (takeArray_yields _ hitems).bind fun vs hvs => ?_
  refine (mapItems_yields fun v hv => hf v (hvs v hv)).bind fun ws hws => ?_
  exact yields_ok.mpr (Ty.admits_array.mpr hws)

def IsSequence (t : Ty) : Prop := t = .any ∨ ∃ item, t = .array item

theorem IsSequence.admits (h : IsSequence t) {vs : List Value} (hvs : ∀ v ∈ vs, t.element.admits v = true) :
    t.admits (.array vs) = true := by
  rcases h with rfl | ⟨item, rfl⟩
  · exact Ty.admits_any _
  · exact Ty.admits_array.mpr hvs

/-- What an array is taken from is of such a type, unless it is known to be null. -/
theorem isSequence_of_accepts (h : Template.array.accepts t = true) (hnull : t ≠ .null) : IsSequence t := by
  cases t with
  | any => exact .inl rfl
  | array item => exact .inr ⟨item, rfl⟩
  | null => exact absurd rfl hnull
  | _ => cases h

theorem runFilter_gives (h : IsSequence t) {items : Value} (hitems : t.admits items = true) :
    Gives t (runFilter f items) := by
  refine (takeArray_yields _ hitems).bind fun vs hvs => (filterItems_yields vs).bind fun ws hws => ?_
  exact yields_ok.mpr (h.admits fun v hv => hvs v (hws.subset hv))

theorem runSortBy_gives (h : IsSequence t) {items : Value} (hitems : t.admits items = true) :
    Gives t (runSortBy f items) := by
  refine (takeArray_yields _ hitems).bind fun vs hvs => yields_bind fun keys => ?_
  refine yields_ok.mpr (h.admits fun v hv => ?_)
  obtain ⟨⟨key, w⟩, hmem, rfl⟩ := List.mem_map.mp hv
  exact hvs w (List.of_mem_zip ((Value.sortOn_perm _ _).mem_iff.mp hmem)).2

theorem runFold_gives {f : Value → Value → Outcome} {start result : Ty} {items seed : Value}
    (hitems : t.admits items = true) (hseed : start.admits seed = true)
    (hf : ∀ acc v, start.admits acc = true → t.element.admits v = true → Gives result (f acc v))
    (hstart : start.within result = true) (hresult : result.within start = true) :
    Gives result (runFold f items seed) := by
  refine (takeArray_yields _ hitems).bind fun vs hvs => ?_
  have hkeeps : Yields (fun w => start.admits w = true) (foldItems f seed vs) :=
    foldItems_keeps (fun acc v hv hacc w hw => Ty.admits_within hresult (hf acc v hacc (hvs v hv) w hw)) hseed
  exact fun w hw => Ty.admits_within hstart (hkeeps w hw)

theorem runSum_gives (items : Value) : Gives .number (runSum items) :=
  yields_bind fun _ => yields_bind fun _ => yields_ok.mpr rfl

theorem runAvg_gives (items : Value) : Gives .number (runAvg items) := by
  refine yields_bind fun _ => yields_bind fun ns => ?_
  split <;> exact yields_ok.mpr rfl

theorem runLen_gives (v : Value) : Gives .integer (runLen v) := by
  cases v <;> first | exact yields_ok.mpr rfl | exact yields_error _

theorem runZip_gives (left right : Value) : Gives (.array (.array .any)) (runZip left right) := by
  refine yields_bind fun vs => yields_bind fun ws => yields_ok.mpr (Ty.admits_array.mpr fun v hv => ?_)
  obtain ⟨i, hi, rfl⟩ := List.mem_iff_getElem.mp hv
  rw [List.getElem_zipWith]
  exact Ty.admits_array.mpr fun w _ => Ty.admits_any w

end Collections

/-! ## Scalars -/

section Scalars

theorem orNull_gives (v : Value) {f : Value → Outcome} (hf : ∀ v, Gives t (f v)) : Gives t (orNull v f) := by
  unfold orNull
  split
  · exact yields_ok.mpr (Ty.admits_null t)
  · exact hf v

theorem runNumeric_gives (b : Builtin) (f : Number → Number) (ht : t.isNumeric = true) (v : Value) :
    Gives t (runNumeric b f v) :=
  orNull_gives v fun _ => yields_map fun _ => Ty.admits_number ht _

/-- A function of numbers keeps every type: none tells numbers apart. -/
theorem runNumeric_same (b : Builtin) (f : Number → Number) {v : Value} (hv : t.admits v = true) :
    Gives t (runNumeric b f v) := by
  cases v with
  | null => exact yields_ok.mpr (Ty.admits_null t)
  | number n =>
    refine yields_ok.mpr ?_
    cases t <;> first | rfl | cases hv
  | _ => exact yields_error _

theorem runExtremum_gives (b : Builtin) (preferred : Ordering → Bool) (left right : Value) :
    Gives .number (runExtremum b preferred left right) := by
  unfold runExtremum
  split
  · exact orNull_gives right fun _ => yields_map fun _ => rfl
  · exact yields_map fun _ => rfl
  · exact yields_bind fun _ => yields_bind fun _ => yields_ok.mpr rfl

theorem runRound_gives (v digits : Value) : Gives .number (runRound v digits) := by
  refine orNull_gives v fun _ => yields_bind fun _ => yields_bind fun _ => ?_
  split
  · exact yields_ok.mpr rfl
  · exact yields_error _

theorem runToNumber_gives (v : Value) : Gives .number (runToNumber v) := by
  cases v with
  | null | number | bool => exact yields_ok.mpr rfl
  | string s =>
    unfold runToNumber
    dsimp only
    split
    · exact yields_ok.mpr rfl
    · exact yields_error _
  | _ => exact yields_error _

theorem runCase_gives (b : Builtin) (f : String → String) (v : Value) : Gives .string (runCase b f v) :=
  orNull_gives v fun _ => yields_map fun _ => rfl

theorem runSplit_gives (v sep : Value) : Gives (.array .string) (runSplit v sep) := by
  unfold runSplit
  split
  · exact yields_ok.mpr rfl
  · refine yields_bind fun s => yields_bind fun sep => ?_
    split
    · exact yields_error _
    · refine yields_ok.mpr (Ty.admits_array.mpr fun w hw => ?_)
      obtain ⟨piece, -, rfl⟩ := List.mem_map.mp hw
      rfl

theorem runJoin_gives (parts sep : Value) : Gives .string (runJoin parts sep) :=
  yields_bind fun _ => yields_bind fun _ => yields_ok.mpr rfl

theorem runReplace_gives (v old new : Value) : Gives .string (runReplace v old new) :=
  orNull_gives v fun _ => yields_bind fun _ => yields_bind fun _ => yields_bind fun _ => yields_ok.mpr rfl

theorem runConcat_gives (left right : Value) : Gives .string (runConcat left right) :=
  yields_bind fun _ => yields_bind fun _ => yields_ok.mpr rfl

theorem runToText_gives (v : Value) : Gives .string (runToText v) := by
  unfold runToText
  split
  · exact yields_ok.mpr rfl
  · split <;> first | exact yields_ok.mpr rfl | exact yields_error _

theorem runPredicate_gives (f : String → Bool) (v : Value) : Gives .boolean (runPredicate f v) := by
  cases v <;> exact yields_ok.mpr rfl

theorem runFormatDate_gives (v format : Value) : Gives .string (runFormatDate v format) := by
  refine orNull_gives v fun _ => yields_bind fun _ => yields_bind fun _ => ?_
  split
  · exact yields_ok.mpr rfl
  · exact yields_error _

theorem runParseDate_gives (v : Value) : Gives .datetime (runParseDate v) := by
  refine orNull_gives v fun _ => yields_bind fun _ => ?_
  split
  · exact yields_ok.mpr rfl
  · exact yields_error _

theorem runBinarySize_gives (v : Value) : Gives .integer (runBinarySize v) := by
  unfold runBinarySize
  split
  · exact yields_ok.mpr rfl
  · exact yields_map fun _ => rfl

theorem runEncodeBase64_gives (v : Value) : Gives .string (runEncodeBase64 v) :=
  orNull_gives v fun _ => yields_map fun _ => rfl

theorem runDecodeBase64_gives (v : Value) : Gives .binary (runDecodeBase64 v) := by
  refine orNull_gives v fun _ => yields_bind fun _ => ?_
  split
  · exact yields_ok.mpr rfl
  · exact yields_error _

theorem runPicture_gives (b : Builtin) (f : Raster → Raster) (v : Value) : Gives .image (runPicture b f v) := by
  unfold runPicture
  split
  · exact yields_ok.mpr rfl
  · exact yields_map fun _ => rfl

theorem runResize_gives (v width height : Value) : Gives .image (runResize v width height) := by
  unfold runResize
  split
  · exact yields_ok.mpr rfl
  · refine yields_bind fun _ => yields_bind fun _ => yields_bind fun _ => ?_
    split
    · exact yields_ok.mpr rfl
    · exact yields_error _

theorem runRotate_gives (v degrees : Value) : Gives .image (runRotate v degrees) := by
  unfold runRotate
  split
  · exact yields_ok.mpr rfl
  · refine yields_bind fun _ => yields_bind fun _ => ?_
    split
    · exact yields_ok.mpr rfl
    · exact yields_error _

end Scalars

/-! ## Calls -/

section Calls
variable (b : Builtin) {vs : List Value}

theorem oneArg_gives {f : Value → Outcome} (hf : ∀ x, vs = [x] → Gives t (f x)) : Gives t (b.oneArg vs f) := by
  unfold oneArg
  split
  · exact hf _ rfl
  · exact yields_error _

theorem twoArgs_gives {f : Value → Value → Outcome} (hf : ∀ x y, vs = [x, y] → Gives t (f x y)) :
    Gives t (b.twoArgs vs f) := by
  unfold twoArgs
  split
  · exact hf _ _ rfl
  · exact yields_error _

theorem threeArgs_gives {f : Value → Value → Value → Outcome} (hf : ∀ x y z, vs = [x, y, z] → Gives t (f x y z)) :
    Gives t (b.threeArgs vs f) := by
  unfold threeArgs
  split
  · exact hf _ _ _ rfl
  · exact yields_error _

def keepsItems : Builtin → Bool
  | filter | sortBy => true
  | _ => false

theorem apply_keeps_gives (c : Call) (hkeeps : b.keepsItems = true) (h : IsSequence t)
    (hitems : ∀ x, c.values[0]? = some x → t.admits x = true) : Gives t (b.apply c) := by
  cases b with
  | filter => exact twoArgs_gives _ fun x y hxy => runFilter_gives h (hitems x (by rw [hxy]; rfl))
  | sortBy => exact twoArgs_gives _ fun x y hxy => runSortBy_gives h (hitems x (by rw [hxy]; rfl))
  | _ => cases hkeeps

/-- Of null, no items are kept. -/
theorem apply_keeps_null (c : Call) (hkeeps : b.keepsItems = true) {v : Value} (hvalues : c.values = [.null, v]) :
    b.apply c = .ok (.array []) := by
  cases b with
  | filter | sortBy =>
    unfold apply
    rw [hvalues]
    rfl
  | _ => cases hkeeps

/-- Whether the type of a call holds, given the types of its arguments and of the results of its lambdas. A fold is given
the type of its lambda, so what it starts from should be of that type, and what the lambda gives should be something to
start from. What keeps items makes an array of null, so its first argument must not have the type of null. -/
def isSteady (b : Builtin) (types lambdas : List Ty) : Bool :=
  match b with
  | fold =>
    let start : Ty := (types[1]?).getD .any
    let result : Ty := (lambdas[2]?).getD .any
    start.within result && result.within start
  | filter | sortBy => types[0]? != some .null
  | _ => true

/-- What a steady call gives is of the type that the signature has for the types of the arguments and of the results of
lambdas. -/
theorem apply_gives (c : Call) {types lambdas : List Ty} (hsteady : b.isSteady types lambdas = true)
    (hvalues : Ty.AdmitEach types c.values)
    (hitems : b.keepsItems = true → ∀ t, types[0]? = some t → Template.array.accepts t = true)
    (hinvoke : ∀ i args, Ty.AdmitEach (b.lambdaParams i types) args →
      Gives ((lambdas[i]?).getD .any) (c.invoke i args)) :
    Gives (resultTy b.signature.returns types lambdas) (b.apply c) := by
  cases b with
  | fold =>
    refine threeArgs_gives _ fun x y z hxyz => ?_
    rw [hxyz] at hvalues
    obtain _ | ⟨hx, _ | ⟨hy, _⟩⟩ := hvalues
    obtain ⟨hstart, hresult⟩ := Bool.and_eq_true_iff.mp hsteady
    exact runFold_gives hx hy (fun acc v hacc hv => hinvoke 2 [acc, v] (.cons hacc (.cons hv .nil))) hstart hresult
  | map =>
    refine twoArgs_gives _ fun x y hxy => ?_
    rw [hxy] at hvalues
    obtain _ | ⟨hx, _⟩ := hvalues
    exact runMap_gives hx fun v hv => hinvoke 1 [v] (.cons hv .nil)
  | filter | sortBy =>
    cases types with
    | nil => exact fun v _ => Ty.admits_any v
    | cons t ts =>
      have hsequence := isSequence_of_accepts (hitems rfl t rfl) fun h => bne_iff_ne.mp hsteady (congrArg some h)
      refine apply_keeps_gives _ c rfl hsequence fun x hx => ?_
      obtain ⟨s, hs, hadmits⟩ := forall₂_getElem?_right hvalues hx
      obtain rfl : t = s := Option.some.inj hs
      exact hadmits
  | abs =>
    refine oneArg_gives _ fun x hx => ?_
    rw [hx] at hvalues
    obtain _ | ⟨hx, _⟩ := hvalues
    exact runNumeric_same _ _ hx
  | now =>
    change Gives .datetime (noArgs _ _ _)
    unfold noArgs
    split
    · exact yields_ok.mpr rfl
    · exact yields_error _
  | sum => exact oneArg_gives _ fun x _ => runSum_gives x
  | avg => exact oneArg_gives _ fun x _ => runAvg_gives x
  | len => exact oneArg_gives _ fun x _ => runLen_gives x
  | zip => exact twoArgs_gives _ fun x y _ => runZip_gives x y
  | get => exact fun v _ => Ty.admits_any v
  | upper | lower => exact oneArg_gives _ fun x _ => runCase_gives _ _ x
  | split => exact twoArgs_gives _ fun x y _ => runSplit_gives x y
  | join => exact twoArgs_gives _ fun x y _ => runJoin_gives x y
  | replace => exact threeArgs_gives _ fun x y z _ => runReplace_gives x y z
  | concat => exact twoArgs_gives _ fun x y _ => runConcat_gives x y
  | toText => exact oneArg_gives _ fun x _ => runToText_gives x
  | ceil | floor => exact oneArg_gives _ fun x _ => runNumeric_gives _ _ rfl x
  | max | min => exact twoArgs_gives _ fun x y _ => runExtremum_gives _ _ x y
  | round => exact twoArgs_gives _ fun x y _ => runRound_gives x y
  | toNumber => exact oneArg_gives _ fun x _ => runToNumber_gives x
  | formatDate => exact twoArgs_gives _ fun x y _ => runFormatDate_gives x y
  | parseDate => exact oneArg_gives _ fun x _ => runParseDate_gives x
  | binarySize => exact oneArg_gives _ fun x _ => runBinarySize_gives x
  | encodeBase64 => exact oneArg_gives _ fun x _ => runEncodeBase64_gives x
  | decodeBase64 => exact oneArg_gives _ fun x _ => runDecodeBase64_gives x
  | imageGrayscale | imageInvert => exact oneArg_gives _ fun x _ => runPicture_gives _ _ x
  | imageResize => exact threeArgs_gives _ fun x y z _ => runResize_gives x y z
  | imageRotate => exact twoArgs_gives _ fun x y _ => runRotate_gives x y
  | isEmail | isUrl | isUuid => exact oneArg_gives _ fun x _ => runPredicate_gives _ x

end Calls

end Builtin

end Tributary
