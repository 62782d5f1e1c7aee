import Tributary.Proofs.Json.RoundTrip
import Tributary.Proofs.Value.Fields
import Tributary.Value.Json

/-!
# Written values are read back

* `toJson?_serialize` : writing a value step by step gives its tree and is never refused;
* `Plain` : the values that JSON has, with integers as the only numbers;
* `Plain.ofJson?_toJson` : the tree of such a value gives the value again;
* `Plain.depth_toJson` : the tree nests as deep as the value;
* `texts_read_back` : both texts of the value are read as the value, up to the depth that is allowed.
-/

namespace Tributary

/-- A 64-bit integer is in range. -/
theorem int64?_toInt (i : Int64) : int64? i.toInt = some i := by
  have hlow := i.le_toInt
  have hhigh := i.toInt_lt
  rw [int64?, if_pos (by omega), Int64.ofInt_toInt]

namespace Value

/-- The values made of null, booleans, integers, strings, arrays and objects. -/
inductive Plain : Value → Prop
  | null : Plain null
  | bool (b : Bool) : Plain (bool b)
  | int (n : Int64) : Plain (number (.int n))
  | string (s : String) : Plain (string s)
  | array {items : List Value} (h : ∀ v ∈ items, Plain v) : Plain (array items)
  | object {fields : Fields} (h : ∀ p ∈ fields, Plain p.2) : Plain (object fields)

mutual

def depth : Value → Nat
  | array vs => depthItems vs + 1
  | object fs => depthFields fs + 1
  | _ => 0

def depthItems : List Value → Nat
  | [] => 0
  | v :: vs => max (depth v) (depthItems vs)

def depthFields : List (String × Value) → Nat
  | [] => 0
  | (_, v) :: fs => max (depth v) (depthFields fs)

end

attribute [simp] Plain.null Plain.bool Plain.int Plain.string

@[simp]
theorem plain_array {vs : List Value} : (array vs).Plain ↔ ∀ v ∈ vs, v.Plain := ⟨fun | .array h => h, .array⟩

@[simp]
theorem plain_object {fs : Fields} : (object fs).Plain ↔ ∀ p ∈ fs, p.2.Plain := ⟨fun | .object h => h, .object⟩

/-! ## Writing step by step -/

theorem toJson?_serializeNumber (n : Number) : (serializeNumber n).toJson? = .ok (numberJson n) := by
  unfold serializeNumber numberJson
  cases n.toInt? <;> rfl

mutual

/-- Writing is never refused: the keys of an object are text. -/
theorem toJson?_serialize (v : Value) : v.serialize.toJson? = .ok v.toJson := by
  cases v with
  | number n => exact toJson?_serializeNumber n
  | array vs =>
    rw [serialize, Serial.toJson?, toJsonItems?_serializeItems vs]
    rfl
  | object fs =>
    rw [serialize, Serial.toJson?, toJsonEntries?_serializeFields fs]
    rfl
  | _ => rfl

theorem toJsonItems?_serializeItems (vs : List Value) :
    Serial.toJsonItems? (serializeItems vs) = .ok (toJsonItems vs) := by
  cases vs with
  | nil => rfl
  | cons v vs =>
    rw [serializeItems, Serial.toJsonItems?, toJson?_serialize v, toJsonItems?_serializeItems vs]
    rfl

theorem toJsonEntries?_serializeFields (fs : List (String × Value)) :
    Serial.toJsonEntries? (serializeFields fs) = .ok (toJsonMembers fs) := by
  cases fs with
  | nil => rfl
  | cons p fs =>
    obtain ⟨k, v⟩ := p
    rw [serializeFields, Serial.toJsonEntries?, toJson?_serialize v, toJsonEntries?_serializeFields fs]
    rfl

end

/-! ## The order of fields -/

theorem of_isOrderedList {vs : List Value} (h : isOrderedList vs = true) : ∀ v ∈ vs, v.isOrdered = true := by
  induction vs with
  | nil => simp
  | cons v vs ih =>
    rw [isOrderedList, Bool.and_eq_true] at h
    exact List.forall_mem_cons.mpr ⟨h.1, ih h.2⟩

theorem of_isOrderedFields {fs : Fields} (h : isOrderedFields fs = true) :
    (fs.Pairwise fun p q => p.1 < q.1) ∧ ∀ p ∈ fs, p.2.isOrdered = true := by
  induction fs with
  | nil => simp
  | cons p fs ih =>
    obtain ⟨k, v⟩ := p
    cases fs with
    | nil => simpa [isOrderedFields] using h
    | cons q fs =>
      obtain ⟨k', v'⟩ := q
      simp only [isOrderedFields, Bool.and_eq_true, decide_eq_true_eq] at h
      obtain ⟨⟨hlt, hv⟩, hfs⟩ := h
      obtain ⟨hsorted, hall⟩ := ih hfs
      refine ⟨.cons ?_ hsorted, List.forall_mem_cons.mpr ⟨hv, hall⟩⟩
      -- the names after the next one are above it
      have habove := (List.pairwise_cons.mp hsorted).1
      exact List.forall_mem_cons.mpr ⟨hlt, fun r hr => String.lt_trans hlt (habove r hr)⟩

/-! ## The tree of a value -/

theorem toJsonItems_eq_map (vs : List Value) : toJsonItems vs = vs.map toJson := by
  induction vs with
  | nil => rfl
  | cons v vs ih => rw [toJsonItems, ih, List.map_cons]

theorem toJsonMembers_eq_map (fs : Fields) : toJsonMembers fs = fs.map fun p => (p.1, p.2.toJson) := by
  induction fs with
  | nil => rfl
  | cons p fs ih => rw [toJsonMembers, ih, List.map_cons]

theorem Plain.exact_toJson {v : Value} (h : v.Plain) : v.toJson.Exact := by
  induction h with
  | null => exact .null
  | bool b => exact .bool b
  | int n => exact .int n.toInt
  | string s => exact .string s
  | array _ ih =>
    rw [toJson, toJsonItems_eq_map]
    exact .array (by simpa using ih)
  | object _ ih =>
    rw [toJson, toJsonMembers_eq_map]
    exact .object (List.forall_mem_map.mpr ih)

theorem depthList_toJsonItems {vs : List Value} (h : ∀ v ∈ vs, v.toJson.depth = v.depth) :
    Json.depthList (toJsonItems vs) = depthItems vs := by
  induction vs with
  | nil => rfl
  | cons v vs ih =>
    obtain ⟨hv, hvs⟩ := List.forall_mem_cons.mp h
    rw [toJsonItems, Json.depthList, depthItems, hv, ih hvs]

theorem depthMembers_toJsonMembers {fs : Fields} (h : ∀ p ∈ fs, p.2.toJson.depth = p.2.depth) :
    Json.depthMembers (toJsonMembers fs) = depthFields fs := by
  induction fs with
  | nil => rfl
  | cons p fs ih =>
    obtain ⟨hp, hfs⟩ := List.forall_mem_cons.mp h
    rw [toJsonMembers, Json.depthMembers, depthFields, hp, ih hfs]

/-- The tree of a value nests as deep as the value. -/
theorem Plain.depth_toJson {v : Value} (h : v.Plain) : v.toJson.depth = v.depth := by
  induction h with
  | null => rfl
  | bool b => rfl
  | int n => rfl
  | string s => rfl
  | array _ ih => rw [toJson, Json.depth, depth, depthList_toJsonItems ih]
  | object _ ih => rw [toJson, Json.depth, depth, depthMembers_toJsonMembers ih]

theorem ofJsonItems?_toJsonItems {vs : List Value} (h : ∀ v ∈ vs, ofJson? v.toJson = some v) :
    ofJsonItems? (toJsonItems vs) = some vs := by
  induction vs with
  | nil => rfl
  | cons v vs ih =>
    obtain ⟨hv, hvs⟩ := List.forall_mem_cons.mp h
    rw [toJsonItems, ofJsonItems?, hv, ih hvs]

theorem ofJsonMembers?_toJsonMembers {fs : Fields} (h : ∀ p ∈ fs, ofJson? p.2.toJson = some p.2) :
    ofJsonMembers? (toJsonMembers fs) = some fs := by
  induction fs with
  | nil => rfl
  | cons p fs ih =>
    obtain ⟨hp, hfs⟩ := List.forall_mem_cons.mp h
    rw [toJsonMembers, ofJsonMembers?, hp, ih hfs]

/-- The tree of a value gives the value again. -/
theorem Plain.ofJson?_toJson {v : Value} (h : v.Plain) (hordered : v.isOrdered = true) :
    ofJson? v.toJson = some v := by
  induction h with
  | null => rfl
  | bool b => rfl
  | int n =>
    have hjson : toJson (number (.int n)) = .int n.toInt := rfl
    rw [hjson, ofJson?, ofInteger?, int64?_toInt]
  | string s => rfl
  | array _ ih =>
    have hitems := of_isOrderedList hordered
    rw [toJson, ofJson?, ofJsonItems?_toJsonItems fun v hv => ih v hv (hitems v hv), Option.map_some]
  | object _ ih =>
    obtain ⟨hnames, hfields⟩ := of_isOrderedFields hordered
    rw [toJson, ofJson?, ofJsonMembers?_toJsonMembers fun p hp => ih p hp (hfields p hp), Option.map_some,
      ofFields, Fields.ofList_of_increasing hnames]

/-- A text that spells the tree of a value is read as the value, if it does not nest too deep. -/
theorem Plain.ofText?_of_parse {v : Value} (h : v.Plain) (hordered : v.isOrdered = true) {text : String}
    (htext : Json.parse? text = some v.toJson) : ofText? text = if v.depth ≤ 127 then some v else none := by
  rw [ofText?, htext, Option.bind_some, ofDocument?, h.depth_toJson, h.ofJson?_toJson hordered, Json.maxDepth]

/-- Both texts of a value that nests at most 127 deep are read as exactly that value; deeper ones are not
read at all. -/
theorem texts_read_back {v : Value} (h : v.Plain) (hordered : v.isOrdered = true) :
    (v.depth ≤ 127 → ofText? v.display = some v ∧ ofText? v.pretty = some v) ∧
      (127 < v.depth → ofText? v.display = none ∧ ofText? v.pretty = none) := by
  have hcompact := h.ofText?_of_parse hordered h.exact_toJson.parse?_compact
  have hpretty := h.ofText?_of_parse hordered h.exact_toJson.parse?_pretty
  rw [display, pretty, hcompact, hpretty]
  refine ⟨fun hdepth => ?_, fun hdepth => ?_⟩
  · rw [if_pos hdepth]
    exact ⟨rfl, rfl⟩
  · rw [if_neg (by omega)]
    exact ⟨rfl, rfl⟩

/-- A booking whose names and texts hold characters that have to be escaped. -/
def booking : Value :=
  .object [("", .array [.number (.int Int64.minValue), .number (.int Int64.maxValue), .array [], .object []]),
    ("\x01", .string "ü/\t\"\\\x7f😀\n\x1f"),
    ("\"room\"\\", .object [("a", .bool true), ("b", .null)])]

theorem booking_read :
    booking.Plain ∧ booking.isOrdered = true ∧ booking.depth = 3 ∧
      ofText? booking.display = some booking ∧ ofText? booking.pretty = some booking := by
  have hplain : booking.Plain := by simp [booking]
  have hordered : booking.isOrdered = true := by decide
  have hdepth : booking.depth = 3 := by decide
  exact ⟨hplain, hordered, hdepth, (texts_read_back hplain hordered).1 (by omega)⟩

end Value

end Tributary
