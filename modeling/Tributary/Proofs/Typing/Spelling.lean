import Tributary.Proofs.Distinct
import Tributary.Proofs.Text
import Tributary.Ty

/-!
# The names of types

A type may be declared under several names, in either letter case and with blanks around it and its items. The text of a
type is one of its names, so that reading a name and writing the type gives one name for all.

* `Ty.isDeclarable` : the types that have names;
* `Ty.Spelling t cs` : text `cs` is a name of type `t`;
* `Ty.readChars_eq_ok_iff` : names are read as what they name, and nothing else is;
* `Ty.spelling_display` : the text of a type is a name of it;
* `Ty.read_display` : reading and writing.
-/

namespace Tributary

namespace Ty

/-- Whether a type has a name: neither null nor a lambda has one, nor an array of such items. -/
def isDeclarable : Ty → Bool
  | null | lambda _ => false
  | array item => isDeclarable item
  | _ => true

/-- The names of types. A plain name is in any letter case, `array` and `list` before the item are not, and there may be
blanks around each of them. -/
inductive Spelling : Ty → List Char → Prop where
  | plain {name : String} {t : Ty} {cs : List Char} (h : (name, t) ∈ names) (hcs : cs.map Char.toLower = name.toList) :
      Spelling t cs
  | array {word : String} {t : Ty} {cs : List Char} (hword : word ∈ ["array<", "list<"]) (h : Spelling t cs) :
      Spelling (array t) (word.toList ++ cs ++ ['>'])
  | blanks {t : Ty} {before cs after : List Char} (hbefore : Text.Blanks before) (hafter : Text.Blanks after)
      (h : Spelling t cs) : Spelling t (before ++ cs ++ after)

theorem Spelling.isDeclarable {t : Ty} {cs : List Char} (h : Spelling t cs) : t.isDeclarable = true := by
  induction h with
  | plain h =>
    have hall : (names.all fun p => p.2.isDeclarable) = true := rfl
    exact List.all_eq_true.mp hall _ h
  | array _ _ ih => exact ih
  | blanks _ _ _ ih => exact ih

/-! ## What is inside of arrays -/

theorem afterWord?_eq_some_iff {word cs rest : List Char} : afterWord? word cs = some rest ↔ cs = word ++ rest := by
  rw [afterWord?]
  split
  · rename_i hstarts
    obtain ⟨rest', rfl⟩ := List.isPrefixOf_iff_prefix.mp hstarts
    simp [eq_comm]
  · rename_i hstarts
    refine ⟨nofun, ?_⟩
    rintro rfl
    exact absurd (List.isPrefixOf_iff_prefix.mpr (List.prefix_append word rest)) hstarts

/-- What follows the word of an array type. The two words do not begin alike, so only one of them can be there. -/
theorem afterWords_eq_some_iff {cs rest : List Char} :
    (afterWord? "array<".toList cs).or (afterWord? "list<".toList cs) = some rest ↔
      ∃ word ∈ ["array<", "list<"], cs = word.toList ++ rest := by
  simp only [List.mem_cons, List.not_mem_nil, or_false, exists_eq_or_imp, exists_eq_left, Option.or_eq_some_iff,
    afterWord?_eq_some_iff]
  constructor
  · rintro (h | ⟨-, h⟩)
    · exact .inl h
    · exact .inr h
  · rintro (h | rfl)
    · exact .inl h
    · exact .inr ⟨rfl, rfl⟩

theorem dropClosing_eq_some_iff {rest inner : List Char} :
    (if rest.getLast? = some '>' then some rest.dropLast else none) = some inner ↔ rest = inner ++ ['>'] := by
  constructor
  · intro h
    split at h
    · rename_i hlast
      obtain ⟨init, rfl⟩ := List.getLast?_eq_some_iff.mp hlast
      rw [List.dropLast_concat] at h
      rw [Option.some.inj h]
    · cases h
  · rintro rfl
    rw [if_pos List.getLast?_concat, List.dropLast_concat]

theorem itemText?_eq_some_iff {cs inner : List Char} :
    itemText? cs = some inner ↔ ∃ word ∈ ["array<", "list<"], cs = word.toList ++ inner ++ ['>'] := by
  rw [itemText?]
  constructor
  · intro h
    split at h
    · rename_i rest hrest
      obtain ⟨word, hword, rfl⟩ := afterWords_eq_some_iff.mp hrest
      obtain rfl := dropClosing_eq_some_iff.mp h
      exact ⟨word, hword, (List.append_assoc ..).symm⟩
    · cases h
  · rintro ⟨word, hword, rfl⟩
    rw [List.append_assoc, afterWords_eq_some_iff.mpr ⟨word, hword, rfl⟩]
    exact dropClosing_eq_some_iff.mpr rfl

theorem trimChars_of_array {word : String} (hword : word ∈ ["array<", "list<"]) (cs : List Char) :
    Text.trimChars (word.toList ++ cs ++ ['>']) = word.toList ++ cs ++ ['>'] := by
  refine Text.trimChars_eq_self ?_ ?_
  · simp only [List.mem_cons, List.not_mem_nil, or_false] at hword
    rintro c hc
    rcases hword with rfl | rfl <;> cases hc <;> rfl
  · rintro c hc
    rw [List.getLast?_concat] at hc
    cases hc
    rfl

/-! ## Plain names -/

theorem names_nodup : (names.map Prod.fst).Nodup := by decide

/-- What becomes a small letter is not blank. -/
theorem isBlank_of_isLower_toLower {c : Char} (h : c.toLower.isLower = true) : Text.isBlank c = false := by
  have hrange : (65 ≤ c.toNat ∧ c.toNat ≤ 90) ∨ (97 ≤ c.toNat ∧ c.toNat ≤ 122) := by
    unfold Char.toLower at h
    split at h
    · rename_i hupper
      exact .inl ⟨UInt32.le_iff_toNat_le.mp hupper.1, UInt32.le_iff_toNat_le.mp hupper.2⟩
    · obtain ⟨hlow, hhigh⟩ := Bool.and_eq_true_iff.mp h
      exact .inr ⟨UInt32.le_iff_toNat_le.mp (of_decide_eq_true hlow),
        UInt32.le_iff_toNat_le.mp (of_decide_eq_true hhigh)⟩
  simp [Text.isBlank]
  omega

section Plain

variable {name : String} {t : Ty} {cs : List Char} (h : (name, t) ∈ names) (hcs : cs.map Char.toLower = name.toList)
include h hcs

theorem isLower_of_plain {c : Char} (hc : c ∈ cs) : c.toLower.isLower = true := by
  have hnames : (names.all fun p => p.1.toList.all Char.isLower) = true := by decide
  have hname : name.toList.all Char.isLower = true := List.all_eq_true.mp hnames _ h
  rw [← hcs] at hname
  exact List.all_eq_true.mp hname _ (List.mem_map_of_mem hc)

theorem trimChars_of_plain : Text.trimChars cs = cs :=
  Text.trimChars_eq_self (fun _ hc => isBlank_of_isLower_toLower (isLower_of_plain h hcs (List.mem_of_mem_head? hc)))
    fun _ hc => isBlank_of_isLower_toLower (isLower_of_plain h hcs (List.mem_of_mem_getLast? hc))

theorem itemText?_of_plain : itemText? cs = none := by
  cases hitem : itemText? cs with
  | none => rfl
  | some inner =>
    obtain ⟨word, -, rfl⟩ := itemText?_eq_some_iff.mp hitem
    cases isLower_of_plain h hcs (c := '>') (by simp)

theorem lookup_of_plain : names.lookup (String.ofList (cs.map Char.toLower)) = some t := by
  rw [hcs, String.ofList_toList]
  exact lookup_eq_some_of_mem names_nodup h

end Plain

/-! ## Reading -/

/-- A text that can be read has an item type inside, or it is a plain name. -/
theorem readChars_eq_ok {cs : List Char} {t : Ty} :
    readChars cs = .ok t ↔
      (∃ inner item, itemText? (Text.trimChars cs) = some inner ∧ readChars inner = .ok item ∧ t = array item) ∨
      (itemText? (Text.trimChars cs) = none ∧
        names.lookup (String.ofList ((Text.trimChars cs).map Char.toLower)) = some t) := by
  rw [readChars]
  split
  · rename_i inner hinner
    rw [hinner]
    cases hread : readChars inner with
    | ok item => simp [hread, eq_comm]
    | error e => simp [hread]
  · rename_i hnone
    rw [hnone]
    cases names.lookup (String.ofList ((Text.trimChars cs).map Char.toLower)) with
    | none => simp
    | some t => simp

theorem readChars_of_spelling {t : Ty} {cs : List Char} (h : Spelling t cs) : readChars cs = .ok t := by
  induction h with
  | plain h hcs =>
    refine readChars_eq_ok.mpr (.inr ?_)
    rw [trimChars_of_plain h hcs]
    exact ⟨itemText?_of_plain h hcs, lookup_of_plain h hcs⟩
  | @array word t cs hword _ ih =>
    refine readChars_eq_ok.mpr (.inl ⟨cs, t, ?_, ih, rfl⟩)
    rw [trimChars_of_array hword]
    exact itemText?_eq_some_iff.mpr ⟨word, hword, rfl⟩
  | blanks hbefore hafter _ ih =>
    rw [readChars_eq_ok, Text.trimChars_blanks hbefore hafter, ← readChars_eq_ok]
    exact ih

/-- What can be read is a name. The induction is on the length of the text, which each array takes characters of. -/
theorem spelling_of_readChars {cs : List Char} {t : Ty} (h : readChars cs = .ok t) : Spelling t cs := by
  obtain ⟨before, after, hbefore, hafter, hcs⟩ := Text.exists_blanks_trimChars cs
  rw [hcs]
  refine .blanks hbefore hafter ?_
  obtain ⟨inner, item, hinner, hitem, rfl⟩ | ⟨-, hlookup⟩ := readChars_eq_ok.mp h
  · obtain ⟨word, hword, htrim⟩ := itemText?_eq_some_iff.mp hinner
    rw [htrim]
    have hshorter := length_itemText?_trimChars hinner
    exact .array hword (spelling_of_readChars hitem)
  · obtain ⟨l, r, hnames, -⟩ := List.lookup_eq_some_iff.mp hlookup
    have hmem : (String.ofList ((Text.trimChars cs).map Char.toLower), t) ∈ names := by
      rw [hnames]
      simp
    exact .plain hmem String.toList_ofList.symm
termination_by cs.length

theorem readChars_eq_ok_iff {cs : List Char} {t : Ty} : readChars cs = .ok t ↔ Spelling t cs :=
  ⟨spelling_of_readChars, readChars_of_spelling⟩

/-! ## Writing -/

theorem display_array {item : Ty} (h : item ≠ any) : (array item).display = "array<" ++ item.display ++ ">" := by
  cases item with
  | any => exact absurd rfl h
  | _ => rfl

theorem spelling_name {name : String} {t : Ty} (h : (name, t) ∈ names) : Spelling t name.toList := by
  have hnames : (names.all fun p => p.1.toList.map Char.toLower == p.1.toList) = true := by decide
  exact .plain h (beq_iff_eq.mp (List.all_eq_true.mp hnames _ h))

/-- The text of a type is a name of it. -/
theorem spelling_display {t : Ty} (h : t.isDeclarable = true) : Spelling t t.display.toList := by
  induction t with
  | null | lambda => cases h
  | array item ih =>
    by_cases hany : item = any
    · subst hany
      exact spelling_name (by simp [names, display])
    · have hword : "array<" ∈ ["array<", "list<"] := List.mem_cons_self
      rw [display_array hany, String.toList_append, String.toList_append]
      exact .array hword (ih h)
  | _ => exact spelling_name (by simp [names, display])

/-- Every type that has a name reads back from its text. A text that can be read gives such a type, so writing it gives
one name for all that it is known under: those in other letters, with other words and with blanks around. -/
theorem read_display :
    (∀ t : Ty, t.isDeclarable = true → read t.display = .ok t) ∧
    (∀ (s : String) (t : Ty), read s = .ok t → t.isDeclarable = true ∧ read t.display = .ok t) ∧
    ∀ (s : String) (t : Ty), read s = .ok t ↔ Spelling t s.toList := by
  have hread : ∀ t : Ty, t.isDeclarable = true → read t.display = .ok t :=
    fun t h => readChars_of_spelling (spelling_display h)
  refine ⟨hread, fun s t h => ?_, fun s t => readChars_eq_ok_iff⟩
  have hname := (spelling_of_readChars h).isDeclarable
  exact ⟨hname, hread t hname⟩

/-- Arrays of arrays of times, under the text of the type and under a name in other words. -/
theorem read_display_times :
    (array (array datetime)).display = "array<array<datetime>>" ∧
    read "array<array<datetime>>" = .ok (array (array datetime)) ∧
    read " list<array<\tTimeStamp >>\n" = .ok (array (array datetime)) := by
  obtain ⟨hread, -, hspelling⟩ := read_display
  refine ⟨by decide, hread (array (array datetime)) rfl, (hspelling _ _).mpr ?_⟩
  have hblank : ∀ c : Char, Text.isBlank c = true → Text.Blanks [c] := fun c h => List.forall_mem_singleton.mpr h
  have hword : "array<" ∈ ["array<", "list<"] := List.mem_cons_self
  have hother : "list<" ∈ ["array<", "list<"] := List.mem_cons_of_mem _ List.mem_cons_self
  have hname : ("timestamp", datetime) ∈ names := by simp [names]
  have htime : Spelling datetime "TimeStamp".toList := .plain hname (by decide)
  have hitem := Spelling.blanks (hblank '\t' rfl) (hblank ' ' rfl) htime
  exact .blanks (hblank ' ' rfl) (hblank '\n' rfl) (.array hother (.array hword hitem))

end Ty

end Tributary
