import Mathlib.Data.List.TakeWhile
import Tributary.Text.Basic

/-!
# Trimming a text, and cutting it at a separator

Splitting and replacing scan a text from the left and go on behind each separator that they find. The cut says which
separators those are, without a scan.

* `Text.Blanks cs` : a text of blanks;
* `Text.exists_blanks_trimChars` : trimming takes blanks off both ends;
* `Text.trimChars_blanks` : blanks around a text do not matter to it;
* `Text.trimChars_eq_self` : a text without blanks at its ends stays as it is;
* `Text.Cut sep cs ps` : `ps` is what `cs` is cut into at the leftmost separators that do not overlap;
* `Text.cut_pieces` : splitting cuts;
* `Text.Cut.free`, `Text.Cut.join_eq` : no piece has a separator inside, and joining puts the text together again;
* `Text.replace_eq_join` : replacing is joining with something else.
-/

namespace Tributary.Text

/-! ## Trimming -/

def Blanks (cs : List Char) : Prop := ∀ c ∈ cs, isBlank c = true

theorem Blanks.reverse {cs : List Char} (h : Blanks cs) : Blanks cs.reverse :=
  fun c hc => h c (List.mem_reverse.mp hc)

theorem trimLeft_blanks {before : List Char} (h : Blanks before) (cs : List Char) :
    trimLeft (before ++ cs) = trimLeft cs :=
  List.dropWhile_append_of_pos h

theorem trimLeft_eq_self {cs : List Char} (h : ∀ c ∈ cs.head?, isBlank c = false) : trimLeft cs = cs := by
  cases cs with
  | nil => rfl
  | cons c cs => exact List.dropWhile_cons_of_neg (by simp [h c rfl])

/-- Trimming on the left takes off blanks. -/
theorem exists_blanks_trimLeft (cs : List Char) : ∃ before, Blanks before ∧ cs = before ++ trimLeft cs :=
  ⟨cs.takeWhile isBlank, fun _ hc => List.mem_takeWhile_imp hc, List.takeWhile_append_dropWhile.symm⟩

theorem exists_blanks_trimChars (cs : List Char) :
    ∃ before after, Blanks before ∧ Blanks after ∧ cs = before ++ trimChars cs ++ after := by
  obtain ⟨before, hbefore, hcs⟩ := exists_blanks_trimLeft cs
  obtain ⟨after, hafter, hrest⟩ := exists_blanks_trimLeft (trimLeft cs).reverse
  refine ⟨before, after.reverse, hbefore, hafter.reverse, ?_⟩
  have hrest : trimLeft cs = trimChars cs ++ after.reverse := by
    rw [trimChars, ← List.reverse_append, ← hrest, List.reverse_reverse]
  rw [List.append_assoc, ← hrest]
  exact hcs

theorem trimChars_blanks {before after : List Char} (hbefore : Blanks before) (hafter : Blanks after) (cs : List Char) :
    trimChars (before ++ cs ++ after) = trimChars cs := by
  have happend : trimLeft (cs ++ after) = if (trimLeft cs).isEmpty then trimLeft after else trimLeft cs ++ after :=
    List.dropWhile_append
  rw [trimChars, trimChars, List.append_assoc, trimLeft_blanks hbefore, happend]
  split
  · rename_i hnil
    have hafter : trimLeft after = [] := List.dropWhile_eq_nil_iff.mpr hafter
    rw [hafter, List.isEmpty_iff.mp hnil]
  · rw [List.reverse_append, trimLeft_blanks hafter.reverse]

theorem trimChars_eq_self {cs : List Char} (hhead : ∀ c ∈ cs.head?, isBlank c = false)
    (hlast : ∀ c ∈ cs.getLast?, isBlank c = false) : trimChars cs = cs := by
  rw [trimChars, trimLeft_eq_self hhead, trimLeft_eq_self (by rwa [List.head?_reverse]), List.reverse_reverse]

/-! ## Cutting -/

variable {sep cs p : List Char} {ps : List (List Char)}

/-- What a text is cut into. The first separator ends the first piece: none ends before it, not even one that begins in
the piece and takes from the separator itself. What follows it is cut likewise. -/
inductive Cut (sep : List Char) : List Char → List (List Char) → Prop where
  | last {cs : List Char} (h : ¬ sep <:+: cs) : Cut sep cs [cs]
  | found {p rest : List Char} {ps : List (List Char)} (h : ¬ sep <:+: p ++ sep.dropLast) (hrest : Cut sep rest ps) :
      Cut sep (p ++ sep ++ rest) (p :: ps)

namespace Cut

theorem ne_nil (h : Cut sep cs ps) : ps ≠ [] := by
  cases h <;> exact List.cons_ne_nil _ _

/-- No piece has a separator inside. -/
theorem free (h : Cut sep cs ps) (hp : p ∈ ps) : ¬ sep <:+: p := by
  induction h with
  | last h =>
    obtain rfl := List.mem_singleton.mp hp
    exact h
  | @found q rest ps h hrest ih =>
    rcases List.mem_cons.mp hp with rfl | hp
    · exact fun hsub => h (hsub.trans (List.prefix_append _ _).isInfix)
    · exact ih hp

/-- A character in front of a text goes into the first piece, unless it begins a separator. -/
theorem cons {c : Char} (hc : ¬ sep <+: c :: cs) (h : Cut sep cs (p :: ps)) : Cut sep (c :: cs) ((c :: p) :: ps) := by
  cases h with
  | last h =>
    refine .last fun hsub => ?_
    rcases List.infix_cons_iff.mp hsub with hstart | hinside
    · exact hc hstart
    · exact h hinside
  | @found _ rest _ h hrest =>
    refine .found (p := c :: p) (fun hsub => ?_) hrest
    rcases List.infix_cons_iff.mp hsub with hstart | hinside
    · -- The piece and the separator without its last character are a beginning of the text.
      refine hc (hstart.trans ?_)
      rw [List.append_assoc, List.cons_prefix_cons]
      exact ⟨rfl, List.prefix_append_right_inj p |>.mpr ((List.dropLast_prefix sep).trans (List.prefix_append _ _))⟩
    · exact h hinside

end Cut

theorem join_cons (sep p : List Char) (h : ps ≠ []) : join sep (p :: ps) = p ++ sep ++ join sep ps := by
  cases ps with
  | nil => exact absurd rfl h
  | cons q ps => rfl

theorem join_cons_cons (sep : List Char) (c : Char) (p : List Char) (ps : List (List Char)) :
    join sep ((c :: p) :: ps) = c :: join sep (p :: ps) := by
  cases ps <;> rfl

/-- Joining puts the text together again. -/
theorem Cut.join_eq (h : Cut sep cs ps) : join sep ps = cs := by
  induction h with
  | last => rfl
  | found _ hrest ih => rw [join_cons _ _ hrest.ne_nil, ih]

/-- A text that starts with a separator, without it. -/
theorem append_drop_of_prefix {c : Char} (hsep : sep ≠ []) (h : sep <+: c :: cs) :
    sep ++ cs.drop (sep.length - 1) = c :: cs := by
  obtain ⟨d, sep, rfl⟩ := List.exists_cons_of_ne_nil hsep
  obtain ⟨rest, h⟩ := h
  obtain ⟨rfl, rfl⟩ := List.cons.inj h
  simp

/-- Splitting cuts a text at the leftmost separators. -/
theorem cut_pieces (hsep : sep ≠ []) (cs : List Char) : Cut sep cs (pieces sep cs) := by
  fun_induction pieces sep cs with
  | case1 => exact .last fun h => hsep (List.infix_nil.mp h)
  | case2 c rest h ih =>
    have hshort : ¬ sep <:+: [] ++ sep.dropLast := by
      intro hsub
      have hle := hsub.length_le
      have hpos := List.length_pos_iff.mpr hsep
      rw [List.nil_append, List.length_dropLast] at hle
      omega
    have hcut := Cut.found hshort ih
    rwa [List.nil_append, append_drop_of_prefix hsep (List.isPrefixOf_iff_prefix.mp h.2)] at hcut
  | case3 c rest h hnil ih => exact absurd hnil ih.ne_nil
  | case4 c rest h p ps hpieces ih =>
    rw [hpieces] at ih
    exact ih.cons fun hstart => h ⟨hsep, List.isPrefixOf_iff_prefix.mpr hstart⟩

/-- Replacing finds the same separators as splitting, and puts something else between the pieces. -/
theorem replaceFound_eq_join (hsep : sep ≠ []) (new cs : List Char) :
    replaceFound sep new cs = join new (pieces sep cs) := by
  fun_induction pieces sep cs with
  | case1 => rw [replaceFound, join]
  | case2 c rest h ih => rw [replaceFound, if_pos h, ih, join_cons _ _ (cut_pieces hsep _).ne_nil, List.nil_append]
  | case3 c rest h hnil ih => exact absurd hnil (cut_pieces hsep rest).ne_nil
  | case4 c rest h p ps hpieces ih => rw [replaceFound, if_neg h, ih, hpieces, join_cons_cons]

theorem replace_eq_join (hsep : sep ≠ []) (new cs : List Char) : replace sep new cs = join new (pieces sep cs) := by
  rw [replace, if_neg hsep, replaceFound_eq_join hsep]

end Tributary.Text
