import Tributary.Json.Printer
import Tributary.Json.Token
import Tributary.Proofs.Decimal.Digits

/-!
# The tokens of written texts

The pass over the characters adds to the tokens found and never looks at them again. Between two tokens
it therefore stands as at the start of a text, and a text can be read piece by piece.

* `Spells cs ts rest` : in front of `rest`, the characters `cs` are read as the tokens `ts`;
* `Spells.append` : two such pieces, one after the other;
* `Spells.blank`, `Spells.structural`, `Spells.quote`, `Spells.word` : blanks, structural characters,
  quoted strings, and words in front of a character that ends them;
* `ofWord?_intChars` : the word of an integer.
-/

namespace Tributary.Json

namespace Scan

/-- The tokens of a text, once the pass comes to `cs`. -/
def run (s : Scan) (cs : List Char) : Option (List Token) := (cs.foldlM step s).bind finish

theorem run_nil (s : Scan) : s.run [] = s.finish := rfl

theorem run_cons (s : Scan) (c : Char) (cs : List Char) : s.run (c :: cs) = (s.step c).bind (·.run cs) := by
  cases h : s.step c <;> simp [run, h]

theorem run_append {s s' : Scan} {cs : List Char} (h : cs.foldlM step s = some s') (rest : List Char) :
    s.run (cs ++ rest) = s'.run rest := by
  simp [run, h]

/-- The pass, had it found the tokens `ts` before; these stand last first. -/
def after (ts : List Token) (s : Scan) : Scan := ⟨s.found ++ ts, s.mode⟩

theorem startToken_after (ts found : List Token) (c : Char) :
    startToken (found ++ ts) c = (startToken found c).after ts := by
  unfold startToken
  split
  · rfl
  · cases Token.structural? c with
    | some t => rfl
    | none => simp only; split <;> rfl

theorem afterCode_after (ts found : List Token) (read : List Char) (high : Option Nat) (value : Nat) :
    afterCode (found ++ ts) read high value = (afterCode found read high value).map (after ts) := by
  cases high with
  | none =>
    simp only [afterCode]
    split
    · rfl
    · split <;> rfl
  | some high =>
    simp only [afterCode]
    split <;> rfl

/-- What a character does has nothing to do with the tokens found. -/
theorem step_after (ts : List Token) (s : Scan) (c : Char) :
    (s.after ts).step c = (s.step c).map (after ts) := by
  obtain ⟨found, mode⟩ := s
  cases mode with
  | idle => exact congrArg some (startToken_after ts found c)
  | word read =>
    simp only [step, after]
    split
    · cases Token.ofWord? read.reverse with
      | none => rfl
      | some t => exact congrArg some (startToken_after ts (t :: found) c)
    · rfl
  | text read =>
    simp only [step, after]
    split
    · rfl
    · split
      · rfl
      · split <;> rfl
  | escape read =>
    simp only [step, after]
    split
    · rfl
    · cases unescape? c <;> rfl
  | code read high left value =>
    simp only [step, after]
    cases hexValue? c with
    | none => rfl
    | some d =>
      simp only
      split
      · exact afterCode_after ts found read high _
      · rfl
  | pair read high => simp only [step, after]; split <;> rfl
  | pairMark read high => simp only [step, after]; split <;> rfl

theorem finish_after (ts : List Token) (s : Scan) : (s.after ts).finish = s.finish.map (ts.reverse ++ ·) := by
  obtain ⟨found, mode⟩ := s
  cases mode with
  | idle => simp [finish, after]
  | word read => cases h : Token.ofWord? read.reverse <;> simp [finish, after, h]
  | _ => rfl

theorem run_after (ts : List Token) (s : Scan) (cs : List Char) :
    (s.after ts).run cs = (s.run cs).map (ts.reverse ++ ·) := by
  induction cs generalizing s with
  | nil => exact finish_after ts s
  | cons c cs ih =>
    rw [run_cons, run_cons, step_after]
    cases s.step c with
    | none => rfl
    | some s' => exact ih s'

/-- After a token the rest of the text is read as a text. -/
theorem run_idle (t : Token) (cs : List Char) : run ⟨[t], .idle⟩ cs = (tokens? cs).map (t :: ·) :=
  run_after [t] ⟨[], .idle⟩ cs

end Scan

/-- In front of `rest`, the characters `cs` are read as the tokens `ts`. -/
def Spells (cs : List Char) (ts : List Token) (rest : List Char) : Prop :=
  tokens? (cs ++ rest) = (tokens? rest).map (ts ++ ·)

namespace Spells

theorem nil (rest : List Char) : Spells [] [] rest := by simp [Spells]

theorem append {cs cs' rest : List Char} {ts ts' : List Token} (h : Spells cs ts (cs' ++ rest))
    (h' : Spells cs' ts' rest) : Spells (cs ++ cs') (ts ++ ts') rest := by
  rw [Spells, List.append_assoc, h, h', Option.map_map]
  congr 1
  funext us
  exact (List.append_assoc ts ts' us).symm

/-- Characters that the pass reads as one token, from between tokens to between tokens. -/
theorem of_read {cs : List Char} {t : Token} (h : cs.foldlM Scan.step ⟨[], .idle⟩ = some ⟨[t], .idle⟩)
    (rest : List Char) : Spells cs [t] rest :=
  (Scan.run_append h rest).trans (Scan.run_idle t rest)

theorem structural {c : Char} {t : Token} {cs rest : List Char} {ts : List Token}
    (hc : startToken [] c = ⟨[t], .idle⟩) (h : Spells cs ts rest) : Spells (c :: cs) (t :: ts) rest := by
  have hread : [c].foldlM Scan.step ⟨[], .idle⟩ = some ⟨[t], .idle⟩ := by simp [Scan.step, hc]
  exact (of_read hread (cs ++ rest)).append h

theorem blank {cs : List Char} (hcs : cs.all isSpace = true) (rest : List Char) : Spells cs [] rest := by
  have hread : cs.foldlM Scan.step ⟨[], .idle⟩ = some ⟨[], .idle⟩ := by
    induction cs with
    | nil => rfl
    | cons c cs ih =>
      rw [List.all_cons, Bool.and_eq_true] at hcs
      simp [Scan.step, startToken, hcs.1, ih hcs.2]
  have hrun : tokens? (cs ++ rest) = tokens? rest := Scan.run_append hread rest
  simp [Spells, hrun]

end Spells

/-! ## Strings -/

theorem hexValue?_hexDigit : ∀ d < 16, hexValue? (hexDigit d) = some d := by decide

/-- An escaped character is read as the character. -/
theorem foldlM_escape (c : Char) (found : List Token) (read : List Char) :
    (escape c).foldlM Scan.step ⟨found, .text read⟩ = some ⟨found, .text (c :: read)⟩ := by
  unfold escape
  split_ifs with hquote hslash _ _ _ _ _ hlow
  any_goals subst c; rfl
  · -- the two digits that follow `00` are those of the character's number
    have hhigh := hexValue?_hexDigit (c.toNat / 16) (by omega)
    have hunit := hexValue?_hexDigit (c.toNat % 16) (by omega)
    have hzero : hexValue? '0' = some 0 := rfl
    have hvalue : 16 * (c.toNat / 16) + c.toNat % 16 = c.toNat := Nat.div_add_mod _ _
    have hone : ¬ 0xDC00 ≤ c.toNat ∧ ¬ 0xD800 ≤ c.toNat := by omega
    simp [Scan.step, hzero, hhigh, hunit, afterCode, hvalue, hone]
  · simp [Scan.step, hquote, hslash, hlow]

/-- Strings are read back, whatever characters they hold. -/
theorem Spells.quote (s : String) (rest : List Char) : Spells (Json.quote s) [.string s] rest := by
  have hchars (cs read : List Char) :
      (cs.flatMap escape).foldlM Scan.step ⟨[], .text read⟩ = some ⟨[], .text (cs.reverse ++ read)⟩ := by
    induction cs generalizing read with
    | nil => rfl
    | cons c cs ih => simp [foldlM_escape, ih]
  have hopen : Scan.step ⟨[], .idle⟩ '"' = some ⟨[], .text []⟩ := rfl
  have hclose : Scan.step ⟨[], .text s.toList.reverse⟩ '"' = some ⟨[.string s], .idle⟩ := by simp [Scan.step]
  refine .of_read ?_ rest
  simp [Json.quote, hopen, hchars, hclose]

/-! ## Words -/

def Ends (rest : List Char) : Prop := ∀ c ∈ rest.head?, endsWord c = true

theorem foldlM_word {cs : List Char} (hcs : cs.any endsWord = false) (found : List Token) (read : List Char) :
    cs.foldlM Scan.step ⟨found, .word read⟩ = some ⟨found, .word (cs.reverse ++ read)⟩ := by
  induction cs generalizing read with
  | nil => rfl
  | cons c cs ih =>
    rw [List.any_cons, Bool.or_eq_false_iff] at hcs
    simp [Scan.step, hcs.1, ih hcs.2]

theorem startToken_word {c : Char} (hc : endsWord c = false) (found : List Token) :
    startToken found c = ⟨found, .word [c]⟩ := by
  simp only [endsWord, Bool.or_eq_false_iff, Option.isSome_eq_false_iff, Option.isNone_iff_eq_none,
    beq_eq_false_iff_ne] at hc
  obtain ⟨⟨hspace, hstruct⟩, hquote⟩ := hc
  simp [startToken, hspace, hstruct, hquote]

/-- A word is read up to the character that ends it, or to the end of the text. -/
theorem Spells.word {w rest : List Char} {t : Token} (hne : w ≠ []) (hw : w.any endsWord = false)
    (ht : Token.ofWord? w = some t) (hrest : Ends rest) : Spells w [t] rest := by
  obtain ⟨c, cs, rfl⟩ := List.exists_cons_of_ne_nil hne
  have hread : (c :: cs).foldlM Scan.step ⟨[], .idle⟩ = some ⟨[], .word (c :: cs).reverse⟩ := by
    rw [List.any_cons, Bool.or_eq_false_iff] at hw
    have hstep : Scan.step ⟨[], .idle⟩ c = some ⟨[], .word [c]⟩ := congrArg some (startToken_word hw.1 [])
    simp [hstep, foldlM_word hw.2]
  have hrun : tokens? (c :: cs ++ rest) = Scan.run ⟨[t], .idle⟩ rest := by
    refine (Scan.run_append hread rest).trans ?_
    cases rest with
    | nil => simp [Scan.run_nil, Scan.finish, ht]
    | cons d rest =>
      have hd := hrest d (by simp)
      simp [Scan.run_cons, Scan.step, hd, ht]
  exact hrun.trans (Scan.run_idle t rest)

/-! ## Integers -/

theorem intChars_eq (n : Int) :
    intChars n = if 0 ≤ n then Nat.toDigits 10 n.toNat else '-' :: Nat.toDigits 10 (-n).toNat := by
  rw [intChars, Int.toString_eq_repr, Int.repr_eq_if]
  split <;> simp [Nat.repr_eq_ofList_toDigits]

theorem isWhole_toDigits (n : Nat) : isWhole (Nat.toDigits 10 n) = true := by
  by_cases hn : n = 0
  · subst n; rfl
  · obtain ⟨c, cs, heq, hc⟩ := Decimal.toDigits_eq_cons hn
    have hall := Decimal.isDigit_toDigits n
    rw [heq] at hall ⊢
    unfold isWhole
    split
    · contradiction
    · rfl
    · rename_i h
      exact absurd (List.cons.inj h).1 hc
    · exact hall

theorem ofNumber?_digits {cs : List Char} (hcs : cs.all Char.isDigit = true) (hwhole : isWhole cs = true) :
    Token.ofNumber? cs = some (.int (Decimal.ofDigits cs)) := by
  have hspan := Decimal.spanDigits_of_all hcs
  unfold Token.ofNumber?
  split
  rename_i hsign
  split at hsign
  · simp at hcs
  · cases hsign
    simp [hspan, hwhole]

theorem ofNumber?_neg_digits {cs : List Char} (hcs : cs.all Char.isDigit = true) (hwhole : isWhole cs = true)
    (hzero : cs ≠ ['0']) : Token.ofNumber? ('-' :: cs) = some (.int (-Decimal.ofDigits cs)) := by
  have hspan := Decimal.spanDigits_of_all hcs
  simp [Token.ofNumber?, hspan, hwhole, hzero]

theorem endsWord_of_isDigit {c : Char} (hc : c.isDigit = true) : endsWord c = false := by
  rw [Bool.eq_false_iff]
  intro hends
  simp only [endsWord, isSpace, Bool.or_eq_true, decide_eq_true_eq, beq_iff_eq] at hends
  rcases hends with ((rfl | rfl | rfl | rfl) | hstruct) | rfl
  any_goals revert hc; decide
  unfold Token.structural? at hstruct
  split at hstruct
  any_goals revert hc; decide
  contradiction

/-- No number is spelled like a constant. -/
theorem ofWord?_of_number {w : List Char} {t : Token} (h : Token.ofNumber? w = some t) :
    Token.ofWord? w = some t := by
  have hnull : Token.ofNumber? "null".toList = none := by decide
  have htrue : Token.ofNumber? "true".toList = none := by decide
  have hfalse : Token.ofNumber? "false".toList = none := by decide
  rw [Token.ofWord?, if_neg, if_neg, if_neg, h]
  all_goals
    rintro rfl
    simp_all

theorem ofWord?_intChars (n : Int) : Token.ofWord? (intChars n) = some (.int n) := by
  apply ofWord?_of_number
  rw [intChars_eq]
  split
  · rw [ofNumber?_digits (Decimal.isDigit_toDigits _) (isWhole_toDigits _), Decimal.ofDigits_toDigits]
    congr 2
    omega
  · have hzero : Nat.toDigits 10 (-n).toNat ≠ ['0'] := by
      obtain ⟨c, cs, heq, hc⟩ := Decimal.toDigits_eq_cons (show (-n).toNat ≠ 0 by omega)
      rw [heq]
      exact fun h => hc (List.cons.inj h).1
    rw [ofNumber?_neg_digits (Decimal.isDigit_toDigits _) (isWhole_toDigits _) hzero,
      Decimal.ofDigits_toDigits]
    congr 2
    omega

theorem Spells.int (n : Int) {rest : List Char} (hrest : Ends rest) : Spells (intChars n) [.int n] rest := by
  have hdigits (m : Nat) : (Nat.toDigits 10 m).any endsWord = false := by
    rw [List.any_eq_false]
    intro c hc
    rw [endsWord_of_isDigit (List.all_eq_true.mp (Decimal.isDigit_toDigits m) c hc)]
    exact Bool.false_ne_true
  refine .word ?_ ?_ (ofWord?_intChars n) hrest
  · rw [intChars_eq]
    split <;> simp
  · rw [intChars_eq]
    split
    · exact hdigits _
    · rw [List.any_cons, hdigits]
      rfl

end Tributary.Json
