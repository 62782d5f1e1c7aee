import Mathlib.Algebra.Ring.Int.Defs
import Mathlib.Data.List.Forall2
import Tributary.Plan.Evaluate
import Tributary.Proofs.Time.Calendar
import Tributary.Proofs.Value.Json

/-!
# Timestamps are read back

* `Moment.nanoseconds_ofNanoseconds` : a moment keeps its distance from the epoch;
* `Moment.proper_ofNanoseconds` : its parts are in range, the year among the four-digit years;
* `Moment.Proper.readTimestamp?_text` : the text of such a moment is read as its distance from the epoch;
* `timestamp_exact` : every 64-bit number of nanoseconds has a timestamp of its own that is read back.
-/

namespace Tributary.Time

/-! ## Moments -/

namespace Moment

/-- The parts of a moment are in range, and its year has at most four digits. -/
structure Proper (m : Moment) : Prop where
  date : m.date.isValid = true
  year : 0 ≤ m.date.year ∧ m.date.year < 10000
  hour : 0 ≤ m.hour ∧ m.hour < 24
  minute : 0 ≤ m.minute ∧ m.minute < 60
  second : 0 ≤ m.second ∧ m.second < 60
  nanosecond : 0 ≤ m.nanosecond ∧ m.nanosecond < 1000000000

theorem nanoseconds_ofNanoseconds (ns : Int) : (ofNanoseconds ns).nanoseconds = ns := by
  simp only [nanoseconds, seconds, ofNanoseconds, Date.dayNumber_ofDayNumber, daySeconds, secondNanos]
  omega

theorem proper_ofNanoseconds (ns : Int64) : (ofNanoseconds ns.toInt).Proper := by
  have hlow := ns.le_toInt
  have hhigh := ns.toInt_lt
  have hday : -106752 ≤ ns.toInt / secondNanos / daySeconds ∧ ns.toInt / secondNanos / daySeconds ≤ 106752 := by
    rw [secondNanos, daySeconds]
    omega
  have hyear := Date.year_ofDayNumber hday.1 hday.2
  constructor
  case date => exact Date.isValid_ofDayNumber _
  case year =>
    simp only [ofNanoseconds]
    omega
  all_goals
    simp only [ofNanoseconds, secondNanos, daySeconds]
    omega

end Moment

/-! ## Digits -/

section Padded
variable {width : Nat} {n : Int}

theorem isDigit_padded (width : Nat) (n : Int) : (padded width n).all Char.isDigit = true := by
  rw [padded, List.all_append, Decimal.isDigit_toDigits, Bool.and_true, List.all_eq_true]
  intro c hc
  rw [List.eq_of_mem_replicate hc]
  rfl

theorem ofDigits_padded (h0 : 0 ≤ n) : (Decimal.ofDigits (padded width n) : Int) = n := by
  rw [padded, Decimal.ofDigits_zeros, Decimal.ofDigits_toDigits, Int.toNat_of_nonneg h0]

theorem length_padded (hw : 0 < width) (hn : n < 10 ^ width) : (padded width n).length = width := by
  have hlen : (Nat.toDigits 10 n.toNat).length ≤ width := by
    rw [Nat.length_toDigits_le_iff (by decide) hw]
    have hpos : 0 < 10 ^ width := Nat.pow_pos (by decide)
    have hcast : ((10 ^ width : Nat) : Int) = 10 ^ width := by simp
    omega
  simp only [padded, List.length_append, List.length_replicate]
  omega

theorem readDigits?_padded (hw : 0 < width) (h0 : 0 ≤ n) (hn : n < 10 ^ width) (rest : List Char) :
    readDigits? width (padded width n ++ rest) = some (n, rest) := by
  have hlen := length_padded hw hn
  have htake : (padded width n ++ rest).take width = padded width n := List.take_left' hlen
  have hdrop : (padded width n ++ rest).drop width = rest := List.drop_left' hlen
  simp [readDigits?, htake, hdrop, hlen, isDigit_padded, ofDigits_padded h0]

/-- The digits of a fraction, up to the mark that follows. -/
theorem readFraction?_padded (hw : 0 < width) (hw9 : width ≤ 9) (h0 : 0 ≤ n) (hn : n < 10 ^ width)
    (rest : List Char) :
    readFraction? ('.' :: padded width n ++ 'Z' :: rest) = some (n * 10 ^ (9 - width), 'Z' :: rest) := by
  have hlen := length_padded hw hn
  have hspan : (padded width n ++ 'Z' :: rest).span Char.isDigit = (padded width n, 'Z' :: rest) :=
    Decimal.spanDigits_append (isDigit_padded width n) (by simp)
  have hne : padded width n ≠ [] := fun h => by simp [h] at hlen; omega
  have htake : (padded width n).take 9 = padded width n := List.take_of_length_le (by omega)
  have hvalue : ((Decimal.ofDigits (padded width n) * Nat.pow 10 (9 - width) : Nat) : Int) =
      n * 10 ^ (9 - width) := by
    rw [Int.natCast_mul, ofDigits_padded h0]
    simp
  rw [List.cons_append, readFraction?]
  simp only [hspan, if_neg hne, htake, hlen, hvalue]

end Padded

/-! ## Reading a timestamp -/

theorem readFraction?_fractionText {nanosecond : Int} (h0 : 0 ≤ nanosecond) (h1 : nanosecond < 1000000000)
    (rest : List Char) :
    readFraction? (fractionText nanosecond ++ 'Z' :: rest) = some (nanosecond, 'Z' :: rest) := by
  unfold fractionText
  split_ifs with hzero hmilli hmicro
  · rw [hzero]
    rfl
  · rw [readFraction?_padded (by decide) (by decide) (by omega) (by omega)]
    congr 2
    omega
  · rw [readFraction?_padded (by decide) (by decide) (by omega) (by omega)]
    congr 2
    omega
  · rw [readFraction?_padded (by decide) (by decide) h0 (by omega)]
    congr 2
    omega

theorem monthDays_le (y month : Int) : monthDays y month ≤ 31 := by
  rw [monthDays]
  split_ifs <;> decide

namespace Moment.Proper
variable {m : Moment} (h : m.Proper)
include h

theorem readFullDate?_text (rest : List Char) :
    readFullDate? (padded 4 m.date.year ++ '-' :: (padded 2 m.date.month ++ '-' :: (padded 2 m.date.day ++ rest))) =
      some (m.date, rest) := by
  have hvalid := of_decide_eq_true h.date
  have hdays := monthDays_le m.date.year m.date.month
  have hyear := readDigits?_padded (show 0 < 4 by decide) h.year.1 h.year.2
  have hmonth := readDigits?_padded (show 0 < 2 by decide) (show 0 ≤ m.date.month by omega) (by omega)
  have hday := readDigits?_padded (show 0 < 2 by decide) (show 0 ≤ m.date.day by omega) (by omega)
  simp [readFullDate?, readChar?, hyear, hmonth, hday]

theorem readTimeOfDay?_text (rest : List Char) :
    readTimeOfDay? (padded 2 m.hour ++ ':' :: (padded 2 m.minute ++ ':' :: (padded 2 m.second ++ rest))) =
      some (m.hour * 3600 + m.minute * 60 + m.second, rest) := by
  obtain ⟨hh0, hh1⟩ := h.hour
  obtain ⟨hm0, hm1⟩ := h.minute
  obtain ⟨hs0, hs1⟩ := h.second
  have hhour := readDigits?_padded (show 0 < 2 by decide) hh0 (by omega)
  have hminute := readDigits?_padded (show 0 < 2 by decide) hm0 (by omega)
  have hsecond := readDigits?_padded (show 0 < 2 by decide) hs0 (by omega)
  have hrange : m.hour ≤ 23 ∧ m.minute ≤ 59 ∧ m.second ≤ 60 := by omega
  simp [readTimeOfDay?, readChar?, hhour, hminute, hsecond, hrange]

/-- The text of a moment is read as its distance from the epoch. -/
theorem readTimestamp?_text : readTimestamp? (m.localChars ++ ['Z']) = some m.nanoseconds := by
  have hfraction := readFraction?_fractionText h.nanosecond.1 h.nanosecond.2 []
  have hoffset : readOffset? ['Z'] = some (0, []) := rfl
  simp only [Moment.localChars, List.append_assoc, List.cons_append]
  simp [readTimestamp?, h.readFullDate?_text, h.readTimeOfDay?_text, hfraction, hoffset, h.date,
    Moment.nanoseconds, Moment.seconds, Int.add_assoc]

/-- A timestamp starts with a digit. -/
theorem exists_localChars_eq : ∃ c cs, m.localChars = c :: cs ∧ c.isDigit = true := by
  have hlen := length_padded (show 0 < 4 by decide) h.year.2
  obtain ⟨c, cs, hcs⟩ := List.exists_cons_of_ne_nil (List.ne_nil_of_length_pos (hlen ▸ show 0 < 4 by decide))
  have hdigits := isDigit_padded 4 m.date.year
  rw [hcs, List.all_cons, Bool.and_eq_true] at hdigits
  rw [Moment.localChars, hcs]
  exact ⟨c, _, rfl, hdigits.1⟩

theorem readMoment?_text : readMoment? m.text = int64? m.nanoseconds := by
  obtain ⟨c, cs, hcs, hc⟩ := h.exists_localChars_eq
  have hblank : Text.isBlank c = false := by
    have hrange : 48 ≤ c.toNat ∧ c.toNat ≤ 57 := Char.isDigit_iff_toNat.mp hc
    simp [Text.isBlank]
    omega
  have htrim : Text.trimChars (m.localChars ++ ['Z']) = m.localChars ++ ['Z'] := by
    have hz : Text.isBlank 'Z' = false := rfl
    simp [hcs, Text.trimChars, Text.trimLeft, hblank, hz]
  rw [readMoment?, Moment.text, String.toList_ofList, htrim, h.readTimestamp?_text]

end Moment.Proper

/-! ## The form of a timestamp -/

/-- Whether a character may stand for one of a picture, in which a zero stands for any digit. -/
def Fits (p c : Char) : Prop := if p = '0' then c.isDigit = true else c = p

/-- `YYYY-MM-DDTHH:MM:SS`, then no fraction or one of three, six or nine digits, then `Z`. -/
def IsTimestamp (s : String) : Prop :=
  ∃ fraction ∈ ["", ".000", ".000000", ".000000000"],
    List.Forall₂ Fits ("0000-00-00T00:00:00" ++ fraction ++ "Z").toList s.toList

theorem fits_digits {cs : List Char} (h : cs.all Char.isDigit = true) :
    List.Forall₂ Fits (List.replicate cs.length '0') cs := by
  induction cs with
  | nil => exact .nil
  | cons c cs ih =>
    rw [List.all_cons, Bool.and_eq_true] at h
    exact .cons h.1 (ih h.2)

theorem fits_padded {width : Nat} {n : Int} (hw : 0 < width) (hn : n < 10 ^ width) :
    List.Forall₂ Fits (List.replicate width '0') (padded width n) := by
  have hfits := fits_digits (isDigit_padded width n)
  rwa [length_padded hw hn] at hfits

theorem fits_fractionText {nanosecond : Int} (h1 : nanosecond < 1000000000) :
    ∃ fraction ∈ ["", ".000", ".000000", ".000000000"],
      List.Forall₂ Fits fraction.toList (fractionText nanosecond) := by
  have hpoint : Fits '.' '.' := rfl
  unfold fractionText
  split_ifs with hzero hmilli hmicro
  · exact ⟨"", by simp, .nil⟩
  · exact ⟨".000", by simp, .cons hpoint (fits_padded (show 0 < 3 by decide) (by omega))⟩
  · exact ⟨".000000", by simp, .cons hpoint (fits_padded (show 0 < 6 by decide) (by omega))⟩
  · exact ⟨".000000000", by simp, .cons hpoint (fits_padded (show 0 < 9 by decide) (by omega))⟩

theorem fits_two_digits {n : Int} (hn : n < 100) {ps cs : List Char} (h : List.Forall₂ Fits ps cs) :
    List.Forall₂ Fits ('0' :: '0' :: ps) (padded 2 n ++ cs) :=
  List.rel_append (fits_padded (show 0 < 2 by decide) hn) h

theorem Moment.Proper.isTimestamp_text {m : Moment} (h : m.Proper) : IsTimestamp m.text := by
  have hvalid := of_decide_eq_true h.date
  have hdays := monthDays_le m.date.year m.date.month
  have hdash : Fits '-' '-' := rfl
  have hcolon : Fits ':' ':' := rfl
  have hmark : Fits 'T' 'T' := rfl
  obtain ⟨fraction, hmem, hfraction⟩ := fits_fractionText h.nanosecond.2
  refine ⟨fraction, hmem, ?_⟩
  rw [Moment.text, String.toList_ofList, String.toList_append, String.toList_append]
  refine List.rel_append ?_ (.cons rfl .nil)
  -- from the fraction, part by part to the year
  have hsecond := fits_two_digits (show m.second < 100 by have := h.second; omega) hfraction
  have hminute := fits_two_digits (show m.minute < 100 by have := h.minute; omega) (.cons hcolon hsecond)
  have hhour := fits_two_digits (show m.hour < 100 by have := h.hour; omega) (.cons hcolon hminute)
  have hday := fits_two_digits (show m.date.day < 100 by omega) (.cons hmark hhour)
  have hmonth := fits_two_digits (show m.date.month < 100 by omega) (.cons hdash hday)
  exact List.rel_append (fits_padded (show 0 < 4 by decide) h.year.2) (.cons hdash hmonth)

/-! ## Every point in time has a timestamp of its own -/

theorem isTimestamp_timestamp (ns : Int64) : IsTimestamp (timestamp ns) :=
  (Moment.proper_ofNanoseconds ns).isTimestamp_text

theorem readMoment?_timestamp (ns : Int64) : readMoment? (timestamp ns) = some ns := by
  rw [timestamp, (Moment.proper_ofNanoseconds ns).readMoment?_text, Moment.nanoseconds_ofNanoseconds,
    int64?_toInt]

/-- The text of a point in time is read as the string of its timestamp. -/
theorem ofText?_display_time (ns : Int64) :
    Value.ofText? (Value.time ns).display = some (.string (timestamp ns)) := by
  have hparse := (Json.Exact.string (timestamp ns)).parse?_compact
  rw [Value.ofText?, Value.display, Value.toJson, hparse]
  rfl

/-- Each of the 64-bit numbers of nanoseconds is written as a timestamp that is read as that number, also
where JSON gives the timestamp as a string for a date and time; no two have the same timestamp. -/
theorem timestamp_exact :
    (∀ ns : Int64,
      IsTimestamp (timestamp ns) ∧ readMoment? (timestamp ns) = some ns ∧
        Value.ofText? (Value.time ns).display = some (.string (timestamp ns)) ∧
        coerce .datetime (.string (timestamp ns)) = .time ns) ∧
      Function.Injective timestamp := by
  refine ⟨fun ns => ?_, fun a b hab => ?_⟩
  · have hcoerce : coerce .datetime (.string (timestamp ns)) = .time ns := by
      rw [coerce, readMoment?_timestamp]
    exact ⟨isTimestamp_timestamp ns, readMoment?_timestamp ns, ofText?_display_time ns, hcoerce⟩
  · have hread := readMoment?_timestamp a
    rw [hab, readMoment?_timestamp] at hread
    exact (Option.some.inj hread).symm

example : timestamp (-1) = "1969-12-31T23:59:59.999999999Z" := by decide

example : timestamp 951782400500000000 = "2000-02-29T00:00:00.500Z" := by decide

example : timestamp Int64.minValue = "1677-09-21T00:12:43.145224192Z" := by decide

end Tributary.Time
