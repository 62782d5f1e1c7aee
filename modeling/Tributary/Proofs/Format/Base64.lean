import Mathlib.Algebra.Ring.Nat
import Tributary.Format.Base64

/-!
# Base64 texts

What the text of a byte string is, apart from how it is made, and that reading gets the byte string back.

* `Base64.digits` : the numbers below 64 that a byte string is regrouped into;
* `Base64.foldl_digits` : they write the same number as the bytes, with two zero bits for each padding character;
* `Base64.Written data cs` : `cs` is the text of `data` by the standard; `Base64.written_encode` : the text is;
* `Base64.decode_encode` : a text is read back.
-/

namespace Tributary.Base64

/-! ## The standard -/

/-- The symbols in the order of the numbers that they stand for. -/
def alphabet : List Char := "ABCDEFGHIJKLMNOPQRSTUVWXYZabcdefghijklmnopqrstuvwxyz0123456789+/".toList

/-- How many padding characters fill up the last group of a byte string. -/
def fill (data : List UInt8) : Nat := (3 - data.length % 3) % 3

/-- The text of a byte string: symbols and padding make up groups of four, one for each three bytes or less, and what
the symbols write in base 64 is what the bytes write in base 256, moved up by two bits for each padding character. -/
def Written (data : List UInt8) (cs : List Char) : Prop :=
  ∃ ds : List Nat, (∀ d ∈ ds, d < 64) ∧
    cs = ds.map (fun d => alphabet.getD d '=') ++ List.replicate (fill data) '=' ∧
    cs.length = 4 * ((data.length + 2) / 3) ∧
    ds.foldl (fun n d => n * 64 + d) 0 = data.foldl (fun n b => n * 256 + b.toNat) 0 * 4 ^ fill data

theorem digit_eq_alphabet : ∀ {n : Nat}, n < 64 → digit n = alphabet.getD n '=' := by decide

/-! ## Writing -/

def digits : List UInt8 → List Nat
  | [] => []
  | [a] => [a.toNat * 16 / 64, a.toNat * 16 % 64]
  | [a, b] =>
    let n := (a.toNat * 256 + b.toNat) * 4
    [n / 4096, n / 64 % 64, n % 64]
  | a :: b :: c :: rest =>
    let n := (a.toNat * 256 + b.toNat) * 256 + c.toNat
    n / 262144 :: n / 4096 % 64 :: n / 64 % 64 :: n % 64 :: digits rest

theorem fill_cons (a b c : UInt8) (rest : List UInt8) : fill (a :: b :: c :: rest) = fill rest := by
  simp only [fill, List.length_cons]
  omega

theorem encode_eq (data : List UInt8) : encode data = (digits data).map digit ++ List.replicate (fill data) '=' := by
  fun_induction digits data with
  | case1 => rfl
  | case2 a => rfl
  | case3 a b n => rfl
  | case4 a b c rest n ih => rw [encode, ih, fill_cons]; rfl

theorem length_encode (data : List UInt8) : (encode data).length = 4 * ((data.length + 2) / 3) := by
  fun_induction encode data with
  | case1 => rfl
  | case2 a => simp
  | case3 a b => simp
  | case4 a b c rest n ih =>
    simp only [List.length_cons, ih]
    omega

theorem digits_lt (data : List UInt8) : ∀ d ∈ digits data, d < 64 := by
  fun_induction digits data with
  | case1 => exact List.forall_mem_nil _
  | case2 a =>
    have ha := a.toNat_lt
    refine List.forall_mem_cons.mpr ⟨by omega, List.forall_mem_singleton.mpr (by omega)⟩
  | case3 a b n =>
    have ha := a.toNat_lt
    have hb := b.toNat_lt
    refine List.forall_mem_cons.mpr ⟨by omega, List.forall_mem_cons.mpr ⟨by omega, ?_⟩⟩
    exact List.forall_mem_singleton.mpr (by omega)
  | case4 a b c rest n ih =>
    have ha := a.toNat_lt
    have hb := b.toNat_lt
    have hc := c.toNat_lt
    simp only [List.forall_mem_cons]
    exact ⟨by omega, by omega, by omega, by omega, ih⟩

/-- Regrouping keeps the number that the bytes write, whatever stands before it, up to two bits for each padding
character. -/
theorem foldl_digits (data : List UInt8) (start : Nat) :
    (digits data).foldl (fun n d => n * 64 + d) start =
      data.foldl (fun n b => n * 256 + b.toNat) start * 4 ^ fill data := by
  fun_induction digits data generalizing start with
  | case1 => simp [fill]
  | case2 a =>
    have hfill : 4 ^ fill [a] = 16 := by simp [fill]
    simp only [List.foldl_cons, List.foldl_nil, hfill]
    omega
  | case3 a b n =>
    have hfill : 4 ^ fill [a, b] = 4 := by simp [fill]
    simp only [List.foldl_cons, List.foldl_nil, hfill]
    omega
  | case4 a b c rest n ih =>
    have hstart : (((start * 64 + n / 262144) * 64 + n / 4096 % 64) * 64 + n / 64 % 64) * 64 + n % 64 =
        ((start * 256 + a.toNat) * 256 + b.toNat) * 256 + c.toNat := by omega
    simp only [List.foldl_cons]
    rw [hstart, ih, fill_cons]

theorem written_encode (data : List UInt8) : Written data (encode data) := by
  refine ⟨digits data, digits_lt data, ?_, length_encode data, foldl_digits data 0⟩
  have hmap : (digits data).map digit = (digits data).map fun d => alphabet.getD d '=' :=
    List.map_congr_left fun d hd => digit_eq_alphabet (digits_lt data d hd)
  rw [encode_eq, hmap]

/-! ## Reading back -/

theorem ofChar_digit : ∀ {n : Nat}, n < 64 → (digit n).toNat < 128 ∧ Symbol.ofChar (digit n) = .bits n := by decide

theorem symbols_cons {c : Char} (h : c.toNat < 128) (cs : List Char) :
    symbols (c :: cs) = Symbol.ofChar c :: symbols cs := by
  rw [symbols, List.flatMap_cons, if_pos h]
  rfl

theorem symbols_map_digit {ds : List Nat} (h : ∀ d ∈ ds, d < 64) (cs : List Char) :
    symbols (ds.map digit ++ cs) = ds.map .bits ++ symbols cs := by
  induction ds with
  | nil => rfl
  | cons d ds ih =>
    obtain ⟨hd, hds⟩ := List.forall_mem_cons.mp h
    obtain ⟨hascii, hbits⟩ := ofChar_digit hd
    rw [List.map_cons, List.cons_append, symbols_cons hascii, hbits, ih hds]
    rfl

theorem symbols_padding (k : Nat) : symbols (List.replicate k '=') = List.replicate k .padding := by
  induction k with
  | zero => rfl
  | succ k ih =>
    rw [List.replicate_succ, symbols_cons (by decide), ih]
    rfl

/-- The symbols of a text are the numbers that were written. -/
theorem symbols_encode (data : List UInt8) :
    symbols (encode data) = (digits data).map .bits ++ List.replicate (fill data) .padding := by
  rw [encode_eq, symbols_map_digit (digits_lt data), symbols_padding]

theorem ofNat_eq {n : Nat} {a : UInt8} (h : n = a.toNat) : UInt8.ofNat n = a := by
  rw [h, UInt8.ofNat_toNat]

/-- A byte comes back from two symbols, and no bit is left over. -/
theorem decodeGroup_one (position : Nat) {a : UInt8} {n : Nat} (hn : n = a.toNat * 16) :
    decodeGroup position [.bits (n / 64), .bits (n % 64), .padding, .padding] = .ok [a] := by
  have ha : n / 64 * 4 + n % 64 / 16 = a.toNat := by omega
  have hleft : n % 64 % 16 = 0 := by omega
  rw [show decodeGroup position _ = if _ then .ok [_] else _ from rfl, if_pos hleft, ofNat_eq ha]

/-- Two bytes come back from three symbols, and no bit is left over. -/
theorem decodeGroup_two (position : Nat) {a b : UInt8} {n : Nat} (hn : n = (a.toNat * 256 + b.toNat) * 4) :
    decodeGroup position [.bits (n / 4096), .bits (n / 64 % 64), .bits (n % 64), .padding] = .ok [a, b] := by
  have hlt := b.toNat_lt
  have ha : n / 4096 * 4 + n / 64 % 64 / 16 = a.toNat := by omega
  have hb : n / 64 % 64 % 16 * 16 + n % 64 / 4 = b.toNat := by omega
  have hleft : n % 64 % 4 = 0 := by omega
  rw [show decodeGroup position _ = if _ then .ok [_, _] else _ from rfl, if_pos hleft, ofNat_eq ha, ofNat_eq hb]

/-- Three bytes come back from four symbols. -/
theorem decodeGroup_three (position : Nat) {a b c : UInt8} {n : Nat}
    (hn : n = (a.toNat * 256 + b.toNat) * 256 + c.toNat) :
    decodeGroup position [.bits (n / 262144), .bits (n / 4096 % 64), .bits (n / 64 % 64), .bits (n % 64)] =
      .ok [a, b, c] := by
  have hb' := b.toNat_lt
  have hc' := c.toNat_lt
  have ha : n / 262144 * 4 + n / 4096 % 64 / 16 = a.toNat := by omega
  have hb : n / 4096 % 64 % 16 * 16 + n / 64 % 64 / 4 = b.toNat := by omega
  have hc : n / 64 % 64 % 4 * 64 + n % 64 = c.toNat := by omega
  rw [show decodeGroup position _ = .ok [_, _, _] from rfl, ofNat_eq ha, ofNat_eq hb, ofNat_eq hc]

/-- Group by group the bytes come back, wherever the text starts. -/
theorem decodeGroups_digits (data : List UInt8) (position : Nat) :
    decodeGroups position ((digits data).map .bits ++ List.replicate (fill data) .padding) = .ok data := by
  fun_induction digits data generalizing position with
  | case1 => rfl
  | case2 a =>
    show decodeGroup position _ >>= _ = _
    rw [decodeGroup_one position rfl]
    rfl
  | case3 a b n =>
    show decodeGroup position _ >>= _ = _
    rw [decodeGroup_two position rfl]
    rfl
  | case4 a b c rest n ih =>
    simp only [fill_cons, List.map_cons, List.cons_append]
    rw [decodeGroups, decodeGroup_three position rfl, ih]
    rfl

/-- A text is read back. -/
theorem decode_encode (data : List UInt8) : decode (encode data) = .ok data := by
  have hlength : (symbols (encode data)).length = (encode data).length := by
    rw [symbols_encode, encode_eq, List.length_append, List.length_append, List.length_map, List.length_map,
      List.length_replicate, List.length_replicate]
  have hgroups : (symbols (encode data)).length % 4 = 0 := by
    rw [hlength, length_encode]
    omega
  rw [decode, if_pos hgroups, symbols_encode, decodeGroups_digits]

end Tributary.Base64
