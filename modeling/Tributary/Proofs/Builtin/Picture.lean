import Mathlib.Algebra.Ring.Nat
import Tributary.Builtin.Apply
import Tributary.Proofs.Checked
import Tributary.Proofs.Raster

/-!
# Pictures turned

* `Raster.Fits.turn` : a raster that fits still does when it is turned;
* `Builtin.takeRaster_fits` : the raster of an accepted picture fits;
* `Builtin.takeRaster_toValue` : the picture of a raster that fits is accepted as that raster;
* `Builtin.runRotate_eq` : the outcome on accepted pictures;
* `Builtin.imageRotate_action` : turns by right angles act on pictures.
-/

namespace Tributary

/-! ## Rasters that fit -/

namespace Raster

section Fits
variable {r : Raster}

theorem Fits.quarterTurn (h : r.Fits) : r.quarterTurn.Fits := by
  refine ⟨h.height_lt, h.width_lt, ?_⟩
  have hsize := h.size_lt
  rwa [Nat.mul_comm r.width] at hsize

theorem Fits.turn (h : r.Fits) (k : Nat) : (r.turn (k % 4)).Fits := by
  rw [turn_mod]
  induction k with
  | zero => exact h
  | succ k ih =>
    rw [Function.iterate_succ_apply']
    exact ih.quarterTurn

theorem channels_turn (r : Raster) (k : Nat) : (r.turn k).channels = r.channels := by
  unfold turn
  split <;> rfl

end Fits

end Raster

/-! ## Pictures -/

namespace Builtin

theorem number_ofNat_eq_int {n : Nat} {m : Int64} (h : int64? n = some m) : Number.ofNat n = .int m := by
  -- Unfolded as a function: applied to `n`, checking the step would count down from the bounds in `int64?`.
  have hdef : Number.ofNat = Number.ofNat := rfl
  conv at hdef => rhs; delta Number.ofNat
  rw [hdef]
  simp only [h]

theorem ofNat_eq_int {n : Nat} (h : n < 2 ^ 63) : ∃ m : Int64, Value.ofNat n = .number (.int m) ∧ m.toInt = n := by
  have hrange : -0x8000000000000000 ≤ (n : Int) ∧ (n : Int) < 0x8000000000000000 := by omega
  have hint : int64? n = some (Int64.ofInt n) := by rw [int64?, if_pos hrange]
  have hof : Value.ofNat n = .number (.int (Int64.ofInt n)) := by rw [Value.ofNat, number_ofNat_eq_int hint]
  exact ⟨_, hof, Int64.toInt_ofInt_of_le (by omega) (by omega)⟩

section Dimension
variable {b : Builtin} {v : Value} {name : String} {n : Nat}

theorem takeDimension_lt (h : b.takeDimension v name = .ok n) : n < 2 ^ 63 := by
  obtain ⟨m, -, h⟩ := bind_eq_ok.mp h
  have hlt := m.toInt_lt
  split at h
  · cases h
    omega
  · cases h

theorem takeDimension_ofNat (hv : v.field name = .ofNat n) (hn : n < 2 ^ 63) : b.takeDimension v name = .ok n := by
  obtain ⟨m, hm, hint⟩ := ofNat_eq_int hn
  refine bind_eq_ok.mpr ⟨m, ?_, ?_⟩
  · rw [hv, hm]
    rfl
  · rw [if_pos (by omega), hint, Int.toNat_natCast]

end Dimension

theorem pictureSize?_of_lt {w h c : Nat} (hc : 1 ≤ c) (hsize : w * h * c < 2 ^ 64) :
    pictureSize? w h c = some (w * h * c) := by
  have harea : w * h < Nat.pow 2 64 := Nat.lt_of_le_of_lt (Nat.le_mul_of_pos_right _ hc) hsize
  rw [pictureSize?, product64?, if_pos harea, Option.bind_some]
  exact if_pos hsize

section TakeRaster
variable {b : Builtin} {v : Value} {r : Raster}

theorem takeRaster_fits (h : b.takeRaster v = .ok r) : r.Fits := by
  cases v with
  | object fs =>
    obtain ⟨w, hw, h⟩ := bind_eq_ok.mp h
    obtain ⟨hgt, hh, h⟩ := bind_eq_ok.mp h
    obtain ⟨c, hc, h⟩ := bind_eq_ok.mp h
    split at h
    · obtain ⟨data, -, h⟩ := bind_eq_ok.mp h
      split at h
      case isTrue hsize =>
        cases h
        obtain ⟨heq, hlt⟩ := pictureSize?_eq_some hsize
        exact ⟨takeDimension_lt hw, takeDimension_lt hh, heq ▸ hlt⟩
      case isFalse => cases h
    · cases h
  | _ => cases h

/-- The picture of a raster is accepted as that raster. -/
theorem takeRaster_toValue (h : r.Fits) : b.takeRaster r.toValue = .ok r := by
  have hsize : pictureSize? r.width r.height r.channels = some r.data.toList.toArray.size := by
    rw [Array.toArray_toList, r.size_data]
    exact pictureSize?_of_lt r.channels_pos h.size_lt
  have hchannels : r.channels < 2 ^ 63 := Nat.lt_of_le_of_lt r.channels_le (by decide)
  refine bind_eq_ok.mpr ⟨_, takeDimension_ofNat rfl h.width_lt, bind_eq_ok.mpr ⟨_, takeDimension_ofNat rfl h.height_lt,
    bind_eq_ok.mpr ⟨_, takeDimension_ofNat rfl hchannels, ?_⟩⟩⟩
  rw [dif_pos ⟨r.channels_pos, r.channels_le⟩]
  refine bind_eq_ok.mpr ⟨r.data.toList, rfl, ?_⟩
  rw [dif_pos hsize]

theorem takeRaster_ne_null (h : b.takeRaster v = .ok r) : v ≠ .null := by
  rintro rfl
  cases h

end TakeRaster

/-! ## Turning -/

section Rotate
variable {v : Value} {r s : Raster}

theorem runRotate_eq {d : Int64} (hr : imageRotate.takeRaster v = .ok r) (hs : r.rotate? d.toInt = some s) :
    runRotate v (.number (.int d)) = .ok s.toValue := by
  rw [runRotate]
  · refine bind_eq_ok.mpr ⟨r, hr, bind_eq_ok.mpr ⟨d, rfl, ?_⟩⟩
    rw [hs]
    rfl
  · exact takeRaster_ne_null hr

/-- A turn by whole quarters keeps the channels and fits where the raster did. -/
theorem exists_rotate {d : Int} (hr : r.Fits) (hd : 90 ∣ d) :
    ∃ s, r.rotate? d = some s ∧ s.Fits ∧ s.channels = r.channels := by
  obtain ⟨i, rfl⟩ := hd
  exact ⟨_, r.rotate?_mul i, hr.turn _, r.channels_turn _⟩

end Rotate

/-- Turning a picture by a right angle puts at column `x` of row `y` what was at column `y` of row `x` from below. Turns
by whole right angles, to either side, add up and come back to the picture after a full circle. What comes out is a
picture again, with as many channels. -/
theorem imageRotate_action (c : Call) (v : Value) (r : Raster) (hr : imageRotate.takeRaster v = .ok r) :
    let rotate (v : Value) (d : Int64) : Outcome := imageRotate.apply { c with values := [v, .number (.int d)] }
    (∃ s : Raster, rotate v 90 = .ok s.toValue ∧ s.width = r.height ∧ s.height = r.width ∧
      ∀ x y, x < s.width → y < s.height → s.pixel x y = r.pixel y (r.height - 1 - x)) ∧
    (∀ a b d : Int64, 90 ∣ a.toInt → 90 ∣ b.toInt → a.toInt + b.toInt = d.toInt →
      ∃ w, rotate v a = .ok w ∧ rotate w b = rotate v d) ∧
    (∀ d : Int64, 360 ∣ d.toInt → rotate v d = .ok r.toValue) ∧
    ∀ d : Int64, 90 ∣ d.toInt →
      ∃ s : Raster, rotate v d = .ok s.toValue ∧ s.channels = r.channels ∧ ∀ b, takeRaster b s.toValue = .ok s := by
  intro rotate
  have hfits := takeRaster_fits hr
  refine ⟨?_, ?_, ?_, ?_⟩
  · exact ⟨r.quarterTurn, runRotate_eq hr rfl, rfl, rfl, fun x y hx hy => r.pixel_quarterTurn hx hy⟩
  · intro a b d ha hb hd
    obtain ⟨s, hs, hsfits, -⟩ := exists_rotate hfits ha
    obtain ⟨t, ht, -, -⟩ := exists_rotate hsfits hb
    have hsum : r.rotate? d.toInt = some t := by
      rw [← hd, ← r.rotate?_add ha hb, hs]
      exact ht
    have hfirst := runRotate_eq hr hs
    have hsecond := runRotate_eq (takeRaster_toValue hsfits) ht
    exact ⟨s.toValue, hfirst, hsecond.trans (runRotate_eq hr hsum).symm⟩
  · exact fun d hd => runRotate_eq hr (r.rotate?_of_dvd hd)
  · intro d hd
    obtain ⟨s, hs, hsfits, hchannels⟩ := exists_rotate hfits hd
    exact ⟨s, runRotate_eq hr hs, hchannels, fun b => takeRaster_toValue hsfits⟩

/-- Two rows of three pixels in red, green and blue, no two bytes of which are the same. -/
def tiles : Raster := .tabulate 3 2 3 (by decide) (by decide) fun x y k => UInt8.ofNat (9 * y + 3 * x + k)

theorem takeRaster_tiles (b : Builtin) : b.takeRaster tiles.toValue = .ok tiles :=
  takeRaster_toValue ⟨by decide, by decide, by decide⟩

/-- Tiles turned by a right angle, and to the left and back by a full circle and more. -/
theorem imageRotate_tiles :
    let rotate (v : Value) (d : Int64) : Outcome :=
      imageRotate.apply { values := [v, .number (.int d)], invoke := fun _ _ => .ok .null, now := 0 }
    (∃ s : Raster, rotate tiles.toValue 90 = .ok s.toValue ∧ s.pixel 1 2 = tiles.pixel 2 0) ∧
    ∃ w, rotate tiles.toValue (-90) = .ok w ∧ rotate w 450 = .ok tiles.toValue := by
  intro rotate
  obtain ⟨hright, hadd, hfull, -⟩ :=
    imageRotate_action ⟨[], fun _ _ => .ok .null, 0⟩ tiles.toValue tiles (takeRaster_tiles _)
  constructor
  · obtain ⟨s, hs, hwidth, hheight, hpixel⟩ := hright
    exact ⟨s, hs, hpixel 1 2 (hwidth ▸ by decide) (hheight ▸ by decide)⟩
  · obtain ⟨w, hw, hback⟩ := hadd (-90) 450 360 (by decide) (by decide) (by decide)
    exact ⟨w, hw, hback.trans (hfull 360 (by decide))⟩

end Builtin

end Tributary
