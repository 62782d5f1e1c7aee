import Mathlib.Algebra.Ring.Nat
import Mathlib.Data.List.Basic
import Mathlib.Logic.Function.Iterate
import Tributary.Raster

/-!
# Samples and turns of rasters

* `Raster.getElem?_place` : every sample inside a raster is one of its bytes;
* `Raster.ext_sample` : rasters of one shape with the same samples are the same;
* `Raster.sample_tabulate` : a raster has the samples it was made of;
* `Raster.pixel_eq_of_sample` : pixels with the same samples are the same bytes;
* `Raster.data_eq_pixels` : the bytes of a raster are its pixels, row by row;
* `Raster.nearest` : a raster in another size, each pixel of which is the one that it falls on;
* `Raster.nearest_self` : a raster in its own size is itself;
* `Raster.quarterTurn_quarterTurn`, `Raster.quarterTurn_halfTurn`, `Raster.quarterTurn_threeQuarterTurn` : one quarter
  of a turn more;
* `Raster.turn_mod` : turns are quarter turns one after the other;
* `Raster.rotate?_add`, `Raster.rotate?_of_dvd` : turns by degrees add up, and full circles change nothing.
-/

namespace Tributary.Raster

/-! ## Places -/

section Places
variable {x y k w h c i : Nat}

theorem place_lt (hx : x < w) (hy : y < h) (hk : k < c) : (y * w + x) * c + k < w * h * c := by
  have hrow : y * w + x < w * h :=
    calc y * w + x < y * w + w := Nat.add_lt_add_left hx _
      _ = (y + 1) * w := (Nat.succ_mul y w).symm
      _ ≤ h * w := Nat.mul_le_mul_right w hy
      _ = w * h := Nat.mul_comm h w
  calc (y * w + x) * c + k < (y * w + x) * c + c := Nat.add_lt_add_left hk _
    _ = (y * w + x + 1) * c := (Nat.succ_mul _ c).symm
    _ ≤ w * h * c := Nat.mul_le_mul_right c hrow

theorem mul_add_div (hx : x < w) : (y * w + x) / w = y := by
  rw [Nat.mul_comm, Nat.mul_add_div (Nat.zero_lt_of_lt hx), Nat.div_eq_of_lt hx, Nat.add_zero]

/-- Each byte is a channel of a pixel. -/
theorem exists_place (hi : i < w * h * c) : ∃ x y k, x < w ∧ y < h ∧ k < c ∧ (y * w + x) * c + k = i := by
  have hc : 0 < c := Nat.pos_of_mul_pos_left (Nat.zero_lt_of_lt hi)
  have hpixel : i / c < w * h := (Nat.div_lt_iff_lt_mul hc).mpr hi
  have hw : 0 < w := Nat.pos_of_mul_pos_right (Nat.zero_lt_of_lt hpixel)
  refine ⟨i / c % w, i / c / w, i % c, Nat.mod_lt _ hw, ?_, Nat.mod_lt _ hc, ?_⟩
  · exact Nat.div_lt_of_lt_mul hpixel
  · rw [Nat.mul_comm (i / c / w), Nat.div_add_mod, Nat.mul_comm (i / c), Nat.div_add_mod]

end Places

/-! ## Samples -/

section Samples
variable {r s : Raster} {x y k : Nat}

theorem getElem?_place (hx : x < r.width) (hy : y < r.height) (hk : k < r.channels) :
    r.data[(y * r.width + x) * r.channels + k]? = some (r.sample x y k) := by
  have hlt : (y * r.width + x) * r.channels + k < r.data.size := r.size_data ▸ place_lt hx hy hk
  rw [sample, Array.getElem?_eq_getElem hlt]
  rfl

theorem ext_sample (hw : r.width = s.width) (hh : r.height = s.height) (hc : r.channels = s.channels)
    (h : ∀ x y k, x < r.width → y < r.height → k < r.channels → r.sample x y k = s.sample x y k) : r = s := by
  have hsize : r.data.size = s.data.size := by rw [r.size_data, s.size_data, hw, hh, hc]
  have hdata : r.data = s.data := by
    refine Array.ext_getElem? fun i => ?_
    by_cases hi : i < r.data.size
    · obtain ⟨x, y, k, hx, hy, hk, rfl⟩ := exists_place (r.size_data ▸ hi)
      rw [getElem?_place hx hy hk, h x y k hx hy hk, hw, hc]
      exact (getElem?_place (hw ▸ hx) (hh ▸ hy) (hc ▸ hk)).symm
    · rw [Array.getElem?_eq_none (Nat.le_of_not_lt hi), Array.getElem?_eq_none (hsize ▸ Nat.le_of_not_lt hi)]
  obtain ⟨_, _, _, _, _, _, _⟩ := r
  obtain ⟨_, _, _, _, _, _, _⟩ := s
  subst hw hh hc hdata
  rfl

theorem sample_tabulate {w h c : Nat} {pos : 1 ≤ c} {le : c ≤ 4} {f : Nat → Nat → Nat → UInt8} (hx : x < w) (hy : y < h)
    (hk : k < c) : (tabulate w h c pos le f).sample x y k = f x y k := by
  rw [sample, tabulate, Array.getElem?_ofFn, dif_pos (place_lt hx hy hk)]
  simp only [mul_add_div hk, mul_add_div hx, Nat.mul_add_mod_of_lt hk, Nat.mul_add_mod_of_lt hx, Option.getD_some]

def pixel (r : Raster) (x y : Nat) : Array UInt8 :=
  let start := (y * r.width + x) * r.channels
  r.data.extract start (start + r.channels)

/-- A pixel ends inside the bytes. -/
theorem stop_le (hx : x < r.width) (hy : y < r.height) :
    (y * r.width + x) * r.channels + r.channels ≤ r.data.size := by
  have hlast := place_lt hx hy (Nat.sub_one_lt_of_lt r.channels_pos)
  rw [← r.size_data] at hlast
  have hpos := r.channels_pos
  omega

theorem getElem?_pixel (hx : x < r.width) (hy : y < r.height) :
    (r.pixel x y)[k]? = if k < r.channels then some (r.sample x y k) else none := by
  have hstop := stop_le hx hy
  rw [pixel, Array.getElem?_extract, Nat.min_eq_left hstop, Nat.add_sub_cancel_left]
  split
  · exact getElem?_place hx hy ‹_›
  · rfl

theorem pixel_eq_of_sample {x' y' : Nat} (hx : x < r.width) (hy : y < r.height) (hx' : x' < s.width)
    (hy' : y' < s.height) (hc : r.channels = s.channels)
    (h : ∀ k < r.channels, r.sample x y k = s.sample x' y' k) : r.pixel x y = s.pixel x' y' := by
  refine Array.ext_getElem? fun k => ?_
  rw [getElem?_pixel hx hy, getElem?_pixel hx' hy', ← hc]
  split
  · rw [h k ‹_›]
  · rfl

end Samples

/-! ## Pixels row by row -/

theorem flatMap_slices {α : Type} (l : List α) (c n : Nat) :
    (List.range n).flatMap (fun i => (l.drop (i * c)).take c) = l.take (n * c) := by
  induction n with
  | zero => simp
  | succ n ih => simp [List.range_succ, ih, Nat.succ_mul, List.take_add]

theorem toList_pixel (r : Raster) (x y : Nat) :
    (r.pixel x y).toList = (r.data.toList.drop ((y * r.width + x) * r.channels)).take r.channels := by
  simp [pixel, List.extract_eq_take_drop]

theorem data_eq_pixels (r : Raster) :
    r.data.toList = (List.range r.height).flatMap fun y =>
      (List.range r.width).flatMap fun x => (r.pixel x y).toList := by
  have hrow : ∀ y, ((List.range r.width).flatMap fun x => (r.pixel x y).toList) =
      (r.data.toList.drop (y * (r.width * r.channels))).take (r.width * r.channels) := by
    intro y
    rw [← flatMap_slices]
    refine List.flatMap_congr fun x _ => ?_
    rw [toList_pixel, List.drop_drop, Nat.add_mul, Nat.mul_assoc]
  have hlength : r.data.toList.length = r.height * (r.width * r.channels) := by
    rw [Array.length_toList, r.size_data, Nat.mul_comm r.width, Nat.mul_assoc]
  simp only [hrow]
  rw [flatMap_slices, ← hlength, List.take_length]

/-! ## Sizes -/

/-- The dimensions and the number of bytes fit into 64 bits. -/
structure Fits (r : Raster) : Prop where
  width_lt : r.width < 2 ^ 63
  height_lt : r.height < 2 ^ 63
  size_lt : r.width * r.height * r.channels < 2 ^ 64

section Sizes
variable {r : Raster} {w h : Nat}

theorem scaled_lt {x n m : Nat} (hx : x < m) (hn : n ≠ 0) : x * n / m < n := by
  refine Nat.div_lt_of_lt_mul ?_
  exact Nat.mul_lt_mul_of_pos_right hx (Nat.pos_of_ne_zero hn)

/-- The raster in another size, each pixel taken from where it falls in the old one; one without pixels gives a blank
one. -/
def nearest (r : Raster) (width height : Nat) : Raster :=
  tabulate width height r.channels r.channels_pos r.channels_le fun x y k =>
    if r.width = 0 ∨ r.height = 0 then 0 else r.sample (x * r.width / width) (y * r.height / height) k

theorem pixel_nearest {x y : Nat} (hw : r.width ≠ 0) (hh : r.height ≠ 0) (hx : x < w) (hy : y < h) :
    (r.nearest w h).pixel x y = r.pixel (x * r.width / w) (y * r.height / h) := by
  refine pixel_eq_of_sample hx hy (scaled_lt hx hw) (scaled_lt hy hh) rfl fun k (hk : k < r.channels) => ?_
  rw [nearest, sample_tabulate hx hy hk, if_neg (by simp [hw, hh])]

theorem mem_data_nearest_of_empty (hr : r.width = 0 ∨ r.height = 0) : ∀ u ∈ (r.nearest w h).data, u = 0 := by
  intro u hu
  simp only [nearest, tabulate, if_pos hr] at hu
  obtain ⟨_, rfl⟩ := Array.mem_ofFn.mp hu
  rfl

theorem pixel_nearest_of_empty {x y : Nat} (hr : r.width = 0 ∨ r.height = 0) (hx : x < w) (hy : y < h) :
    (r.nearest w h).pixel x y = Array.replicate r.channels 0 := by
  refine Array.ext_getElem? fun k => ?_
  have hpixel : (((r.nearest w h).pixel x y)[k]? : Option UInt8) =
      if k < r.channels then some ((r.nearest w h).sample x y k) else none := getElem?_pixel hx hy
  rw [hpixel, Array.getElem?_replicate]
  split
  · next hk => rw [nearest, sample_tabulate hx hy hk, if_pos hr]
  · rfl

/-- A raster in its own size is itself. -/
theorem nearest_self (hw : r.width ≠ 0) (hh : r.height ≠ 0) : r.nearest r.width r.height = r := by
  refine ext_sample rfl rfl rfl fun x y k (hx : x < r.width) (hy : y < r.height)
    (hk : k < r.channels) => ?_
  rw [nearest, sample_tabulate hx hy hk, if_neg (by simp [hw, hh]), Nat.mul_div_cancel x (Nat.pos_of_ne_zero hw),
    Nat.mul_div_cancel y (Nat.pos_of_ne_zero hh)]

end Sizes

/-! ## Turns -/

section Turns
variable (r : Raster)

theorem sample_quarterTurn {x y k : Nat} (hx : x < r.height) (hy : y < r.width) (hk : k < r.channels) :
    r.quarterTurn.sample x y k = r.sample y (r.height - 1 - x) k :=
  sample_tabulate hx hy hk

theorem sample_halfTurn {x y k : Nat} (hx : x < r.width) (hy : y < r.height) (hk : k < r.channels) :
    r.halfTurn.sample x y k = r.sample (r.width - 1 - x) (r.height - 1 - y) k :=
  sample_tabulate hx hy hk

theorem sample_threeQuarterTurn {x y k : Nat} (hx : x < r.height) (hy : y < r.width) (hk : k < r.channels) :
    r.threeQuarterTurn.sample x y k = r.sample (r.width - 1 - y) x k :=
  sample_tabulate hx hy hk

theorem pixel_quarterTurn {x y : Nat} (hx : x < r.height) (hy : y < r.width) :
    r.quarterTurn.pixel x y = r.pixel y (r.height - 1 - x) := by
  have hback : r.height - 1 - x < r.height := by omega
  exact pixel_eq_of_sample hx hy hy hback rfl fun _ hk => r.sample_quarterTurn hx hy hk

theorem quarterTurn_quarterTurn : r.quarterTurn.quarterTurn = r.halfTurn := by
  refine ext_sample rfl rfl rfl fun x y k (hx : x < r.width) (hy : y < r.height) hk => ?_
  have hback : r.width - 1 - x < r.width := by omega
  calc r.quarterTurn.quarterTurn.sample x y k
    _ = r.quarterTurn.sample y (r.width - 1 - x) k := r.quarterTurn.sample_quarterTurn hx hy hk
    _ = r.sample (r.width - 1 - x) (r.height - 1 - y) k := r.sample_quarterTurn hy hback hk
    _ = r.halfTurn.sample x y k := (r.sample_halfTurn hx hy hk).symm

theorem quarterTurn_halfTurn : r.halfTurn.quarterTurn = r.threeQuarterTurn := by
  refine ext_sample rfl rfl rfl fun x y k (hx : x < r.height) (hy : y < r.width) hk => ?_
  have hback : r.height - 1 - x < r.height := by omega
  calc r.halfTurn.quarterTurn.sample x y k
    _ = r.halfTurn.sample y (r.height - 1 - x) k := r.halfTurn.sample_quarterTurn hx hy hk
    _ = r.sample (r.width - 1 - y) (r.height - 1 - (r.height - 1 - x)) k := r.sample_halfTurn hy hback hk
    _ = r.sample (r.width - 1 - y) x k := by rw [Nat.sub_sub_self (by omega)]
    _ = r.threeQuarterTurn.sample x y k := (r.sample_threeQuarterTurn hx hy hk).symm

theorem quarterTurn_threeQuarterTurn : r.threeQuarterTurn.quarterTurn = r := by
  refine ext_sample rfl rfl rfl fun x y k (hx : x < r.width) (hy : y < r.height) hk => ?_
  have hback : r.width - 1 - x < r.width := by omega
  calc r.threeQuarterTurn.quarterTurn.sample x y k
    _ = r.threeQuarterTurn.sample y (r.width - 1 - x) k := r.threeQuarterTurn.sample_quarterTurn hx hy hk
    _ = r.sample (r.width - 1 - (r.width - 1 - x)) y k := r.sample_threeQuarterTurn hy hback hk
    _ = r.sample x y k := by rw [Nat.sub_sub_self (by omega)]

theorem turn_succ_mod (k : Nat) : r.turn ((k + 1) % 4) = (r.turn (k % 4)).quarterTurn := by
  have hcases : k % 4 = 0 ∨ k % 4 = 1 ∨ k % 4 = 2 ∨ k % 4 = 3 := by omega
  rw [Nat.add_mod]
  rcases hcases with hk | hk | hk | hk <;> rw [hk]
  · rfl
  · exact r.quarterTurn_quarterTurn.symm
  · exact r.quarterTurn_halfTurn.symm
  · exact r.quarterTurn_threeQuarterTurn.symm

/-- Turns are quarter turns one after the other. -/
theorem turn_mod (k : Nat) : r.turn (k % 4) = quarterTurn^[k] r := by
  induction k with
  | zero => rfl
  | succ k ih => rw [turn_succ_mod, ih, Function.iterate_succ_apply']

theorem turn_turn (j k : Nat) : (r.turn (j % 4)).turn (k % 4) = r.turn ((k + j) % 4) := by
  rw [turn_mod, turn_mod, turn_mod, Function.iterate_add_apply]

theorem rotate?_mul (i : Int) : r.rotate? (90 * i) = some (r.turn ((i % 4).toNat % 4)) := by
  have hquarters : (90 * i % 360 / 90).toNat = (i % 4).toNat % 4 := by omega
  rw [rotate?, if_pos (by omega), hquarters]

/-- Full circles change nothing. -/
theorem rotate?_of_dvd {d : Int} (h : 360 ∣ d) : r.rotate? d = some r := by
  have hquarters : d % 360 / 90 = 0 := by omega
  rw [rotate?, if_pos (by omega), hquarters]
  rfl

/-- Turns by degrees add up. -/
theorem rotate?_add {a b : Int} (ha : 90 ∣ a) (hb : 90 ∣ b) :
    (r.rotate? a).bind (fun s => s.rotate? b) = r.rotate? (a + b) := by
  obtain ⟨i, rfl⟩ := ha
  obtain ⟨j, rfl⟩ := hb
  have hquarters : ((j % 4).toNat + (i % 4).toNat) % 4 = ((i + j) % 4).toNat % 4 := by omega
  rw [← Int.mul_add, rotate?_mul, rotate?_mul, Option.bind_some, rotate?_mul, turn_turn, hquarters]

end Turns

end Tributary.Raster
