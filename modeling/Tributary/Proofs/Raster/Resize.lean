import Tributary.Proofs.Raster
import Tributary.Proofs.Words

/-!
# Resizing on machine words

Resizing a raster multiplies and adds places in 64 bits.

* `Raster.exact_resize` : without limit, the bytes are those of the raster in the other size;
* `Raster.run_resize_of_empty` : without pixels every machine that goes on comes to the same bytes;
* `Raster.mem_results_resize` : every product and sum;
* `Raster.fit_resize` : they fit into 64 bits exactly if the last row and the last column do.
-/

namespace Tributary.Raster

section Resize
variable {r : Raster} {w h x y : Nat}

/-! ## What comes out -/

theorem exact_pixelBytes (hx : x < r.width) (hy : y < r.height) : (r.pixelBytes x y).exact = some (r.pixel x y) := by
  have hslice : ∀ word, (Words.slice r.data ((y * r.width + x) * r.channels)
      ((y * r.width + x) * r.channels + r.channels)).run word = some (r.pixel x y) :=
    fun word => Words.run_slice word ⟨Nat.le_add_right _ _, stop_le hx hy⟩
  simp [pixelBytes, Words.exact, hslice]

theorem exact_resizeColumn (hx : x < w) (hy : y < h) (data : Array UInt8) :
    (r.resizeColumn w h (y * r.height) x data).exact = some (data ++ (r.nearest w h).pixel x y) := by
  rw [resizeColumn, Words.exact, Words.run_bind, Words.run_mul, Option.bind_some]
  split
  · next hempty => rw [Words.run_pure, pixel_nearest_of_empty hempty hx hy]
  · next hfull =>
    obtain ⟨hrw, hrh⟩ := not_or.mp hfull
    have hpixel : (r.pixelBytes (x * r.width / w) (y * r.height / h)).run some = _ :=
      exact_pixelBytes (scaled_lt hx hrw) (scaled_lt hy hrh)
    rw [Words.run_bind, hpixel, Option.bind_some, Words.run_pure, pixel_nearest hrw hrh hx hy]

def nearestRow (r : Raster) (w h y : Nat) (data : Array UInt8) : Array UInt8 :=
  (List.range' 0 w).foldl (fun data x => data ++ (r.nearest w h).pixel x y) data

theorem exact_resizeRow (hy : y < h) (data : Array UInt8) :
    (r.resizeRow w h y data).exact = some (r.nearestRow w h y data) := by
  rw [resizeRow, Words.exact, Words.run_bind, Words.run_mul, Option.bind_some]
  exact Words.run_each fun x hx => exact_resizeColumn (by simpa using hx) hy

/-- The rows of the raster in the other size are its bytes. -/
theorem foldl_nearestRow (r : Raster) (w h : Nat) :
    (List.range' 0 h).foldl (fun data y => r.nearestRow w h y data) #[] = (r.nearest w h).data := by
  have hrows : (fun data y => r.nearestRow w h y data)
      = fun data y => data ++ (List.range' 0 w).foldl (fun data x => data ++ (r.nearest w h).pixel x y) #[] := by
    funext data y
    apply Array.toList_inj.mp
    rw [nearestRow, Array.toList_append, Words.toList_foldl_append, Words.toList_foldl_append, Array.toList_empty,
      List.nil_append]
  apply Array.toList_inj.mp
  rw [hrows, Words.toList_foldl_append, data_eq_pixels (r.nearest w h)]
  simp only [Words.toList_foldl_append, List.nil_append, ← List.range_eq_range']
  rfl

theorem exact_resize : (r.resize w h).exact = some (r.nearest w h).data := by
  rw [resize, Words.exact, Words.run_bind, Words.run_mul, Option.bind_some, Words.run_bind, Words.run_mul,
    Option.bind_some, ← foldl_nearestRow]
  exact Words.run_each fun y hy => exact_resizeRow (by simpa using hy)

/-- Without pixels nothing depends on the products. -/
theorem run_resize_of_empty (hr : r.width = 0 ∨ r.height = 0) (f : Nat → Nat) :
    (r.resize w h).run (fun n => some (f n)) = some (r.nearest w h).data := by
  have hcolumn : ∀ y ∈ List.range' 0 h, ∀ down, ∀ x ∈ List.range' 0 w, ∀ data,
      (r.resizeColumn w h down x data).run (fun n => some (f n)) = some (data ++ (r.nearest w h).pixel x y) := by
    intro y hy down x hx data
    rw [resizeColumn, Words.run_bind, Words.run_mul, Option.bind_some, if_pos hr, Words.run_pure,
      pixel_nearest_of_empty hr (by simpa using hx) (by simpa using hy)]
  have hrow : ∀ y ∈ List.range' 0 h, ∀ data,
      (r.resizeRow w h y data).run (fun n => some (f n)) = some (r.nearestRow w h y data) := by
    intro y hy data
    rw [resizeRow, Words.run_bind, Words.run_mul, Option.bind_some]
    exact Words.run_each (hcolumn y hy _)
  rw [resize, Words.run_bind, Words.run_mul, Option.bind_some, Words.run_bind, Words.run_mul, Option.bind_some,
    ← foldl_nearestRow]
  exact Words.run_each hrow

/-! ## The products and sums -/

theorem results_pixelBytes (x y : Nat) : (r.pixelBytes x y).results =
    [y * r.width, y * r.width + x, (y * r.width + x) * r.channels, (y * r.width + x) * r.channels + r.channels] := by
  rw [pixelBytes, Words.results_bind _ rfl, Words.results_bind _ rfl, Words.results_bind _ rfl,
    Words.results_bind _ rfl, Words.results_slice]
  rfl

theorem results_resizeColumn (hx : x < w) (hy : y < h) (data : Array UInt8) :
    (r.resizeColumn w h (y * r.height) x data).results = x * r.width ::
      if r.width = 0 ∨ r.height = 0 then []
      else (r.pixelBytes (x * r.width / w) (y * r.height / h)).results := by
  rw [resizeColumn, Words.results_bind _ rfl]
  split
  · rfl
  · next hfull =>
    obtain ⟨hrw, hrh⟩ := not_or.mp hfull
    rw [Words.results_bind _ (exact_pixelBytes (scaled_lt hx hrw) (scaled_lt hy hrh)), Words.results_pure,
      List.append_nil]
    rfl

theorem results_resizeRow (hy : y < h) (data : Array UInt8) :
    (r.resizeRow w h y data).results = y * r.height :: (List.range' 0 w).flatMap fun x => x * r.width ::
      if r.width = 0 ∨ r.height = 0 then []
      else (r.pixelBytes (x * r.width / w) (y * r.height / h)).results := by
  rw [resizeRow, Words.results_bind _ rfl, Words.results_mul, List.singleton_append]
  refine congrArg _ (Words.results_each (fun x hx => exact_resizeColumn ?_ hy) fun x hx => results_resizeColumn ?_ hy)
  all_goals simpa using hx

/-- Every product and sum of resizing. -/
theorem mem_results_resize {n : Nat} : n ∈ (r.resize w h).results ↔
    n = w * h ∨ n = w * h * r.channels ∨ ∃ y < h, n = y * r.height ∨ ∃ x < w, n = x * r.width ∨
      ¬ (r.width = 0 ∨ r.height = 0) ∧ n ∈ (r.pixelBytes (x * r.width / w) (y * r.height / h)).results := by
  have hresults : (r.resize w h).results = [w * h, w * h * r.channels] ++ (List.range' 0 h).flatMap fun y =>
      y * r.height :: (List.range' 0 w).flatMap fun x => x * r.width ::
        if r.width = 0 ∨ r.height = 0 then []
        else (r.pixelBytes (x * r.width / w) (y * r.height / h)).results := by
    rw [resize, Words.results_bind _ rfl, Words.results_bind _ rfl]
    refine congrArg ([w * h, w * h * r.channels] ++ ·) ?_
    refine Words.results_each (fun y hy => exact_resizeRow ?_) fun y hy => results_resizeRow ?_
    all_goals simpa using hy
  rw [hresults]
  by_cases hempty : r.width = 0 ∨ r.height = 0
  · simp [hempty, ← List.range_eq_range']
  · simp [hempty, ← List.range_eq_range']

/-- Inside a raster that fits, the places of a pixel fit. -/
theorem fit_pixelBytes (hr : r.Fits) (hx : x < r.width) (hy : y < r.height) : (r.pixelBytes x y).Fit := by
  have hstop := stop_le hx hy
  have hstart : y * r.width + x ≤ (y * r.width + x) * r.channels := Nat.le_mul_of_pos_right _ r.channels_pos
  have hsize := hr.size_lt
  rw [r.size_data] at hstop
  intro n hn
  rw [results_pixelBytes] at hn
  simp only [List.mem_cons, List.not_mem_nil, or_false] at hn
  rcases hn with rfl | rfl | rfl | rfl <;> omega

/-- A raster of a size that is allowed fits. -/
theorem nearest_fits (hw : w ≤ 16384) (hh : h ≤ 16384) : (r.nearest w h).Fits := by
  have harea : w * h ≤ 16384 * 16384 := Nat.mul_le_mul hw hh
  have hsize : w * h * r.channels ≤ 16384 * 16384 * 4 := Nat.mul_le_mul harea r.channels_le
  exact ⟨Nat.lt_of_le_of_lt hw (by decide), Nat.lt_of_le_of_lt hh (by decide), Nat.lt_of_le_of_lt hsize (by decide)⟩

/-- All products and sums fit exactly if the last row and the last column do. -/
theorem fit_resize (hr : r.Fits) (hw : 1 ≤ w) (hw' : w ≤ 16384) (hh : 1 ≤ h) (hh' : h ≤ 16384) :
    (r.resize w h).Fit ↔ (w - 1) * r.width < 2 ^ 64 ∧ (h - 1) * r.height < 2 ^ 64 := by
  constructor
  · intro hfit
    refine ⟨hfit _ (mem_results_resize.mpr ?_), hfit _ (mem_results_resize.mpr ?_)⟩
    · exact .inr (.inr ⟨0, by omega, .inr ⟨w - 1, by omega, .inl rfl⟩⟩)
    · exact .inr (.inr ⟨h - 1, by omega, .inl rfl⟩)
  · rintro ⟨hright, hdown⟩ n hn
    have hsize : w * h * r.channels < 2 ^ 64 := (nearest_fits hw' hh' : (r.nearest w h).Fits).size_lt
    rcases mem_results_resize.mp hn with rfl | rfl | ⟨y, hy, rfl | ⟨x, hx, rfl | ⟨hfull, hn⟩⟩⟩
    · exact Nat.lt_of_le_of_lt (Nat.le_mul_of_pos_right _ r.channels_pos) hsize
    · exact hsize
    · exact Nat.lt_of_le_of_lt (Nat.mul_le_mul_right _ (by omega)) hdown
    · exact Nat.lt_of_le_of_lt (Nat.mul_le_mul_right _ (by omega)) hright
    · obtain ⟨hrw, hrh⟩ := not_or.mp hfull
      exact fit_pixelBytes hr (scaled_lt hx hrw) (scaled_lt hy hrh) n hn

/-- They do where there are pixels, and up to `2 ^ 50` bytes of them. -/
theorem last_fits_of_pixels (hrw : r.width ≠ 0) (hrh : r.height ≠ 0) (hdata : r.data.size ≤ 2 ^ 50) (hw' : w ≤ 16384)
    (hh' : h ≤ 16384) : (w - 1) * r.width < 2 ^ 64 ∧ (h - 1) * r.height < 2 ^ 64 := by
  rw [r.size_data] at hdata
  have harea : r.width * r.height ≤ 2 ^ 50 := Nat.le_trans (Nat.le_mul_of_pos_right _ r.channels_pos) hdata
  have hwidth : r.width ≤ 2 ^ 50 := Nat.le_trans (Nat.le_mul_of_pos_right _ (Nat.pos_of_ne_zero hrh)) harea
  have hheight : r.height ≤ 2 ^ 50 := Nat.le_trans (Nat.le_mul_of_pos_left _ (Nat.pos_of_ne_zero hrw)) harea
  have hlast : ∀ n m : Nat, n ≤ 16384 → m ≤ 2 ^ 50 → (n - 1) * m < 2 ^ 64 := by
    intro n m hn hm
    exact Nat.lt_of_le_of_lt (Nat.mul_le_mul (show n - 1 ≤ 16383 by omega) hm) (by decide)
  exact ⟨hlast w _ hw' hwidth, hlast h _ hh' hheight⟩

end Resize

end Tributary.Raster
