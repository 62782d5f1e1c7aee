import Tributary.Proofs.Builtin.Picture
import Tributary.Proofs.Raster.Resize

/-!
# Pictures resized

* `Builtin.runResize_of_fit`, `Builtin.runResize_of_not_fit` : the outcomes on accepted pictures and sizes;
* `Builtin.imageResize_nearest` : a resized picture has each pixel from where it falls;
* `Builtin.imageResize_words` : which of the products and sums fit into 64 bits, and what comes out if one does not;
* `Builtin.ribbon` : a picture without pixels on which one does not.
-/

namespace Tributary.Builtin

/-! ## Sizes -/

theorem takeSize_ofNat {n : Nat} (hpos : 1 ≤ n) (hle : n ≤ 16384) : takeSize (.ofNat n) = .ok n := by
  obtain ⟨m, hm, hint⟩ := ofNat_eq_int (Nat.lt_of_le_of_lt hle (by decide))
  refine bind_eq_ok.mpr ⟨m, ?_, ?_⟩
  · rw [hm]
    rfl
  · rw [if_pos (by omega), hint, Int.toNat_natCast]

theorem takeSize_bounds {v : Value} {n : Nat} (h : takeSize v = .ok n) : 1 ≤ n ∧ n ≤ 16384 := by
  obtain ⟨m, -, h⟩ := bind_eq_ok.mp h
  split at h
  · cases h
    omega
  · cases h

/-! ## Outcomes -/

section Outcomes
variable {v width height : Value} {r : Raster} {w h : Nat}

theorem runResize_of_takes (hr : imageResize.takeRaster v = .ok r) (hw : takeSize width = .ok w)
    (hh : takeSize height = .ok h) : runResize v width height =
      (r.resize w h).checked.elim (.error (.overflow imageResize.name)) fun data =>
        .ok (pictureOf w h r.channels data) := by
  rw [runResize, hr, hw, hh]
  · cases hdata : (r.resize w h).checked <;> simp only [Except.bind, bind, hdata] <;> rfl
  · exact takeRaster_ne_null hr

theorem runResize_of_fit (hr : imageResize.takeRaster v = .ok r) (hw : takeSize width = .ok w)
    (hh : takeSize height = .ok h) (hfit : (r.resize w h).Fit) :
    runResize v width height = .ok (r.nearest w h).toValue := by
  rw [runResize_of_takes hr hw hh, Words.checked_of_fit hfit, Raster.exact_resize]
  rfl

theorem runResize_of_not_fit (hr : imageResize.takeRaster v = .ok r) (hw : takeSize width = .ok w)
    (hh : takeSize height = .ok h) (hfit : ¬ (r.resize w h).Fit) :
    runResize v width height = .error (.overflow imageResize.name) := by
  rw [runResize_of_takes hr hw hh, Words.checked_of_not_fit hfit]
  rfl

end Outcomes

/-! ## Pixels -/

/-- Where the last row and the last column fit into 64 bits, resizing gives a picture of the size asked for, with as
many channels, each pixel of which is the one that it falls on, inside the old picture; it is blank where the old one
has no pixels. Where they do not fit, resizing overflows, and the picture has no pixels or more than `2 ^ 50` bytes of
them. In its own size a picture stays as it is. -/
theorem imageResize_nearest (c : Call) (v : Value) (r : Raster) (hr : imageResize.takeRaster v = .ok r) :
    let resize (w h : Nat) : Outcome := imageResize.apply { c with values := [v, .ofNat w, .ofNat h] }
    (∀ w h, 1 ≤ w → w ≤ 16384 → 1 ≤ h → h ≤ 16384 →
      ((w - 1) * r.width < 2 ^ 64 ∧ (h - 1) * r.height < 2 ^ 64 →
        ∃ s : Raster, resize w h = .ok s.toValue ∧ s.width = w ∧ s.height = h ∧ s.channels = r.channels ∧
          (∀ b, takeRaster b s.toValue = .ok s) ∧
          (r.width ≠ 0 → r.height ≠ 0 → ∀ x y, x < w → y < h →
            x * r.width / w < r.width ∧ y * r.height / h < r.height ∧
            s.pixel x y = r.pixel (x * r.width / w) (y * r.height / h)) ∧
          (r.width = 0 ∨ r.height = 0 → ∀ u ∈ s.data, u = 0)) ∧
      (¬ ((w - 1) * r.width < 2 ^ 64 ∧ (h - 1) * r.height < 2 ^ 64) →
        resize w h = .error (.overflow "image_resize") ∧ (r.width = 0 ∨ r.height = 0 ∨ 2 ^ 50 < r.data.size))) ∧
    (1 ≤ r.width → r.width ≤ 16384 → 1 ≤ r.height → r.height ≤ 16384 →
      resize r.width r.height = .ok r.toValue) := by
  intro resize
  have hfits := takeRaster_fits hr
  constructor
  · intro w h hw hw' hh hh'
    have htakew := takeSize_ofNat hw hw'
    have htakeh := takeSize_ofNat hh hh'
    have hfit := Raster.fit_resize hfits hw hw' hh hh'
    constructor
    · intro hlast
      refine ⟨r.nearest w h, runResize_of_fit hr htakew htakeh (hfit.mpr hlast), rfl, rfl, rfl, ?_, ?_, ?_⟩
      · exact fun b => takeRaster_toValue (Raster.nearest_fits hw' hh')
      · intro hrw hrh x y hx hy
        exact ⟨Raster.scaled_lt hx hrw, Raster.scaled_lt hy hrh, Raster.pixel_nearest hrw hrh hx hy⟩
      · exact Raster.mem_data_nearest_of_empty
    · intro hlast
      refine ⟨runResize_of_not_fit hr htakew htakeh fun hall => hlast (hfit.mp hall), ?_⟩
      by_contra hsmall
      obtain ⟨hrw, hrh, hdata⟩ : r.width ≠ 0 ∧ r.height ≠ 0 ∧ r.data.size ≤ 2 ^ 50 := by
        simpa only [not_or, Nat.not_lt] using hsmall
      exact hlast (Raster.last_fits_of_pixels hrw hrh hdata hw' hh')
  · intro hw hw' hh hh'
    have hsquare : ∀ n : Nat, n ≤ 16384 → (n - 1) * n < 2 ^ 64 := fun n hn =>
      Nat.lt_of_le_of_lt (Nat.mul_le_mul (show n - 1 ≤ 16384 by omega) hn) (by decide)
    have hfit := (Raster.fit_resize hfits hw hw' hh hh').mpr ⟨hsquare _ hw', hsquare _ hh'⟩
    have hself := runResize_of_fit hr (takeSize_ofNat hw hw') (takeSize_ofNat hh hh') hfit
    rw [Raster.nearest_self (Nat.ne_of_gt hw) (Nat.ne_of_gt hh)] at hself
    exact hself

/-- Tiles made larger: the last pixel is the old last one. -/
theorem imageResize_tiles :
    let resize (w h : Nat) : Outcome :=
      imageResize.apply
        { values := [tiles.toValue, .ofNat w, .ofNat h], invoke := fun _ _ => .ok .null, now := 0 }
    (∃ s : Raster, resize 7 5 = .ok s.toValue ∧ s.pixel 6 4 = #[15, 16, 17]) ∧
    resize 3 2 = .ok tiles.toValue := by
  intro resize
  obtain ⟨hnearest, hself⟩ :=
    imageResize_nearest ⟨[], fun _ _ => .ok .null, 0⟩ tiles.toValue tiles (takeRaster_tiles _)
  constructor
  · have hlast : (7 - 1) * tiles.width < 2 ^ 64 ∧ (5 - 1) * tiles.height < 2 ^ 64 := by decide
    obtain ⟨s, hs, -, -, -, -, hpixel, -⟩ :=
      (hnearest 7 5 (by decide) (by decide) (by decide) (by decide)).1 hlast
    obtain ⟨-, -, hpixel⟩ := hpixel (by decide) (by decide) 6 4 (by decide) (by decide)
    exact ⟨s, hs, hpixel.trans (by decide)⟩
  · exact hself (by decide) (by decide) (by decide) (by decide)

/-- A picture in the colours of the tiles, without pixels and as high as there is. -/
def ribbon : Raster := { tiles with width := 0, height := 9223372036854775807, data := #[], size_data := by decide }

theorem takeRaster_ribbon (b : Builtin) : b.takeRaster ribbon.toValue = .ok ribbon :=
  takeRaster_toValue ⟨by decide, by decide, by decide⟩

theorem not_fit_ribbon : ¬ (ribbon.resize 1 4).Fit := by
  intro hfit
  have hmem : 3 * ribbon.height ∈ (ribbon.resize 1 4).results :=
    Raster.mem_results_resize.mpr (.inr (.inr ⟨3, by decide, .inl rfl⟩))
  exact Nat.not_lt.mpr (show 2 ^ 64 ≤ 3 * ribbon.height by decide) (hfit _ hmem)

/-- The ribbon is accepted, and so are a width of one and a height of four, but no picture comes out. -/
theorem imageResize_ribbon_stops :
    imageResize.takeRaster ribbon.toValue = .ok ribbon ∧
    ∀ c : Call, imageResize.apply { c with values := [ribbon.toValue, .ofNat 1, .ofNat 4] } =
      .error (.overflow "image_resize") := by
  have h1 : takeSize (.ofNat 1) = .ok 1 := takeSize_ofNat (by decide) (by decide)
  have h4 : takeSize (.ofNat 4) = .ok 4 := takeSize_ofNat (by decide) (by decide)
  exact ⟨takeRaster_ribbon _, fun _ => runResize_of_not_fit (takeRaster_ribbon _) h1 h4 not_fit_ribbon⟩

/-! ## Machine words -/

/-- Resizing an accepted picture to an accepted size is a computation on words. Its products and sums fit into 64 bits
exactly if those for the last row and the last column do, and they always do for a picture with pixels of up to `2 ^ 50`
bytes. Resizing gives the picture of the computation without limit exactly then, and overflows otherwise. A machine
that does not check gives the same bytes then, and also whenever there are no pixels. -/
theorem imageResize_words (c : Call) (v width height : Value) (r : Raster) (w h : Nat)
    (hr : imageResize.takeRaster v = .ok r) (hw : takeSize width = .ok w) (hh : takeSize height = .ok h) :
    let steps := r.resize w h
    let outcome := imageResize.apply { c with values := [v, width, height] }
    ((∀ n ∈ steps.results, n < 2 ^ 64) ↔ (w - 1) * r.width < 2 ^ 64 ∧ (h - 1) * r.height < 2 ^ 64) ∧
    (r.width ≠ 0 → r.height ≠ 0 → r.data.size ≤ 2 ^ 50 → ∀ n ∈ steps.results, n < 2 ^ 64) ∧
    (∃ data, steps.exact = some data ∧
      ((∀ n ∈ steps.results, n < 2 ^ 64) → outcome = .ok (pictureOf w h r.channels data)) ∧
      ((∀ n ∈ steps.results, n < 2 ^ 64) ∨ r.width = 0 ∨ r.height = 0 → steps.wrapping = some data)) ∧
    ((∃ n ∈ steps.results, 2 ^ 64 ≤ n) → outcome = .error (.overflow "image_resize")) := by
  intro steps outcome
  obtain ⟨hw1, hw2⟩ := takeSize_bounds hw
  obtain ⟨hh1, hh2⟩ := takeSize_bounds hh
  have hfit : steps.Fit ↔ _ := Raster.fit_resize (takeRaster_fits hr) hw1 hw2 hh1 hh2
  refine ⟨hfit, ?_, ⟨(r.nearest w h).data, Raster.exact_resize, ?_, ?_⟩, ?_⟩
  · intro hrw hrh hdata
    exact hfit.mpr (Raster.last_fits_of_pixels hrw hrh hdata hw2 hh2)
  · exact fun hall => runResize_of_fit hr hw hh hall
  · rintro (hall | hempty)
    · exact (Words.wrapping_of_fit hall).trans Raster.exact_resize
    · exact Raster.run_resize_of_empty hempty _
  · rintro ⟨n, hn, hlarge⟩
    exact runResize_of_not_fit hr hw hh fun hall => Nat.not_lt.mpr hlarge (hall n hn)

/-- Tiles made smaller on machine words. -/
theorem imageResize_tiles_words :
    imageResize.apply { values := [tiles.toValue, .ofNat 2, .ofNat 1], invoke := fun _ _ => .ok .null, now := 0 } =
      .ok (pictureOf 2 1 3 #[0, 1, 2, 3, 4, 5]) ∧
    (tiles.resize 2 1).wrapping = some #[0, 1, 2, 3, 4, 5] := by
  have h2 : takeSize (.ofNat 2) = .ok 2 := takeSize_ofNat (by decide) (by decide)
  have h1 : takeSize (.ofNat 1) = .ok 1 := takeSize_ofNat (by decide) (by decide)
  obtain ⟨-, hfit, ⟨data, hdata, hchecked, hwrapping⟩, -⟩ :=
    imageResize_words ⟨[], fun _ _ => .ok .null, 0⟩ tiles.toValue _ _ tiles 2 1 (takeRaster_tiles _) h2 h1
  have hall := hfit (by decide) (by decide) (by rw [tiles.size_data]; decide)
  obtain rfl : #[0, 1, 2, 3, 4, 5] = data := by
    have hexact : (tiles.resize 2 1).exact = some #[0, 1, 2, 3, 4, 5] := by decide
    exact Option.some.inj (hexact.symm.trans hdata)
  exact ⟨hchecked hall, hwrapping (.inl hall)⟩

/-- On the ribbon the product for the last row does not fit into 64 bits. -/
theorem imageResize_ribbon :
    imageResize.takeRaster ribbon.toValue = .ok ribbon ∧ takeSize (.ofNat 1) = .ok 1 ∧ takeSize (.ofNat 4) = .ok 4 ∧
    (∃ n ∈ (ribbon.resize 1 4).results, 2 ^ 64 ≤ n) ∧ (ribbon.resize 1 4).checked = none := by
  have hlarge : ∃ n ∈ (ribbon.resize 1 4).results, 2 ^ 64 ≤ n := by
    simpa only [Words.Fit, not_forall, Nat.not_lt, exists_prop] using not_fit_ribbon
  exact ⟨takeRaster_ribbon _, takeSize_ofNat (by decide) (by decide), takeSize_ofNat (by decide) (by decide), hlarge,
    Words.checked_of_not_fit not_fit_ribbon⟩

end Tributary.Builtin
