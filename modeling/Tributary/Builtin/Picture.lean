import Tributary.Builtin.Argument
import Tributary.Raster

/-!
# Builtins on pictures

A picture is an object with `width`, `height`, `channels` and `data`. Null is passed through.
-/

namespace Tributary.Builtin

def takeDimension (b : Builtin) (v : Value) (name : String) : Except EvalError Nat := do
  let n ← b.takeInteger (v.field name)
  if 0 ≤ n.toInt then .ok n.toInt.toNat else .error (b.objection (.negativeDimension name))

/-- A product, if it fits into 64 bits. -/
def product64? (m n : Nat) : Option Nat := if m * n < Nat.pow 2 64 then some (m * n) else none

/-- The bytes of a picture, if their number fits into 64 bits. -/
def pictureSize? (width height channels : Nat) : Option Nat :=
  (product64? width height).bind (product64? · channels)

theorem product64?_eq_some {m n k : Nat} (h : product64? m n = some k) : k = m * n ∧ k < Nat.pow 2 64 := by
  unfold product64? at h
  split at h
  · next hlt =>
    cases h
    exact ⟨rfl, hlt⟩
  · cases h

theorem pictureSize?_eq_some {width height channels k : Nat} (h : pictureSize? width height channels = some k) :
    k = width * height * channels ∧ k < Nat.pow 2 64 := by
  obtain ⟨area, harea, hsize⟩ := Option.bind_eq_some_iff.mp h
  obtain ⟨rfl, -⟩ := product64?_eq_some harea
  exact product64?_eq_some hsize

def takeRaster (b : Builtin) (v : Value) : Except EvalError Raster :=
  match v with
  | .object _ => do
    let width ← takeDimension b v "width"
    let height ← takeDimension b v "height"
    let channels ← takeDimension b v "channels"
    if hc : 1 ≤ channels ∧ channels ≤ 4 then
      let data ← b.takeBytes (v.field "data")
      if hs : pictureSize? width height channels = some data.toArray.size then
        .ok ⟨width, height, channels, data.toArray, hc.1, hc.2, (pictureSize?_eq_some hs).1⟩
      else
        .error (b.objection
          (.dataSize width height channels (pictureSize? width height channels) data.length))
    else .error (b.objection (.channelCount channels))
  | v => .error (b.mismatch .image v)

end Tributary.Builtin

namespace Tributary

def pictureOf (width height channels : Nat) (data : Array UInt8) : Value :=
  .object [
    ("channels", .ofNat channels), ("data", .bytes data.toList), ("height", .ofNat height), ("width", .ofNat width)]

def Raster.toValue (r : Raster) : Value := pictureOf r.width r.height r.channels r.data

end Tributary

namespace Tributary.Builtin

def runPicture (b : Builtin) (f : Raster → Raster) : Value → Outcome
  | .null => .ok .null
  | v => (b.takeRaster v).map fun r => (f r).toValue

/-- A width or height to resize to. -/
def takeSize (v : Value) : Except EvalError Nat := do
  let n ← imageResize.takeInteger v
  if 1 ≤ n.toInt ∧ n.toInt ≤ 16384 then .ok n.toInt.toNat
  else .error (imageResize.objection (.targetSize n.toInt))

def runResize (v width height : Value) : Outcome :=
  match v with
  | .null => .ok .null
  | v => do
    let r ← imageResize.takeRaster v
    let width ← takeSize width
    let height ← takeSize height
    match (r.resize width height).checked with
    | some data => return pictureOf width height r.channels data
    | none => .error (.overflow imageResize.name)

def runRotate (v degrees : Value) : Outcome :=
  match v with
  | .null => .ok .null
  | v => do
    let r ← imageRotate.takeRaster v
    let degrees ← imageRotate.takeInteger degrees
    match r.rotate? degrees.toInt with
    | some r => return r.toValue
    | none => .error (imageRotate.objection (.rotation degrees.toInt))

end Tributary.Builtin
