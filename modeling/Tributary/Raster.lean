import Tributary.Decimal.Basic
import Tributary.Words

/-!
# Rasters

A raster is a picture of `width · height` pixels with one to four channels of a byte each, row by row. Of
two or four channels the last is the alpha channel, which no operation on colours touches.

* `Raster.sample` : a channel of a pixel; `Raster.tabulate` : the raster with given samples;
* `Raster.invert`, `Raster.grayscale`, `Raster.rotate?` : the operations that keep the pixels;
* `Raster.resize` : the bytes in another size, as a computation on machine words.
-/

namespace Tributary

/-- A picture, row by row, the channels of a pixel side by side. -/
structure Raster where
  width : Nat
  height : Nat
  channels : Nat
  data : Array UInt8
  channels_pos : 1 ≤ channels
  channels_le : channels ≤ 4
  size_data : data.size = width * height * channels

namespace Raster

/-- The channel `k` of the pixel in column `x` and row `y`. -/
def sample (r : Raster) (x y k : Nat) : UInt8 :=
  (r.data[(y * r.width + x) * r.channels + k]?).getD 0

/-- The raster whose samples are given by a function of column, row and channel. -/
def tabulate (width height channels : Nat) (pos : 1 ≤ channels) (le : channels ≤ 4)
    (f : Nat → Nat → Nat → UInt8) : Raster where
  width := width
  height := height
  channels := channels
  data := Array.ofFn fun i : Fin (width * height * channels) =>
    f (i / channels % width) (i / channels / width) (i % channels)
  channels_pos := pos
  channels_le := le
  size_data := Array.size_ofFn

def hasAlpha (r : Raster) : Bool := r.channels == 2 || r.channels == 4

def colours (r : Raster) : Nat := if r.hasAlpha then r.channels - 1 else r.channels

/-- Every colour replaced by its complement. -/
def invert (r : Raster) : Raster :=
  tabulate r.width r.height r.channels r.channels_pos r.channels_le fun x y k =>
    if k < r.colours then 255 - r.sample x y k else r.sample x y k

/-- The brightness of a colour, weighted as the eye sees red, green and blue. -/
def luma (red green blue : UInt8) : UInt8 :=
  let weigh := fun (thousandths : Nat) (c : UInt8) => Decimal.toDouble ⟨thousandths, -3⟩ * Double.ofNat c.toNat
  let sum := weigh 299 red + weigh 587 green + weigh 114 blue
  match sum.round.toInt? with
  | some n => UInt8.ofNat (min n.toNat 255)
  | none => 0

/-- Red, green and blue replaced by their brightness. -/
def grayscale (r : Raster) : Raster :=
  if r.channels ≤ 2 then r
  else if r.hasAlpha then
    tabulate r.width r.height 2 (by decide) (by decide) fun x y k =>
      if k = 0 then luma (r.sample x y 0) (r.sample x y 1) (r.sample x y 2) else r.sample x y 3
  else
    tabulate r.width r.height 1 (by decide) (by decide) fun x y _ =>
      luma (r.sample x y 0) (r.sample x y 1) (r.sample x y 2)

def pixelBytes (r : Raster) (x y : Nat) : Words (Array UInt8) := do
  let above ← .mul y r.width
  let place ← .add above x
  let start ← .mul place r.channels
  let stop ← .add start r.channels
  .slice r.data start stop

/-- Adds the pixel in column `x` of a row in another size, taken from where it falls in the raster. A raster without
pixels gives nothing to take, which is noticed only after the place has been computed. -/
def resizeColumn (r : Raster) (width height down x : Nat) (data : Array UInt8) : Words (Array UInt8) := do
  let right ← .mul x r.width
  if r.width = 0 ∨ r.height = 0 then return data ++ Array.replicate r.channels 0
  else return data ++ (← r.pixelBytes (right / width) (down / height))

/-- Adds the row `y` in another size. -/
def resizeRow (r : Raster) (width height y : Nat) (data : Array UInt8) : Words (Array UInt8) := do
  let down ← .mul y r.height
  .each (r.resizeColumn width height down) 0 width data

/-- The bytes of the raster in another size. Room for them is asked for first. -/
def resize (r : Raster) (width height : Nat) : Words (Array UInt8) := do
  let area ← .mul width height
  let room ← .mul area r.channels
  .each (r.resizeRow width height) 0 height (Array.emptyWithCapacity room)

def quarterTurn (r : Raster) : Raster :=
  tabulate r.height r.width r.channels r.channels_pos r.channels_le fun x y k =>
    r.sample y (r.height - 1 - x) k

def halfTurn (r : Raster) : Raster :=
  tabulate r.width r.height r.channels r.channels_pos r.channels_le fun x y k =>
    r.sample (r.width - 1 - x) (r.height - 1 - y) k

def threeQuarterTurn (r : Raster) : Raster :=
  tabulate r.height r.width r.channels r.channels_pos r.channels_le fun x y k =>
    r.sample (r.width - 1 - y) x k

/-- So many quarters of a turn clockwise, below four. -/
def turn (r : Raster) : Nat → Raster
  | 1 => r.quarterTurn
  | 2 => r.halfTurn
  | 3 => r.threeQuarterTurn
  | _ => r

/-- A turn clockwise by degrees, if they are whole quarters. -/
def rotate? (r : Raster) (degrees : Int) : Option Raster :=
  if degrees % 90 = 0 then some (r.turn (degrees % 360 / 90).toNat) else none

end Raster

end Tributary
