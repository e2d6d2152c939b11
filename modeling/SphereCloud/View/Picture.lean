import SphereCloud.View.Cell
import SphereCloud.Numbers

/-!
Pictures as rows of pixels one after the other, and what is painted on them: borders of cells and
dots.
-/

namespace SphereCloud

/-- The pixels of a picture, row by row, each `0x00RRGGBB`. -/
abbrev Pixels := Array UInt32

def backgroundColor : UInt32 := 0x00101014

def borderColor : UInt32 := 0x00404048

/-- The pixel of a color `0xRRGGBBAA` with its brightness scaled. -/
def pixelOf (rgba : UInt32) (intensity : Float32) : UInt32 :=
  let channel (shift : UInt32) : UInt32 :=
    let byte := ((rgba >>> shift) &&& 0xFF).toUInt8
    (Binary.nearestByte (byte.toFloat32 * intensity)).toUInt32
  (channel 24 <<< 16) ||| (channel 16 <<< 8) ||| channel 8

/-- Where the pixels of a rectangle are in a picture of the given width. -/
def rectangle (width x y columns rows : Nat) : List Nat :=
  (List.range' y rows).flatMap fun py => (List.range' x columns).map fun px => py * width + px

namespace Cell

/-- Where the pixels at the rim of a cell are in a picture of `size` pixels. None of them is behind
the last one of the cell, so that only this one is compared with the size. -/
def border (c : Cell) (width size : Nat) : Except PaintFault (List Nat) :=
  if c.isEmpty then .ok []
  else do
    let right := (← c.right) - 1
    let bottom := (← c.bottom) - 1
    if size ≤ bottom * width + right then throw .outsidePicture
    return rectangle width c.x c.y c.width 1 ++ rectangle width c.x bottom c.width 1 ++
      rectangle width c.x c.y 1 c.height ++ rectangle width right c.y 1 c.height

/-- Where the pixels of a dot are: two by two, cut off at the right and at the bottom of the
cell. -/
def dot (c : Cell) (width x y : Nat) : Except PaintFault (List Nat) := do
  let right := min (← measured (x + 2)) (← c.right)
  let bottom := min (← measured (y + 2)) (← c.bottom)
  return rectangle width x y (right - x) (bottom - y)

end Cell

namespace Pixels

def paintOne (color : UInt32) (pixels : Pixels) (i : Nat) : Except PaintFault Pixels :=
  if h : i < pixels.size then .ok (pixels.set i color h) else .error .outsidePicture

def paint (color : UInt32) (places : List Nat) (pixels : Pixels) : Except PaintFault Pixels :=
  places.foldlM (paintOne color) pixels

/-- Cuts or extends the pixels to a number of them, if that many can be kept. -/
def resize (pixels : Pixels) (n : Nat) : Except PaintFault Pixels :=
  if fitsMemory 4 n then .ok (pixels.take n ++ Array.replicate (n - pixels.size) 0)
  else .error .tooLarge

def fill (pixels : Pixels) (color : UInt32) : Pixels :=
  Array.replicate pixels.size color

end Pixels

end SphereCloud
