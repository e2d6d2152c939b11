import SphereCloud.Numbers
import SphereCloud.Geometry

/-!
Rectangles of pixels: the cells of a grid, and the pixel of a cell that a point in space lands on.
-/

namespace SphereCloud

inductive PaintFault where
  | divisionByZero
  | noPixels
  | outsidePicture
  | tooLarge
  deriving DecidableEq, Repr

/-- A place or a size, unless no word can hold it. -/
def measured (n : Nat) : Except PaintFault Nat :=
  if fitsWord n then .ok n else .error .tooLarge

structure Cell where
  x : Nat
  y : Nat
  width : Nat
  height : Nat
  deriving DecidableEq, Repr

namespace Cell

def isEmpty (c : Cell) : Bool :=
  c.width = 0 || c.height = 0

def right (c : Cell) : Except PaintFault Nat :=
  measured (c.x + c.width)

def bottom (c : Cell) : Except PaintFault Nat :=
  measured (c.y + c.height)

/-- The cell in a row and a column of a grid of equal cells; what is left over of the picture is at
its right and at its bottom. -/
def ofGrid (width height rowCount columnCount row column : Nat) : Except PaintFault Cell :=
  if columnCount = 0 ∨ rowCount = 0 then .error .divisionByZero
  else do
    let x ← measured (column * (width / columnCount))
    let y ← measured (row * (height / rowCount))
    return ⟨x, y, width / columnCount, height / rowCount⟩

variable {α : Type} [Scalar α]

/-- The pixel of the cell that a point lands on, none if the point is out of view. -/
def landing (c : Cell) (projection : Mat4 α) (point : Vec3 α) :
    Except PaintFault (Option (Nat × Nat)) :=
  let clip := projection.apply ⟨point.x, point.y, point.z, 1.0⟩
  if Scalar.le clip.w 0.0 then .ok none
  else
    let u := clip.x / clip.w
    let v := clip.y / clip.w
    if Scalar.lt 1.0 (Scalar.abs u) || Scalar.lt 1.0 (Scalar.abs v) then .ok none
    else if c.isEmpty then .error .noPixels
    else do
      let column := Scalar.toNat ((u * 0.5 + 0.5) * Scalar.ofNat c.width)
      let row := Scalar.toNat ((0.5 - v * 0.5) * Scalar.ofNat c.height)
      let x ← measured (c.x + min column (c.width - 1))
      let y ← measured (c.y + min row (c.height - 1))
      return some (x, y)

end Cell

end SphereCloud
