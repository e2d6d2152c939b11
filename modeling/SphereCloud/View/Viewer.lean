import SphereCloud.Cloud.Receiver
import SphereCloud.Text.Quoted
import SphereCloud.View.Camera
import SphereCloud.View.Picture
import SphereCloud.Numbers

/-!
A viewer keeps the clouds it receives and draws each in its cell of the layout. All cells are seen
by one camera, so that the clouds can be compared from the same angle.
-/

namespace SphereCloud

structure Viewer where
  layout : Layout
  clouds : List (Cloud Float)
  camera : Camera Float32

namespace Viewer

def initial : Viewer := ⟨.empty, [], .initial⟩

/-- Keeps a cloud in place of an earlier one with its label. -/
def keep (v : Viewer) (cloud : Cloud Float) : Viewer :=
  { v with clouds := v.clouds.filter (·.label ≠ cloud.label) ++ [cloud] }

instance : Receiver Viewer Float where
  takeLayout v l := pure { v with layout := l }
  takeCloud v cloud := do
    if (v.layout.idxOf? cloud.label).isNone then
      log .warn ("Point set " ++ Text.quoted cloud.label ++
        " has no view in the layout, it won't be shown")
    log .info ("Received " ++ toString cloud.positions.length ++ " points for " ++ cloud.label)
    return v.keep cloud

def dimming : Float32 := 0.35

def single (p : Vec3 Float) : Vec3 Float32 :=
  ⟨Binary.toSingle p.x, Binary.toSingle p.y, Binary.toSingle p.z⟩

def gridPlaces (rowCount columnCount : Nat) : List (Nat × Nat) :=
  (List.range rowCount).flatMap fun row => (List.range columnCount).map (row, ·)

def drawBorders (width height rowCount columnCount : Nat) (pixels : Pixels) :
    Except PaintFault Pixels :=
  (gridPlaces rowCount columnCount).foldlM (fun pixels (row, column) => do
    let cell ← Cell.ofGrid width height rowCount columnCount row column
    pixels.paint borderColor (← cell.border width pixels.size)) pixels

structure Look where
  cell : Cell
  eye : Vec3 Float32
  projection : Mat4 Float32
  /-- The pixel of a point on the near side. -/
  front : UInt32
  /-- The pixel of a point on the far side. -/
  back : UInt32

namespace Look

def ofCamera (camera : Camera Float32) (cell : Cell) (color : UInt32) : Look where
  cell := cell
  eye := camera.position
  projection := camera.worldToClip (Scalar.ofNat cell.width / Scalar.ofNat cell.height)
  front := pixelOf color 1.0
  back := pixelOf color dimming

/-- The pixel of a point. The far side is the half space that the eye is not in. -/
def pixel (look : Look) (p : Vec3 Float32) : UInt32 :=
  if Scalar.lt (p.dot look.eye) 0.0 then look.back else look.front

def drawPoint (look : Look) (width : Nat) (pixels : Pixels) (point : Vec3 Float) :
    Except PaintFault Pixels := do
  let p := single point
  match ← look.cell.landing look.projection p with
  | none => return pixels
  | some (x, y) => pixels.paint (look.pixel p) (← look.cell.dot width x y)

end Look

def drawCloud (camera : Camera Float32) (width : Nat) (cell : Cell) (cloud : Cloud Float)
    (pixels : Pixels) : Except PaintFault Pixels :=
  cloud.positions.foldlM ((Look.ofCamera camera cell cloud.color).drawPoint width) pixels

/-- Paints a cloud into its own cell, if its label has one with pixels. -/
def drawInCell (v : Viewer) (width height : Nat) (pixels : Pixels) (cloud : Cloud Float) :
    Except PaintFault Pixels := do
  match v.layout.idxOf? cloud.label with
  | none => return pixels
  | some (row, column) =>
    let cell ← Cell.ofGrid width height v.layout.rowCount v.layout.columnCount row column
    if cell.isEmpty then return pixels else drawCloud v.camera width cell cloud pixels

/-- Paints everything over what the picture showed before. -/
def draw (v : Viewer) (width height : Nat) (pixels : Pixels) : Except PaintFault Pixels :=
  let clean := pixels.fill backgroundColor
  if v.layout.rowCount = 0 ∨ v.layout.columnCount = 0 then .ok clean
  else do
    let bordered ← drawBorders width height v.layout.rowCount v.layout.columnCount clean
    v.clouds.foldlM (v.drawInCell width height) bordered

end Viewer

end SphereCloud
