import SphereCloud.Geometry

/-!
What a user does during a frame, and a camera that orbits the origin, where the sphere is. Keys turn
it and move it to and fro, the mouse drags it around.
-/

namespace SphereCloud

inductive KeyName where
  | a
  | d
  | w
  | s
  | q
  | escape
  deriving DecidableEq, Repr

inductive MouseButton where
  | left
  | middle
  | right
  deriving DecidableEq, Repr

/-- What becomes of the place of a mouse that is outside of the window. -/
inductive MouseMode where
  | pass
  | clamp
  | discard
  deriving DecidableEq, Repr

structure Controls (α : Type) where
  keys : List KeyName
  buttons : List MouseButton
  scroll : Option (α × α)
  /-- The place of the mouse, unless it is discarded. -/
  mouse : Option (α × α)

namespace Controls

variable {α : Type}

def holds (c : Controls α) (key : KeyName) : Bool :=
  c.keys.contains key

def presses (c : Controls α) (button : MouseButton) : Bool :=
  c.buttons.contains button

end Controls

structure Camera (α : Type) where
  yaw : α
  pitch : α
  distance : α
  /-- Where the mouse was in the last frame, if that is known. -/
  lastMouse : Option (α × α)
  deriving DecidableEq, Repr

namespace Camera

variable {α : Type} [Scalar α]

def initial : Camera α :=
  ⟨0.125 * Scalar.tau, 0.2, 3.5, none⟩

def fieldOfView : α :=
  45.0 / 360.0 * Scalar.tau

/-- Short of the pole, where the direction up would be lost. -/
def maxPitch : α :=
  0.99 * 0.25 * Scalar.tau

def minDistance : α := 1.5

def maxDistance : α := 20.0

def up : Vec3 α := ⟨0.0, 0.0, 1.0⟩

def rotate (c : Camera α) (yaw pitch : α) : Camera α :=
  { c with
    yaw := Scalar.wrap (c.yaw + yaw) Scalar.tau
    pitch := Scalar.clamp (c.pitch + pitch) (-maxPitch) maxPitch }

def zoom (c : Camera α) (distance : α) : Camera α :=
  { c with distance := Scalar.clamp (c.distance + distance) minDistance maxDistance }

private def held (controls : Controls α) (key : KeyName) : α :=
  if controls.holds key then 1.0 else 0.0

def turning (controls : Controls α) : α :=
  0.0 - held controls .a + held controls .d

/-- How fast the camera moves away; the wheel counts as well. -/
def receding (controls : Controls α) : α :=
  let keys := 0.0 - held controls .w + held controls .s
  match controls.scroll with
  | some (_, y) => keys - y * 0.1
  | none => keys

/-- Turns the camera by what the mouse was dragged since the last frame. -/
def drag (c : Camera α) (controls : Controls α) : Camera α :=
  if controls.presses .left then
    match controls.mouse, c.lastMouse with
    | some (x, y), some (x0, y0) => c.rotate (-((x - x0) * 0.01)) ((y - y0) * 0.01)
    | _, _ => c
  else c

def update (c : Camera α) (dt : α) (controls : Controls α) : Camera α :=
  let turned := { c with yaw := c.yaw + turning controls * dt }
  let moved := turned.zoom (receding controls * 2.0 * dt)
  { moved.drag controls with lastMouse := controls.mouse }

def position (c : Camera α) : Vec3 α :=
  let level := Scalar.cos c.pitch
  ⟨c.distance * (level * Scalar.cos c.yaw), c.distance * (level * Scalar.sin c.yaw),
    c.distance * Scalar.sin c.pitch⟩

def worldToView (c : Camera α) : Mat4 α :=
  Mat4.lookAt c.position ⟨0.0, 0.0, 0.0⟩ up

def viewToClip (aspect : α) : Mat4 α :=
  Mat4.perspective fieldOfView aspect 0.1 100.0

def worldToClip (c : Camera α) (aspect : α) : Mat4 α :=
  (viewToClip aspect).mul c.worldToView

end Camera

end SphereCloud
