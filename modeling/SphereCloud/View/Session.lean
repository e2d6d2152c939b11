import SphereCloud.View.Viewer

/-!
A session in a window: frame by frame the camera moves and the picture is drawn and presented, until
the window is closed or escape is held. The window is a script of what each frame brings.
-/

namespace SphereCloud

structure Frame where
  width : Nat
  height : Nat
  /-- The time since the frame before, in nanoseconds. -/
  elapsed : Nat
  controls : Controls Float32
  /-- Whether the picture cannot be presented. -/
  presentFails : Bool

def Frame.seconds (f : Frame) : Float32 :=
  Scalar.ofNat (f.elapsed / 1000000000) + Scalar.ofNat (f.elapsed % 1000000000) / 1000000000.0

/-- A window that opens or not, and its frames until it is closed. -/
structure Script where
  opens : Bool
  frames : List Frame

structure WindowRequest where
  title : String
  width : Nat
  height : Nat
  resizable : Bool
  deriving DecidableEq, Repr

structure Picture where
  width : Nat
  height : Nat
  pixels : Pixels
  deriving DecidableEq

inductive SessionFault where
  | noWindow
  | painting (fault : PaintFault)
  deriving DecidableEq, Repr

def SessionFault.message : SessionFault → String
  | .noWindow => "Failed to create window"
  | .painting .divisionByZero => "The grid of cells has no rows or no columns"
  | .painting .noPixels => "A point cannot land on a cell without pixels"
  | .painting .outsidePicture => "A pixel is outside of the picture"
  | .painting .tooLarge => "The picture is too large"

/-- What can be seen of a session from outside. -/
structure Session where
  window : Option WindowRequest
  targetRate : Option Nat
  mouseReads : List MouseMode
  shown : List Picture
  log : List LogLine
  result : Except SessionFault Unit

namespace Session

def request : WindowRequest := ⟨"sphere_sampling", 1920, 1080, true⟩

def rate : Nat := 60

def opened : Session := ⟨some request, some rate, [], [], [], .ok ()⟩

def refused : Session := ⟨some request, none, [], [], [], .error .noWindow⟩

def present (s : Session) (frame : Frame) (pixels : Pixels) : Session :=
  let attempt : Except String Unit :=
    if frame.presentFails then .error "Failed to Update" else .ok ()
  let logged := Logged.ofExcept "Failed to present frame" attempt
  { s with
    shown :=
      match logged.value with
      | some () => s.shown ++ [⟨frame.width, frame.height, pixels⟩]
      | none => s.shown
    log := s.log ++ logged.lines }

end Session

namespace Viewer

/-- The frames from here on. The pixels of the last frame are painted over. -/
def runFrames (v : Viewer) (pixels : Pixels) (session : Session) : List Frame → Session
  | [] => session
  | frame :: frames =>
    if frame.controls.holds .escape then session
    else
      let camera := v.camera.update frame.seconds frame.controls
      let v := { v with camera := camera }
      let session := { session with mouseReads := session.mouseReads ++ [MouseMode.discard] }
      match pixels.resize (frame.width * frame.height) >>= v.draw frame.width frame.height with
      | .error fault => { session with result := .error (.painting fault) }
      | .ok pixels => runFrames v pixels (session.present frame pixels) frames

def run (v : Viewer) (script : Script) : Session :=
  if script.opens then v.runFrames #[] .opened script.frames else .refused

end Viewer

end SphereCloud
