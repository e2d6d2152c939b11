import SphereCloud.Cloud.Layout
import SphereCloud.Geometry
import SphereCloud.Log

/-!
Clouds of points and what receives them.
-/

namespace SphereCloud

structure Cloud (α : Type) where
  label : String
  positions : List (Vec3 α)
  /-- `0xRRGGBBAA`. -/
  color : UInt32
  deriving BEq, DecidableEq, Repr

inductive Message (α : Type) where
  | layout (l : Layout)
  | cloud (c : Cloud α)
  deriving DecidableEq, Repr

/-- States that receive clouds with coordinates in `α`. A layout comes before any cloud. -/
class Receiver (σ : Type) (α : outParam Type) where
  takeLayout : σ → Layout → Logged σ
  takeCloud : σ → Cloud α → Logged σ

def Message.send {σ α : Type} [Receiver σ α] (state : σ) : Message α → Logged σ
  | .layout l => Receiver.takeLayout state l
  | .cloud c => Receiver.takeCloud state c

abbrev Transcript (α : Type) := List (Message α)

instance {α : Type} : Receiver (Transcript α) α where
  takeLayout messages l := pure (messages ++ [.layout l])
  takeCloud messages c := pure (messages ++ [.cloud c])

structure Archive (α : Type) where
  layouts : List Layout
  clouds : List (Cloud α)

namespace Archive

def empty {α : Type} : Archive α := ⟨[], []⟩

instance {α : Type} : Receiver (Archive α) α where
  takeLayout a l := pure { a with layouts := a.layouts ++ [l] }
  takeCloud a c := pure { a with clouds := a.clouds ++ [c] }

def cloud? {α : Type} (a : Archive α) (label : String) : Option (Cloud α) :=
  a.clouds.find? (·.label = label)

end Archive

end SphereCloud
