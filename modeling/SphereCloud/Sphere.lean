import SphereCloud.Decimal.Shortest
import SphereCloud.Geometry

/-!
Samples as pairs of a height and an angle, kept as two lists of one length, and the points on the
unit sphere that they give. Equal areas of height and angle are equal areas on the sphere.
-/

namespace SphereCloud

inductive SampleFault (α : Type) where
  | degenerateBase (base : UInt32)
  | emptyRange (lo hi : α)
  | offSphere (index : Nat) (z : α)
  | unequalLengths (heights angles : Nat)
  | tooMany (count : Nat)
  deriving DecidableEq, Repr

def fitsSamples (n : Nat) : Bool :=
  fitsMemory 8 n

def SampleFault.message : SampleFault Float → String
  | .degenerateBase base => "Halton base must be at least 2, got " ++ toString base.toNat
  | .emptyRange lo hi =>
    "Invalid uniform range [" ++ Decimal.ofDouble lo ++ ", " ++ Decimal.ofDouble hi ++ ")"
  | .offSphere index z =>
    "Height " ++ Decimal.ofDouble z ++ " at sample " ++ toString index ++ " is outside of [-1, 1]"
  | .unequalLengths heights angles =>
    "Got " ++ toString heights ++ " heights but " ++ toString angles ++ " angles"
  | .tooMany count => "No memory can hold " ++ toString count ++ " samples"

structure Cylindrical (α : Type) where
  /-- From -1 to 1. -/
  heights : List α
  /-- In radians, from zero to below a full turn. -/
  angles : List α
  length_eq : heights.length = angles.length

namespace Cylindrical

variable {α : Type}

def ofLists? (heights angles : List α) : Except (SampleFault α) (Cylindrical α) :=
  if h : heights.length = angles.length then .ok ⟨heights, angles, h⟩
  else .error (.unequalLengths heights.length angles.length)

instance : Inhabited (Cylindrical α) where
  default := ⟨[], [], rfl⟩

instance [BEq α] : BEq (Cylindrical α) where
  beq p q := p.heights == q.heights && p.angles == q.angles

def length (p : Cylindrical α) : Nat :=
  p.heights.length

def isEmpty (p : Cylindrical α) : Bool :=
  p.heights.isEmpty

def toList (p : Cylindrical α) : List (α × α) :=
  p.heights.zip p.angles

@[simp] theorem length_toList (p : Cylindrical α) : p.toList.length = p.length := by
  simp [toList, length, p.length_eq]

variable [Scalar α]

@[inline] def heightOf (u : α) : α :=
  2.0 * u - 1.0

@[inline] def angleOf (v : α) : α :=
  Scalar.tau * v

def ofUnit? (u v : List α) : Except (SampleFault α) (Cylindrical α) :=
  ofLists? (u.map heightOf) (v.map angleOf)

end Cylindrical

variable {α : Type} [Scalar α]

def onSphere (z t : α) : Bool :=
  Scalar.le (Scalar.abs z) 1.0 && Scalar.isFinite t

/-- The point at a height, where the circle of latitude has the radius `√(1 - z²)`. -/
def pointAt (z t : α) : Vec3 α :=
  let r := Scalar.sqrt (1.0 - z * z)
  ⟨r * Scalar.cos t, r * Scalar.sin t, z⟩

def projectPair (index : Nat) (z t : α) : Except (SampleFault α) (Vec3 α) :=
  if onSphere z t then .ok (pointAt z t) else .error (.offSphere index z)

def projectOne (z t : α) : Except (SampleFault α) (Vec3 α) :=
  projectPair 0 z t

def projectFrom : Nat → List (α × α) → Except (SampleFault α) (List (Vec3 α))
  | _, [] => .ok []
  | index, (z, t) :: rest => do
    let point ← projectPair index z t
    let points ← projectFrom (index + 1) rest
    return point :: points

/-- The points of all pairs, or the first pair that is not on the sphere. -/
def Cylindrical.project (pairs : Cylindrical α) : Except (SampleFault α) (List (Vec3 α)) :=
  projectFrom 0 pairs.toList

end SphereCloud
