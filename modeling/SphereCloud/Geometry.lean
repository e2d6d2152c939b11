import SphereCloud.Numbers

/-!
Vectors in space, and maps of homogeneous coordinates given by the images of the four axes.
-/

namespace SphereCloud

structure Vec3 (α : Type) where
  x : α
  y : α
  z : α
  deriving BEq, DecidableEq, Repr

namespace Vec3

variable {α : Type} [Scalar α]

@[inline] def scale (v : Vec3 α) (k : α) : Vec3 α :=
  ⟨v.x * k, v.y * k, v.z * k⟩

@[inline] def sub (v w : Vec3 α) : Vec3 α :=
  ⟨v.x - w.x, v.y - w.y, v.z - w.z⟩

@[inline] def neg (v : Vec3 α) : Vec3 α :=
  ⟨-v.x, -v.y, -v.z⟩

@[inline] def dot (v w : Vec3 α) : α :=
  v.x * w.x + v.y * w.y + v.z * w.z

@[inline] def cross (v w : Vec3 α) : Vec3 α :=
  ⟨v.y * w.z - w.y * v.z, v.z * w.x - w.z * v.x, v.x * w.y - w.x * v.y⟩

@[inline] def normalize (v : Vec3 α) : Vec3 α :=
  v.scale (1.0 / Scalar.sqrt (v.dot v))

end Vec3

structure Vec4 (α : Type) where
  x : α
  y : α
  z : α
  w : α
  deriving BEq, DecidableEq, Repr

structure Mat4 (α : Type) where
  c0 : Vec4 α
  c1 : Vec4 α
  c2 : Vec4 α
  c3 : Vec4 α
  deriving BEq, DecidableEq, Repr

variable {α : Type} [Scalar α]

namespace Vec4

@[inline] def scale (v : Vec4 α) (k : α) : Vec4 α :=
  ⟨v.x * k, v.y * k, v.z * k, v.w * k⟩

@[inline] def add (v w : Vec4 α) : Vec4 α :=
  ⟨v.x + w.x, v.y + w.y, v.z + w.z, v.w + w.w⟩

end Vec4

namespace Mat4

@[inline] def apply (m : Mat4 α) (v : Vec4 α) : Vec4 α :=
  (((m.c0.scale v.x).add (m.c1.scale v.y)).add (m.c2.scale v.z)).add (m.c3.scale v.w)

def mul (m n : Mat4 α) : Mat4 α :=
  ⟨m.apply n.c0, m.apply n.c1, m.apply n.c2, m.apply n.c3⟩

/-- Moves `eye` to the origin and turns the direction to `center` to the negative third axis. -/
def lookAt (eye center up : Vec3 α) : Mat4 α :=
  let f := (center.sub eye).normalize
  let s := (f.cross up).normalize
  let u := s.cross f
  ⟨⟨s.x, u.x, -f.x, 0.0⟩, ⟨s.y, u.y, -f.y, 0.0⟩, ⟨s.z, u.z, -f.z, 0.0⟩,
    ⟨-eye.dot s, -eye.dot u, eye.dot f, 1.0⟩⟩

/-- Maps the pyramid with the given angle between `near` and `far` to the cube. -/
def perspective (angle aspect near far : α) : Mat4 α :=
  let h := Scalar.cos (0.5 * angle) / Scalar.sin (0.5 * angle)
  let w := h / aspect
  let r := far / (near - far)
  ⟨⟨w, 0.0, 0.0, 0.0⟩, ⟨0.0, h, 0.0, 0.0⟩, ⟨0.0, 0.0, r, -1.0⟩, ⟨0.0, 0.0, r * near, 0.0⟩⟩

end Mat4

end SphereCloud
