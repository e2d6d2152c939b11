import SphereCloud.Proofs.Exact.Reals
import SphereCloud.Geometry

/-!
Vectors and maps of homogeneous coordinates in the real numbers.
-/

namespace SphereCloud

namespace Vec3

variable (v w : Vec3 ℝ) (k : ℝ)

noncomputable def length : ℝ :=
  Real.sqrt (v.dot v)

theorem scale_scale (l : ℝ) : (v.scale k).scale l = v.scale (k * l) := by
  simp only [scale, mul_assoc]

theorem scale_one : v.scale 1 = v := by
  simp only [scale, mul_one]

theorem dot_comm : v.dot w = w.dot v := by
  simp only [dot]
  ring

theorem scale_dot : (v.scale k).dot w = k * v.dot w := by
  simp only [dot, scale]
  ring

theorem dot_scale : v.dot (w.scale k) = k * v.dot w := by
  rw [dot_comm, scale_dot, dot_comm]

theorem dot_self_nonneg : 0 ≤ v.dot v :=
  add_nonneg (add_nonneg (mul_self_nonneg _) (mul_self_nonneg _)) (mul_self_nonneg _)

theorem dot_cross_left : v.dot (v.cross w) = 0 := by
  simp only [dot, cross]
  ring

theorem dot_cross_right : v.dot (w.cross v) = 0 := by
  simp only [dot, cross]
  ring

/-- The product of two lengths, divided among the dot and the cross product. -/
theorem dot_sq_add_cross_dot_self :
    v.dot w ^ 2 + (v.cross w).dot (v.cross w) = v.dot v * w.dot w := by
  simp only [dot, cross]
  ring

theorem length_scale : (v.scale k).length = |k| * v.length := by
  have hdot : (v.scale k).dot (v.scale k) = k ^ 2 * v.dot v := by
    rw [scale_dot, dot_scale]
    ring
  rw [length, hdot, Real.sqrt_mul (sq_nonneg k), Real.sqrt_sq_eq_abs, length]

theorem abs_dot_le : |v.dot w| ≤ v.length * w.length := by
  rw [length, length, ← Real.sqrt_mul (dot_self_nonneg v), ← dot_sq_add_cross_dot_self]
  exact Real.abs_le_sqrt (le_add_of_nonneg_right (dot_self_nonneg _))

theorem normalize_eq : v.normalize = v.scale (1 / v.length) := by
  rw [normalize]
  norm_num
  rfl

end Vec3

namespace Mat4

variable (m n : Mat4 ℝ) (v : Vec4 ℝ)

theorem mul_apply : (m.mul n).apply v = m.apply (n.apply v) := by
  simp only [mul, apply, Vec4.scale, Vec4.add, Vec4.mk.injEq]
  refine ⟨?_, ?_, ?_, ?_⟩ <;> ring

/-- A point as the eye has it: along the direction to the right, the direction up and the direction
behind. -/
theorem lookAt_apply (eye center up p : Vec3 ℝ) :
    let forward := (center.sub eye).normalize
    let right := (forward.cross up).normalize
    (lookAt eye center up).apply ⟨p.x, p.y, p.z, 1.0⟩ =
      ⟨right.dot (p.sub eye), (right.cross forward).dot (p.sub eye), -forward.dot (p.sub eye),
        1⟩ := by
  intro forward right
  have hlook : lookAt eye center up =
      ⟨⟨right.x, (right.cross forward).x, -forward.x, 0.0⟩,
        ⟨right.y, (right.cross forward).y, -forward.y, 0.0⟩,
        ⟨right.z, (right.cross forward).z, -forward.z, 0.0⟩,
        ⟨-eye.dot right, -eye.dot (right.cross forward), eye.dot forward, 1.0⟩⟩ := rfl
  rw [hlook]
  obtain ⟨top, htop⟩ : ∃ top, right.cross forward = top := ⟨_, rfl⟩
  rw [htop]
  clear_value right forward
  simp only [apply, Vec4.scale, Vec4.add, Vec3.dot, Vec3.sub, Vec4.mk.injEq]
  refine ⟨?_, ?_, ?_, ?_⟩ <;> norm_num <;> ring

/-- What is in front of the eye has a positive last coordinate. -/
theorem perspective_apply (angle aspect near far : ℝ) (v : Vec4 ℝ) :
    (perspective angle aspect near far).apply v =
      ⟨Scalar.cos (0.5 * angle) / Scalar.sin (0.5 * angle) / aspect * v.x,
        Scalar.cos (0.5 * angle) / Scalar.sin (0.5 * angle) * v.y,
        far / (near - far) * v.z + far / (near - far) * near * v.w, -v.z⟩ := by
  simp only [perspective, apply, Vec4.scale, Vec4.add, Vec4.mk.injEq]
  refine ⟨?_, ?_, ?_, ?_⟩ <;> norm_num

end Mat4

end SphereCloud
