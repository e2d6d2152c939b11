import SphereCloud.Proofs.Exact.Spreads
import SphereCloud.Sphere

/-!
How far roundings take a point from the unit sphere. Close to the poles they can change the radius
of a circle of latitude by any part of it, but there the radius is so small that its square hardly
matters.
-/

namespace SphereCloud

namespace Spread

variable {sine cosine : ℝ → ℝ} {z t r s x : ℝ}

/-- What the radius of the circle of latitude can come to at a height. -/
noncomputable def radius (z : ℝ) : Spread sine cosine :=
  Scalar.sqrt (1.0 - exactly z * exactly z)

theorem mem_radius : r ∈ (radius z : Spread sine cosine) ↔
    ∃ d₀, |d₀| ≤ roundoff ∧ z * z * (1 + d₀) ≤ 1 ∧ ∃ d₁, |d₁| ≤ roundoff ∧ ∃ d₂, |d₂| ≤ roundoff ∧
      r = Real.sqrt ((1 - z * z * (1 + d₀)) * (1 + d₁)) * (1 + d₂) := by
  rw [radius, one_literal]
  simp only [mem_sqrt, mem_sub, mem_mul, mem_exactly]
  constructor
  · rintro ⟨_, ⟨_, rfl, _, ⟨_, rfl, _, rfl, d₀, hd₀, rfl⟩, d₁, hd₁, rfl⟩, hroot, d₂, hd₂, rfl⟩
    have hle := nonneg_of_mul_nonneg_left hroot (one_add_pos hd₁)
    exact ⟨d₀, hd₀, sub_nonneg.mp hle, d₁, hd₁, d₂, hd₂, rfl⟩
  · rintro ⟨d₀, hd₀, hle, d₁, hd₁, d₂, hd₂, rfl⟩
    have hroot := mul_nonneg (sub_nonneg.mpr hle) (one_add_pos hd₁).le
    exact ⟨_, ⟨1, rfl, _, ⟨z, rfl, z, rfl, d₀, hd₀, rfl⟩, d₁, hd₁, rfl⟩, hroot, d₂, hd₂, rfl⟩

/-- The square of the radius is as good as a few roundings leave it, except for what rounding the
square of the height has done. -/
theorem drifts_sq_of_mem_radius (hr : r ∈ (radius z : Spread sine cosine)) :
    ∃ d, |d| ≤ roundoff ∧ z * z * (1 + d) ≤ 1 ∧
      Drifts roundoff 3 (1 - z * z * (1 + d)) (r ^ 2) := by
  obtain ⟨d₀, hd₀, hle, d₁, hd₁, d₂, hd₂, rfl⟩ := mem_radius.mp hr
  have hexact := sub_nonneg.mpr hle
  have hroot := mul_nonneg hexact (one_add_pos hd₁).le
  refine ⟨d₀, hd₀, hle, ?_⟩
  rw [mul_pow, Real.sq_sqrt hroot, sq, ← mul_assoc]
  have hsub := (Drifts.refl roundoff _).perturb roundoff_le_one hexact hd₁
  have hsqrt := hsub.perturb roundoff_le_one hroot hd₂
  exact hsqrt.perturb roundoff_le_one (mul_nonneg hroot (one_add_pos hd₂).le) hd₂

theorem drifts_sq_of_mem_mul (hx : x ∈ radius z * (exactly s : Spread sine cosine)) :
    ∃ d, |d| ≤ roundoff ∧ z * z * (1 + d) ≤ 1 ∧
      Drifts roundoff 5 ((1 - z * z * (1 + d)) * s ^ 2) (x ^ 2) := by
  obtain ⟨r, hr, c, rfl, d, hd, rfl⟩ := mem_mul.mp hx
  obtain ⟨d₀, hd₀, hle, hradius⟩ := drifts_sq_of_mem_radius hr
  have hnonneg := mul_nonneg (sq_nonneg r) (sq_nonneg c)
  have hsquare : (r * c * (1 + d)) ^ 2 = r ^ 2 * c ^ 2 * (1 + d) * (1 + d) := by ring
  refine ⟨d₀, hd₀, hle, ?_⟩
  rw [hsquare]
  have hproduct := (hradius.mul_right (sq_nonneg c)).perturb roundoff_le_one hnonneg hd
  exact hproduct.perturb roundoff_le_one (mul_nonneg hnonneg (one_add_pos hd).le) hd

/-- The square of a coordinate is off by a few roundings of the square of the sine or cosine in
it. -/
theorem abs_sq_sub_le_of_mem (hz : |z| ≤ 1) (hx : x ∈ radius z * (exactly s : Spread sine cosine)) :
    |x ^ 2 - (1 - z ^ 2) * s ^ 2| ≤ 7 * roundoff * s ^ 2 := by
  obtain ⟨d, hd, hle, hdrift⟩ := drifts_sq_of_mem_mul hx
  have hnonneg : 0 ≤ z * z * (1 + d) := mul_nonneg (mul_self_nonneg z) (one_add_pos hd).le
  have hheight : |(1 - z * z * (1 + d)) - (1 - z ^ 2)| ≤ roundoff := by
    have heq : (1 - z * z * (1 + d)) - (1 - z ^ 2) = -(z ^ 2 * d) := by ring
    rw [heq, abs_neg, abs_mul, abs_of_nonneg (sq_nonneg z)]
    exact (mul_le_of_le_one_left (abs_nonneg d) ((sq_le_one_iff_abs_le_one z).mpr hz)).trans hd
  -- Near the poles `1 - q` is no part of `1 - z ^ 2`, so the two are compared by their difference
  -- only.
  obtain ⟨q, hq⟩ : ∃ q, z * z * (1 + d) = q := ⟨_, rfl⟩
  rw [hq] at hle hdrift hnonneg hheight
  have hsq := sq_nonneg s
  have hcoeff : 0 ≤ 6 * roundoff := mul_nonneg (by norm_num) roundoff_nonneg
  have hrounded : |x ^ 2 - (1 - q) * s ^ 2| ≤ 6 * roundoff * ((1 - q) * s ^ 2) := by
    have hfew : ((5 : ℕ) : ℝ) * ((5 : ℕ) + 1) * roundoff ≤ 1 := by
      have := roundoff_le
      norm_num
      linarith
    have h := hdrift.abs_sub_le roundoff_nonneg roundoff_le_one hfew
      (mul_nonneg (sub_nonneg.mpr hle) hsq)
    norm_num at h ⊢
    exact h
  calc |x ^ 2 - (1 - z ^ 2) * s ^ 2|
      ≤ |x ^ 2 - (1 - q) * s ^ 2| + |(1 - q) * s ^ 2 - (1 - z ^ 2) * s ^ 2| := abs_sub_le _ _ _
    _ ≤ 6 * roundoff * s ^ 2 + roundoff * s ^ 2 := by
        rw [← sub_mul ((1 : ℝ) - q), abs_mul, abs_of_nonneg hsq]
        refine add_le_add (hrounded.trans ?_) (mul_le_mul_of_nonneg_right hheight hsq)
        exact mul_le_mul_of_nonneg_left (mul_le_of_le_one_left hsq (by linarith)) hcoeff
    _ = 7 * roundoff * s ^ 2 := by ring

/-- Only the sum of the squares of sine and cosine counts. -/
theorem abs_sum_sq_sub_one_le {c y : ℝ} (hz : |z| ≤ 1)
    (hx : x ∈ radius z * (exactly c : Spread sine cosine))
    (hy : y ∈ radius z * (exactly s : Spread sine cosine)) :
    |x ^ 2 + y ^ 2 + z ^ 2 - 1| ≤ 7 * roundoff * (s ^ 2 + c ^ 2) + |s ^ 2 + c ^ 2 - 1| := by
  have hx2 := abs_sq_sub_le_of_mem hz hx
  have hy2 := abs_sq_sub_le_of_mem hz hy
  have hz2 : 0 ≤ 1 - z ^ 2 := sub_nonneg.mpr ((sq_le_one_iff_abs_le_one z).mpr hz)
  have hcircle : |(1 - z ^ 2) * (s ^ 2 + c ^ 2 - 1)| ≤ |s ^ 2 + c ^ 2 - 1| := by
    rw [abs_mul, abs_of_nonneg hz2]
    exact mul_le_of_le_one_left (abs_nonneg _) (by linarith [sq_nonneg z])
  have hsum : x ^ 2 + y ^ 2 + z ^ 2 - 1 =
      (x ^ 2 - (1 - z ^ 2) * c ^ 2) + (y ^ 2 - (1 - z ^ 2) * s ^ 2) +
        (1 - z ^ 2) * (s ^ 2 + c ^ 2 - 1) := by ring
  calc |x ^ 2 + y ^ 2 + z ^ 2 - 1|
      ≤ 7 * roundoff * c ^ 2 + 7 * roundoff * s ^ 2 + |s ^ 2 + c ^ 2 - 1| := by
        rw [hsum]
        exact (abs_add_three _ _ _).trans (add_le_add (add_le_add hx2 hy2) hcircle)
    _ = 7 * roundoff * (s ^ 2 + c ^ 2) + |s ^ 2 + c ^ 2 - 1| := by ring

theorem pointAt_exactly : pointAt (exactly z : Spread sine cosine) (exactly t) =
    ⟨radius z * exactly (cosine t), radius z * exactly (sine t), exactly z⟩ := by
  rw [pointAt, cos_exactly, sin_exactly]
  rfl

theorem projectPair_exactly (hz : |z| ≤ 1) (index : ℕ) :
    projectPair index (exactly z : Spread sine cosine) (exactly t) =
      .ok ⟨radius z * exactly (cosine t), radius z * exactly (sine t), exactly z⟩ := by
  have hsphere : onSphere (exactly z : Spread sine cosine) (exactly t) = true := by
    rw [onSphere, abs_exactly, one_literal, le_exactly hz]
    rfl
  rw [projectPair, if_pos hsphere, pointAt_exactly]

/-- The square of the length of a point is one, up to a part in a billion, whatever the roundings
do, if what stands in place of sine and cosine is on the unit circle up to a few roundings. -/
theorem projectPair_near_sphere (hz : |z| ≤ 1)
    (htrig : |sine t ^ 2 + cosine t ^ 2 - 1| ≤ 2 ^ (-50 : ℤ)) :
    ∃ p : Vec3 (Spread sine cosine), (∀ index, projectPair index (exactly z) (exactly t) = .ok p) ∧
      (∀ d : Fin 5 → ℝ, (∀ i, |d i| ≤ 2 ^ (-53 : ℤ)) → z * z * (1 + d 0) ≤ 1 →
        let r := Real.sqrt ((1 - z * z * (1 + d 0)) * (1 + d 1)) * (1 + d 2)
        r * cosine t * (1 + d 3) ∈ p.x ∧ r * sine t * (1 + d 4) ∈ p.y ∧ z ∈ p.z) ∧
      ∀ x ∈ p.x, ∀ y ∈ p.y, ∀ w ∈ p.z, |x ^ 2 + y ^ 2 + w ^ 2 - 1| ≤ 1e-9 := by
  refine ⟨_, projectPair_exactly hz, fun d hd hle => ?_, ?_⟩
  · rw [← roundoff_eq] at hd
    have hr : Real.sqrt ((1 - z * z * (1 + d 0)) * (1 + d 1)) * (1 + d 2) ∈
        (radius z : Spread sine cosine) :=
      mem_radius.mpr ⟨d 0, hd 0, hle, d 1, hd 1, d 2, hd 2, rfl⟩
    exact ⟨mem_mul.mpr ⟨_, hr, _, rfl, d 3, hd 3, rfl⟩,
      mem_mul.mpr ⟨_, hr, _, rfl, d 4, hd 4, rfl⟩, rfl⟩
  · rintro x hx y hy w rfl
    have hcoeff : 0 ≤ 7 * roundoff := mul_nonneg (by norm_num) roundoff_nonneg
    have hsquares : sine t ^ 2 + cosine t ^ 2 ≤ 1 + 2 ^ (-50 : ℤ) :=
      sub_le_iff_le_add'.mp (le_of_abs_le htrig)
    calc |x ^ 2 + y ^ 2 + w ^ 2 - 1|
        ≤ 7 * roundoff * (sine t ^ 2 + cosine t ^ 2) + |sine t ^ 2 + cosine t ^ 2 - 1| :=
          abs_sum_sq_sub_one_le hz hx hy
      _ ≤ 7 * roundoff * (1 + 2 ^ (-50 : ℤ)) + 2 ^ (-50 : ℤ) :=
          add_le_add (mul_le_mul_of_nonneg_left hsquares hcoeff) htrig
      _ ≤ 1e-9 := by
          rw [roundoff_eq]
          norm_num

/-- At the pole one rounding makes a radius of nothing. -/
theorem projectPair_near_sphere_pole :
    |(1 : ℝ)| ≤ 1 ∧ |Real.sin 0 ^ 2 + Real.cos 0 ^ 2 - 1| ≤ 2 ^ (-50 : ℤ) ∧
      ∃ p : Vec3 (Spread Real.sin Real.cos), projectPair 7 (exactly 1) (exactly 0) = .ok p ∧
        Real.sqrt (2 ^ (-53 : ℤ)) ∈ p.x ∧ 0 ∈ p.y ∧ 1 ∈ p.z ∧
        |Real.sqrt (2 ^ (-53 : ℤ)) ^ 2 + 0 ^ 2 + 1 ^ 2 - 1| ≤ 1e-9 := by
  have hpole : |(1 : ℝ)| ≤ 1 := abs_one.le
  have hcircle : |Real.sin 0 ^ 2 + Real.cos 0 ^ 2 - 1| ≤ 2 ^ (-50 : ℤ) := by
    rw [Real.sin_sq_add_cos_sq, sub_self, abs_zero]
    norm_num
  obtain ⟨p, hp, hmem, hlength⟩ := projectPair_near_sphere (t := 0) hpole hcircle
  have hsmall (i : Fin 5) : |(Pi.single 0 (-2 ^ (-53 : ℤ)) : Fin 5 → ℝ) i| ≤ 2 ^ (-53 : ℤ) := by
    rw [Pi.single_apply]
    split <;> norm_num
  obtain ⟨hx, hy, hw⟩ := hmem _ hsmall (by norm_num)
  have hroot : Real.sqrt (2 ^ (-53 : ℤ)) ∈ p.x := by
    rw [Pi.single_eq_same, Pi.single_eq_of_ne (by decide), Pi.single_eq_of_ne (by decide),
      Pi.single_eq_of_ne (by decide)] at hx
    convert hx using 1
    norm_num
  have hzero : 0 ∈ p.y := by
    convert hy using 1
    norm_num
  exact ⟨hpole, hcircle, p, hp 7, hroot, hzero, hw, hlength _ hroot 0 hzero 1 hw⟩

end Spread

end SphereCloud
