import Mathlib.Analysis.SpecialFunctions.Trigonometric.Basic
import Mathlib.Analysis.SpecialFunctions.Sqrt
import SphereCloud.Generator.Uniform

/-!
The formulas of the library read in the real numbers, where no operation rounds. Of steps that are
kept between two bounds and go in one direction only the sum counts, as they are cut off once at
most.
-/

namespace SphereCloud

noncomputable instance : Scalar ℝ where
  ofNat n := n
  tau := 2 * Real.pi
  sqrt := Real.sqrt
  sin := Real.sin
  cos := Real.cos
  abs x := |x|
  lt x y := decide (x < y)
  le x y := decide (x ≤ y)
  isFinite _ := true
  rem x y := x - y * (if 0 ≤ x / y then ⌊x / y⌋ else ⌈x / y⌉)
  toNat x := min ⌊x⌋₊ 18446744073709551615

/-- Without rounding a fraction below one of a width is below the width. -/
noncomputable instance : UniformScalar ℝ where
  stretch lo hi := hi - lo

theorem ofNat_real (n : ℕ) : (Scalar.ofNat n : ℝ) = n := rfl

theorem tau_real : (Scalar.tau : ℝ) = 2 * Real.pi := rfl

theorem tau_pos : (0 : ℝ) < Scalar.tau := Real.two_pi_pos

theorem zero_literal : (0.0 : ℝ) = 0 := by norm_num

/-- The point of the unit square that a pair of a height and an angle is made of. -/
noncomputable def unitSquare (pair : ℝ × ℝ) : ℝ × ℝ :=
  ((pair.1 + 1) / 2, pair.2 / (2 * Real.pi))

variable {lo hi x a b : ℝ}

theorem clamp_real (h : lo ≤ hi) (x : ℝ) : Scalar.clamp x lo hi = max lo (min hi x) := by
  have hlt (y z : ℝ) : Scalar.lt y z = decide (y < z) := rfl
  simp only [Scalar.clamp, hlt, decide_eq_true_eq]
  rcases lt_or_ge x lo with hlow | hlow
  · rw [if_pos hlow, if_neg h.not_gt, min_eq_right (hlow.le.trans h), max_eq_left hlow.le]
  · rw [if_neg hlow.not_gt]
    rcases lt_or_ge hi x with hhigh | hhigh
    · rw [if_pos hhigh, min_eq_left hhigh.le, max_eq_right h]
    · rw [if_neg hhigh.not_gt, min_eq_right hhigh, max_eq_right hlow]

theorem clamp_mem_Icc (h : lo ≤ hi) (x : ℝ) : Scalar.clamp x lo hi ∈ Set.Icc lo hi := by
  rw [clamp_real h]
  exact ⟨le_max_left _ _, max_le h (min_le_left _ _)⟩

theorem clamp_of_mem (hx : x ∈ Set.Icc lo hi) : Scalar.clamp x lo hi = x := by
  rw [clamp_real (hx.1.trans hx.2), min_eq_right hx.2, max_eq_right hx.1]

/-- Upward only the upper bound can be met. -/
theorem clamp_add_of_nonneg (hx : x ∈ Set.Icc lo hi) (ha : 0 ≤ a) :
    Scalar.clamp (x + a) lo hi = min hi (x + a) := by
  have hle : lo ≤ hi := hx.1.trans hx.2
  rw [clamp_real hle, max_eq_right (le_min hle (le_add_of_le_of_nonneg hx.1 ha))]

/-- Downward only the lower bound can be met. -/
theorem clamp_add_of_nonpos (hx : x ∈ Set.Icc lo hi) (ha : a ≤ 0) :
    Scalar.clamp (x + a) lo hi = max lo (x + a) := by
  rw [clamp_real (hx.1.trans hx.2), min_eq_right (add_le_of_le_of_nonpos hx.2 ha)]

/-- Two steps in one direction come to one step. -/
theorem clamp_clamp_add (hx : x ∈ Set.Icc lo hi) (h : 0 ≤ a ∧ 0 ≤ b ∨ a ≤ 0 ∧ b ≤ 0) :
    Scalar.clamp (Scalar.clamp (x + a) lo hi + b) lo hi = Scalar.clamp (x + (a + b)) lo hi := by
  have hfirst := clamp_mem_Icc (hx.1.trans hx.2) (x + a)
  rcases h with ⟨ha, hb⟩ | ⟨ha, hb⟩
  · rw [clamp_add_of_nonneg hfirst hb, clamp_add_of_nonneg hx ha,
      clamp_add_of_nonneg hx (add_nonneg ha hb), min_add, ← min_assoc,
      min_eq_left (le_add_of_nonneg_right hb), add_assoc]
  · rw [clamp_add_of_nonpos hfirst hb, clamp_add_of_nonpos hx ha,
      clamp_add_of_nonpos hx (add_nonpos ha hb), max_add, ← max_assoc,
      max_eq_left (add_le_of_nonpos_right hb), add_assoc]

end SphereCloud
