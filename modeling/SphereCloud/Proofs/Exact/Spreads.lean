import Mathlib.Data.Set.NAry
import SphereCloud.Proofs.Exact.Reals
import SphereCloud.Proofs.Binary.RelativeError

/-!
Formulas read with their rounding left open. A number is all that it can come to when each operation
may change its exact result by a small part of it.
-/

namespace SphereCloud

/-- All that a computation can come to, with two functions in place of sine and cosine. -/
structure Spread (sine cosine : ℝ → ℝ) where
  results : Set ℝ

namespace Spread

/-- The greatest part of an exact result that rounding changes, in double precision. -/
noncomputable def roundoff : ℝ :=
  Binary.unitRoundoff .binary64

theorem roundoff_eq : roundoff = 2 ^ (-53 : ℤ) :=
  Binary.unitRoundoff_eq_zpow _

theorem roundoff_nonneg : 0 ≤ roundoff :=
  (Binary.unitRoundoff_pos _).le

theorem roundoff_le : roundoff ≤ 1 / 1000 := by
  rw [roundoff_eq]
  norm_num

theorem roundoff_le_one : roundoff ≤ 1 :=
  roundoff_le.trans (by norm_num)

theorem one_add_pos {d : ℝ} (hd : |d| ≤ roundoff) : 0 < 1 + d := by
  have := roundoff_le
  have := (abs_le.mp hd).1
  linarith

variable {sine cosine : ℝ → ℝ}

instance : Membership ℝ (Spread sine cosine) where
  mem A x := x ∈ A.results

def exactly (x : ℝ) : Spread sine cosine :=
  ⟨{x}⟩

/-- What an operation can come to that has one of the given exact results. -/
def rounded (exact : Set ℝ) : Spread sine cosine :=
  ⟨{y | ∃ x ∈ exact, ∃ d, |d| ≤ roundoff ∧ y = x * (1 + d)}⟩

/-- Literals are exact, and so are signs, remainders and the functions in place of sine and cosine.
An order holds if it is sure to hold. -/
noncomputable instance : Scalar (Spread sine cosine) where
  add A B := rounded (Set.image2 (· + ·) A.results B.results)
  sub A B := rounded (Set.image2 (· - ·) A.results B.results)
  mul A B := rounded (Set.image2 (· * ·) A.results B.results)
  div A B := rounded (Set.image2 (· / ·) A.results (B.results \ {0}))
  neg A := ⟨(-·) '' A.results⟩
  ofScientific m s e := exactly (OfScientific.ofScientific m s e)
  ofNat n := rounded {(n : ℝ)}
  tau := rounded {Scalar.tau}
  sqrt A := rounded (Real.sqrt '' {x ∈ A.results | 0 ≤ x})
  sin A := ⟨sine '' A.results⟩
  cos A := ⟨cosine '' A.results⟩
  abs A := ⟨(|·|) '' A.results⟩
  lt A B := open scoped Classical in decide (∀ x ∈ A.results, ∀ y ∈ B.results, x < y)
  le A B := open scoped Classical in decide (∀ x ∈ A.results, ∀ y ∈ B.results, x ≤ y)
  isFinite _ := true
  rem A B := ⟨Set.image2 Scalar.rem A.results (B.results \ {0})⟩
  toNat A := sInf (Scalar.toNat '' A.results)

variable {A B : Spread sine cosine} {x y : ℝ}

theorem mem_exactly : x ∈ (exactly y : Spread sine cosine) ↔ x = y :=
  Iff.rfl

theorem mem_sub : x ∈ A - B ↔ ∃ a ∈ A, ∃ b ∈ B, ∃ d, |d| ≤ roundoff ∧ x = (a - b) * (1 + d) := by
  change (∃ y ∈ Set.image2 _ _ _, _) ↔ _
  rw [Set.exists_mem_image2]
  rfl

theorem mem_mul : x ∈ A * B ↔ ∃ a ∈ A, ∃ b ∈ B, ∃ d, |d| ≤ roundoff ∧ x = a * b * (1 + d) := by
  change (∃ y ∈ Set.image2 _ _ _, _) ↔ _
  rw [Set.exists_mem_image2]
  rfl

/-- What is negative has no square root. -/
theorem mem_sqrt :
    x ∈ Scalar.sqrt A ↔ ∃ a ∈ A, 0 ≤ a ∧ ∃ d, |d| ≤ roundoff ∧ x = Real.sqrt a * (1 + d) := by
  change (∃ y ∈ Real.sqrt '' _, _) ↔ _
  rw [Set.exists_mem_image]
  simp only [Set.mem_ofPred_eq, and_assoc]
  rfl

theorem sin_exactly : Scalar.sin (exactly x : Spread sine cosine) = exactly (sine x) :=
  congrArg Spread.mk Set.image_singleton

theorem cos_exactly : Scalar.cos (exactly x : Spread sine cosine) = exactly (cosine x) :=
  congrArg Spread.mk Set.image_singleton

theorem abs_exactly : Scalar.abs (exactly x : Spread sine cosine) = exactly |x| :=
  congrArg Spread.mk Set.image_singleton

theorem one_literal : (1.0 : Spread sine cosine) = exactly 1 := by
  change exactly (1.0 : ℝ) = exactly 1
  norm_num

theorem le_exactly (h : x ≤ y) : Scalar.le (exactly x : Spread sine cosine) (exactly y) = true := by
  classical
  refine decide_eq_true ?_
  rintro a rfl b rfl
  exact h

end Spread

end SphereCloud
