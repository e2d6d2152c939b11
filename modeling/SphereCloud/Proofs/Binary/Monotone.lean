import SphereCloud.Proofs.Binary.BinaryScalar

/-!
Rounding keeps the order of numbers, and so do the sums and products that are rounded.
-/

namespace SphereCloud

namespace Binary

open Float.Model (Format UnpackedFloat)
open Float.Model.UnpackedFloat (Sign)

variable {spec : Format} {u v : UnpackedFloat} {x y : ℝ}

/-- The number closest to the smaller of two is not the larger one: both would lie on the wrong side
of the middle between the two closest numbers. -/
theorem Nearest.value_le_value (hu : Nearest spec x u) (hv : Nearest spec y v) (h : x < y) :
    value u ≤ value v := by
  by_contra hlt
  have hx := sq_le_sq.mpr (hu.closest _ hv.canonical.onGrid)
  have hy := sq_le_sq.mpr (hv.closest _ hu.canonical.onGrid)
  nlinarith

/-- A number other than zero is stored in one way only. -/
theorem eq_of_value_eq (hu : Canonical spec u) (hv : Canonical spec v) (hu' : u.isFinite = true)
    (hv' : v.isFinite = true) (h : value u = value v) (hne : value u ≠ 0) : u = v := by
  rcases u with _ | _ | _ | ⟨s, m, e, hm⟩
  case infinity => cases hu'
  case notANumber => cases hu'
  case zero => exact absurd (value_zero _) hne
  case finite =>
    rcases v with _ | _ | _ | ⟨t, n, f, hn⟩
    case infinity => cases hv'
    case notANumber => cases hv'
    case zero => exact absurd (h.trans (value_zero _)) hne
    case finite =>
      have hm' : (0 : ℝ) < m * 2 ^ e := by positivity
      have hn' : (0 : ℝ) < n * 2 ^ f := by positivity
      have habs : (m : ℝ) * 2 ^ e = n * 2 ^ f := by
        rw [← abs_value_finite s e hm, ← abs_value_finite t f hn, h]
      have hcompare := compare_then_eq_cmp hu hv
      rw [habs, cmp_self_eq_eq, Ordering.then_eq_eq, Int.compare_eq_eq,
        Nat.compare_eq_eq] at hcompare
      obtain ⟨rfl, rfl⟩ := hcompare
      rw [value_finite, value_finite] at h
      cases s <;> cases t <;> simp only [signed] at h
      case negative.negative => rfl
      case positive.positive => rfl
      case negative.positive => linarith
      case positive.negative => linarith

theorem mul_swap (spec : Format) (u v : UnpackedFloat) :
    UnpackedFloat.mul spec u v = UnpackedFloat.mul spec v u := by
  have hsign (s t : Sign) : s * t = t * s := by cases s <;> cases t <;> rfl
  cases u <;> cases v <;> simp only [UnpackedFloat.mul, hsign, Nat.mul_comm, Int.add_comm]

theorem le_of_isLE_then {e f : ℤ} {o : Ordering} (h : ((compare e f).then o).isLE = true) :
    e ≤ f := by
  rw [Int.compare_eq_ite_lt] at h
  split_ifs at h with hlt hgt
  · exact hlt.le
  · cases h
  · exact not_lt.mp hgt

theorem le_of_isLE_then_swap {e f : ℤ} {o : Ordering}
    (h : ((compare e f).then o).swap.isLE = true) : f ≤ e := by
  rw [Ordering.swap_then, Int.compare_swap] at h
  exact le_of_isLE_then h

/-- Numbers that become infinite keep their order: exponents are compared before mantissas. -/
theorem fit_le_fit (spec : Format) (h : u.le v = true) : (fit spec u).le (fit spec v) = true := by
  rcases u with (_ | _) | _ | s | ⟨_ | _, m, e, hm⟩ <;>
    rcases v with (_ | _) | _ | t | ⟨_ | _, n, f, hn⟩
  case finite.negative.finite.negative =>
    have he : f ≤ e := le_of_isLE_then_swap h
    simp only [fit]
    split_ifs
    · exact h
    · omega
    · rfl
    · rfl
  case finite.positive.finite.positive =>
    have he : e ≤ f := le_of_isLE_then h
    simp only [fit]
    split_ifs
    · exact h
    · rfl
    · omega
    · rfl
  all_goals
    first
    | exact h
    | exact absurd h Bool.false_ne_true
    | (simp only [fit]; split_ifs <;> exact h)

/-- Rounding what is not below a finite number gives no less, be it infinite. -/
theorem Nearest.le_fit (h : Nearest spec x u) (hv : Stored spec v) (hv' : v.isFinite = true)
    (hx : value v ≤ x) : v.le (fit spec u) = true := by
  have hle : v.le u = true :=
    (le_iff_value hv.canonical h.canonical hv' h.isFinite).mpr (h.le_value hv.canonical.onGrid hx)
  have hfit := fit_le_fit spec hle
  rwa [hv.fit_eq] at hfit

end Binary

namespace BinaryScalar

open Binary (Representable)

variable {α : Type} [Scalar α] [BinaryScalar α] {x y z w : α} {r s : ℝ}

theorem unpack_eq_of_real_eq (hx : Scalar.isFinite x = true) (hy : Scalar.isFinite y = true)
    (h : real x = real y) (hne : real x ≠ 0) : unpack x = unpack y := by
  rw [isFinite] at hx hy
  exact Binary.eq_of_value_eq (canonical x) (canonical y) hx hy h hne

/-- Rounding keeps the order, be the results infinite. Numbers halfway between two others are left
out: there the closest number is not the only one. -/
theorem Rounds.le_of_lt (hx : Rounds r x) (hy : Rounds s y) (h : r < s) : Scalar.le x y = true := by
  obtain ⟨u, hu, hunpack⟩ := hx
  obtain ⟨v, hv, hunpack'⟩ := hy
  rw [le, hunpack, hunpack']
  apply Binary.fit_le_fit
  exact (Binary.le_iff_value hu.canonical hv.canonical hu.isFinite hv.isFinite).mpr
    (hu.value_le_value hv h)

theorem Rounds.real_le_real (hx : Rounds r x) (hy : Rounds s y) (hx' : Scalar.isFinite x = true)
    (hy' : Scalar.isFinite y = true) (h : r < s) : real x ≤ real y :=
  (le_iff_real hx' hy').mp (hx.le_of_lt hy h)

/-- A number that is rounded below a finite one is below it. -/
theorem Rounds.lt_of_not_le (h : Rounds r x) (hy : Scalar.isFinite y = true)
    (hle : ¬ Scalar.le y x = true) : r < real y := by
  by_contra hr
  obtain ⟨u, hu, hx⟩ := h
  rw [isFinite] at hy
  rw [le, hx] at hle
  exact hle (hu.le_fit (stored y) hy (not_lt.mp hr))

theorem unpack_mul_swap (x y : α) : unpack (x * y) = unpack (y * x) := by
  rw [mul, mul, Binary.mul_swap]

section Sum

variable (hx : Scalar.isFinite x = true) (hy : Scalar.isFinite y = true)
include hx hy

theorem real_add_of_left_zero (h : real x = 0) : real (x + y) = real y := by
  have hsum := rounds_add hx hy
  rw [h, zero_add] at hsum
  exact (hsum.exact (representable_real y)).2

theorem real_add_of_right_zero (h : real y = 0) : real (x + y) = real x := by
  have hsum := rounds_add hx hy
  rw [h, add_zero] at hsum
  exact (hsum.exact (representable_real x)).2

theorem mul_of_eq_zero (h : real x * real y = 0) :
    Scalar.isFinite (x * y) = true ∧ real (x * y) = 0 := by
  have hproduct := rounds_mul hx hy
  rw [h] at hproduct
  exact hproduct.exact representable_zero

/-- A sum grows with each number from zero on. -/
theorem real_le_real_add (hsum : Scalar.isFinite (x + y) = true) (h : 0 ≤ real y) :
    real x ≤ real (x + y) :=
  ((rounds_add hx hy).nearest hsum).le_value (representable_real x).onGrid
    (le_add_of_nonneg_right h)

variable (hz : Scalar.isFinite z = true) (hw : Scalar.isFinite w = true)
include hz hw

theorem real_add_le_add (hsum : Scalar.isFinite (x + y) = true)
    (hsum' : Scalar.isFinite (z + w) = true)
    (h : real x ≤ real z) (h' : real y ≤ real w) : real (x + y) ≤ real (z + w) := by
  rcases (add_le_add h h').lt_or_eq with hlt | heq
  · exact (rounds_add hx hy).real_le_real (rounds_add hz hw) hsum hsum' hlt
  · have hxz : real x = real z := by linarith
    have hyw : real y = real w := by linarith
    by_cases hx₀ : real x = 0
    · rw [real_add_of_left_zero hx hy hx₀, real_add_of_left_zero hz hw (hxz ▸ hx₀), hyw]
    by_cases hy₀ : real y = 0
    · rw [real_add_of_right_zero hx hy hy₀, real_add_of_right_zero hz hw (hyw ▸ hy₀), hxz]
    rw [real, real, add, add, unpack_eq_of_real_eq hx hz hxz hx₀,
      unpack_eq_of_real_eq hy hw hyw hy₀]

omit hw

/-- Products with one number from zero on are in the order of the other, be they infinite. -/
theorem mul_le_mul_left (hx₀ : 0 ≤ real x) (h : real y ≤ real z) :
    Scalar.le (x * y) (x * z) = true := by
  rcases (mul_le_mul_of_nonneg_left h hx₀).lt_or_eq with hlt | heq
  · exact (rounds_mul hx hy).le_of_lt (rounds_mul hx hz) hlt
  by_cases hy₀ : real x * real y = 0
  · obtain ⟨hproduct, hreal⟩ := mul_of_eq_zero hx hy hy₀
    obtain ⟨hproduct', hreal'⟩ := mul_of_eq_zero hx hz (heq ▸ hy₀)
    rw [le_iff_real hproduct hproduct', hreal, hreal']
  · have hyz : real y = real z := mul_left_cancel₀ (left_ne_zero_of_mul hy₀) heq
    have hsame : unpack (x * y) = unpack (x * z) := by
      rw [mul, mul, unpack_eq_of_real_eq hy hz hyz (right_ne_zero_of_mul hy₀)]
    rw [le, ← hsame]
    exact Binary.le_refl (rounds_mul hx hy).isNumber

theorem mul_le_mul_right (hx₀ : 0 ≤ real x) (h : real y ≤ real z) :
    Scalar.le (y * x) (z * x) = true := by
  rw [le, unpack_mul_swap y, unpack_mul_swap z, ← le]
  exact mul_le_mul_left hx hy hz hx₀ h

theorem real_mul_le_mul_left (hproduct : Scalar.isFinite (x * y) = true)
    (hproduct' : Scalar.isFinite (x * z) = true) (hx₀ : 0 ≤ real x) (h : real y ≤ real z) :
    real (x * y) ≤ real (x * z) :=
  (le_iff_real hproduct hproduct').mp (mul_le_mul_left hx hy hz hx₀ h)

end Sum

end BinaryScalar

end SphereCloud
