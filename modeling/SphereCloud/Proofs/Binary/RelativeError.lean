import SphereCloud.Proofs.Binary.BinaryScalar

/-!
How far a result is from what it rounds, in parts of this number, and how such errors add up in a
row of operations.
-/

namespace SphereCloud

namespace Binary

open Float.Model (Format UnpackedFloat)

variable {spec : Format}

/-- The greatest part of a number by which rounding changes it: half of the last place of one. -/
noncomputable def unitRoundoff (spec : Format) : ℝ :=
  (2 : ℕ) ^ (-(spec.mantissaBits : ℤ))

theorem unitRoundoff_eq_zpow (spec : Format) :
    unitRoundoff spec = 2 ^ (-(spec.mantissaBits : ℤ)) := by
  rw [unitRoundoff, Nat.cast_two]

theorem unitRoundoff_pos (spec : Format) : 0 < unitRoundoff spec := by
  rw [unitRoundoff_eq_zpow]
  exact zpow_pos two_pos _

theorem onGrid_of_abs_le {n t : ℤ} (hn : |n| ≤ 2 ^ spec.mantissaBits) (ht : spec.minExponent ≤ t) :
    OnGrid spec (n * 2 ^ t) := by
  rcases hn.lt_or_eq with hlt | heq
  · exact ⟨n, t, hlt, ht, rfl⟩
  · -- A mantissa that is one bit too long is a power of two.
    have hhalf : |(2 : ℤ) ^ spec.mantissaBitsWithoutImplicit| < 2 ^ spec.mantissaBits := by
      rw [abs_of_nonneg (by positivity), two_pow_mantissaBits]
      have : (0 : ℤ) < 2 ^ spec.mantissaBitsWithoutImplicit := by positivity
      omega
    have hcarry : (2 : ℝ) ^ spec.mantissaBits * 2 ^ t =
        (2 ^ spec.mantissaBitsWithoutImplicit : ℤ) * 2 ^ (t + 1) := by
      rw [two_pow_mantissaBits, zpow_add_one₀ two_ne_zero]
      push_cast
      ring
    have hgrid : OnGrid spec ((2 : ℝ) ^ spec.mantissaBits * 2 ^ t) :=
      ⟨_, t + 1, hhalf, by omega, hcarry⟩
    rcases abs_choice n with habs | habs
    · rw [← habs, heq]
      push_cast
      exact hgrid
    · rw [← neg_neg n, ← habs, heq]
      push_cast
      rw [neg_mul]
      exact hgrid.neg

/-- Close to a number that needs no place below the lowest one there is a number of the format. -/
theorem exists_onGrid_near {x : ℝ}
    (hx : (2 : ℝ) ^ (spec.minExponent + spec.mantissaBitsWithoutImplicit) ≤ |x|) :
    ∃ c, OnGrid spec c ∧ |c - x| ≤ unitRoundoff spec * |x| := by
  have hpos : 0 < |x| := (zpow_pos two_pos _).trans_le hx
  obtain ⟨e, he⟩ : ∃ e, Int.log 2 |x| = e := ⟨_, rfl⟩
  have hlow : (2 : ℝ) ^ e ≤ |x| := by
    rw [← he]
    exact_mod_cast Int.zpow_log_le_self one_lt_two hpos
  have hhigh : |x| < (2 : ℝ) ^ (e + 1) := by
    rw [← he]
    exact_mod_cast Int.lt_zpow_succ_log_self one_lt_two |x|
  obtain ⟨t, ht⟩ : ∃ t, e - (spec.mantissaBitsWithoutImplicit : ℤ) = t := ⟨_, rfl⟩
  have hplace : (0 : ℝ) < 2 ^ t := zpow_pos two_pos _
  have hround := abs_sub_round (x / 2 ^ t)
  have hscaled : |x / 2 ^ t| < 2 ^ spec.mantissaBits := by
    rw [abs_div, abs_of_pos hplace, div_lt_iff₀ hplace, ← zpow_natCast, ← zpow_add₀ two_ne_zero]
    refine hhigh.trans_le (zpow_le_zpow_right₀ one_le_two ?_)
    rw [Format.mantissaBits]
    omega
  have hmantissa : |round (x / 2 ^ t)| ≤ 2 ^ spec.mantissaBits := by
    have hlt : (|round (x / 2 ^ t)| : ℝ) < 2 ^ spec.mantissaBits + 1 := by
      have := abs_sub_abs_le_abs_sub (round (x / 2 ^ t) : ℝ) (x / 2 ^ t)
      rw [abs_sub_comm] at this
      linarith
    exact Int.lt_add_one_iff.mp (by exact_mod_cast hlt)
  refine ⟨round (x / 2 ^ t) * 2 ^ t, onGrid_of_abs_le hmantissa ?_, ?_⟩
  · have := (zpow_lt_zpow_iff_right₀ one_lt_two).mp (hx.trans_lt hhigh)
    omega
  · have hhalf : (2 : ℝ) ^ t / 2 = unitRoundoff spec * 2 ^ e := by
      rw [unitRoundoff_eq_zpow, ← zpow_add₀ two_ne_zero, div_eq_mul_inv,
        ← zpow_sub_one₀ two_ne_zero]
      congr 1
      rw [Format.mantissaBits]
      omega
    calc |round (x / 2 ^ t) * 2 ^ t - x| = |x / 2 ^ t - round (x / 2 ^ t)| * 2 ^ t := by
          rw [abs_sub_comm, ← abs_of_pos hplace, ← abs_mul, sub_mul, abs_of_pos hplace,
            div_mul_cancel₀ _ hplace.ne']
      _ ≤ 1 / 2 * 2 ^ t := by gcongr
      _ = unitRoundoff spec * 2 ^ e := by rw [← hhalf]; ring
      _ ≤ unitRoundoff spec * |x| := by
          have := (unitRoundoff_pos spec).le
          gcongr

/-- Numbers of the format are whole numbers of the lowest place. -/
theorem OnGrid.exists_int {c : ℝ} (h : OnGrid spec c) : ∃ n : ℤ, c = n * 2 ^ spec.minExponent := by
  obtain ⟨m, e, -, he, rfl⟩ := h
  refine ⟨m * 2 ^ (e - spec.minExponent).toNat, ?_⟩
  push_cast
  rw [mul_assoc, ← zpow_natCast, Int.toNat_of_nonneg (by omega), ← zpow_add₀ two_ne_zero,
    Int.sub_add_cancel]

/-- A sum that is too small to have all bits of a mantissa needs no rounding. -/
theorem onGrid_add {a c : ℝ} (ha : OnGrid spec a) (hc : OnGrid spec c)
    (h : |a + c| < (2 : ℝ) ^ (spec.minExponent + spec.mantissaBitsWithoutImplicit)) :
    OnGrid spec (a + c) := by
  obtain ⟨m, rfl⟩ := ha.exists_int
  obtain ⟨n, rfl⟩ := hc.exists_int
  have hplace : (0 : ℝ) < 2 ^ spec.minExponent := zpow_pos two_pos _
  rw [← add_mul, abs_mul, abs_of_pos hplace, add_comm spec.minExponent, zpow_add₀ two_ne_zero,
    mul_lt_mul_iff_left₀ hplace, zpow_natCast] at h
  have hsmall : |m + n| < 2 ^ spec.mantissaBitsWithoutImplicit := by exact_mod_cast h
  refine ⟨m + n, spec.minExponent, hsmall.trans_le ?_, le_rfl, by push_cast; ring⟩
  exact pow_le_pow_right₀ one_le_two (by rw [Format.mantissaBits]; omega)

variable {x : ℝ} {u : UnpackedFloat}

theorem Nearest.abs_sub_le (h : Nearest spec x u)
    (hx : (2 : ℝ) ^ (spec.minExponent + spec.mantissaBitsWithoutImplicit) ≤ |x|) :
    |value u - x| ≤ unitRoundoff spec * |x| := by
  obtain ⟨c, hc, hnear⟩ := exists_onGrid_near hx
  exact (h.closest c hc).trans hnear

end Binary

namespace BinaryScalar

open Binary (unitRoundoff unitRoundoff_pos)

variable {α : Type} [Scalar α] [BinaryScalar α] {x y : α} {r s : ℝ}

theorem Rounds.abs_sub_le (h : Rounds r x) (hx : Scalar.isFinite x = true)
    (hr : (2 : ℝ) ^ ((format α).minExponent + (format α).mantissaBitsWithoutImplicit) ≤ |r|) :
    |real x - r| ≤ unitRoundoff (format α) * |r| :=
  (h.nearest hx).abs_sub_le hr

/-- Sums are not too small to be rounded well. -/
theorem abs_add_sub_le (hx : Scalar.isFinite x = true) (hy : Scalar.isFinite y = true)
    (hsum : Scalar.isFinite (x + y) = true) :
    |real (x + y) - (real x + real y)| ≤ unitRoundoff (format α) * |real x + real y| := by
  have hrounds := rounds_add hx hy
  rcases le_or_gt ((2 : ℝ) ^ ((format α).minExponent + (format α).mantissaBitsWithoutImplicit))
    |real x + real y| with hle | hlt
  · exact hrounds.abs_sub_le hsum hle
  · have hgrid := Binary.onGrid_add (representable_real x).onGrid (representable_real y).onGrid hlt
    have heq : real (x + y) = real x + real y := (hrounds.nearest hsum).value_eq hgrid
    rw [heq, sub_self, abs_zero]
    have := unitRoundoff_pos (format α)
    positivity

/-- The difference of two numbers is not rounded to zero. -/
theorem real_sub_pos (hx : Scalar.isFinite x = true) (hy : Scalar.isFinite y = true)
    (hsub : Scalar.isFinite (x - y) = true) (h : real y < real x) : 0 < real (x - y) := by
  obtain ⟨m, hm⟩ := (representable_real x).onGrid.exists_int
  obtain ⟨n, hn⟩ := (representable_real y).onGrid.exists_int
  have hplace : (0 : ℝ) < 2 ^ (format α).minExponent := zpow_pos two_pos _
  have hgap : (2 : ℝ) ^ (format α).minExponent ≤ real x - real y := by
    rw [hm, hn] at h ⊢
    have hlt : (n : ℝ) + 1 ≤ m := by exact_mod_cast lt_of_mul_lt_mul_right h hplace.le
    nlinarith
  have hbits : 0 < (format α).mantissaBits := Nat.lt_add_right _ Nat.one_pos
  have hgrid := (Binary.representable_two_pow hbits le_rfl exponents).onGrid
  rw [pow_zero, one_mul] at hgrid
  exact hplace.trans_le (((rounds_sub hx hy).nearest hsub).le_value hgrid hgap)

end BinaryScalar

/-- Whether `x` can come of `r` by `n` roundings in a row, each of which changes a number by at most
the part `ε` of it. -/
structure Drifts (ε : ℝ) (n : ℕ) (r x : ℝ) : Prop where
  ge : (1 - ε) ^ n * r ≤ x
  le : x ≤ (1 + ε) ^ n * r

namespace Drifts

variable {ε r s x y : ℝ} {n : ℕ}

theorem refl (ε r : ℝ) : Drifts ε 0 r r := by
  constructor <;> rw [pow_zero, one_mul]

theorem round (h : Drifts ε n r x) (hε : 0 ≤ ε) (hε' : ε ≤ 1) (hx : 0 ≤ x)
    (hy : |y - x| ≤ ε * |x|) :
    Drifts ε (n + 1) r y := by
  rw [abs_of_nonneg hx, abs_le] at hy
  constructor
  · calc (1 - ε) ^ (n + 1) * r = (1 - ε) * ((1 - ε) ^ n * r) := by ring
      _ ≤ (1 - ε) * x := mul_le_mul_of_nonneg_left h.ge (by linarith)
      _ ≤ y := by linarith
  · calc y ≤ (1 + ε) * x := by linarith
      _ ≤ (1 + ε) * ((1 + ε) ^ n * r) := mul_le_mul_of_nonneg_left h.le (by linarith)
      _ = (1 + ε) ^ (n + 1) * r := by ring

/-- What is left of a number when a small part of it is added or taken away. -/
theorem perturb (h : Drifts ε n r x) (hε' : ε ≤ 1) (hx : 0 ≤ x) {d : ℝ} (hd : |d| ≤ ε) :
    Drifts ε (n + 1) r (x * (1 + d)) := by
  refine h.round ((abs_nonneg d).trans hd) hε' hx ?_
  rw [mul_one_add, add_sub_cancel_left, abs_mul, mul_comm]
  exact mul_le_mul_of_nonneg_right hd (abs_nonneg x)

theorem mul_right (h : Drifts ε n r x) {c : ℝ} (hc : 0 ≤ c) : Drifts ε n (r * c) (x * c) := by
  constructor <;> rw [← mul_assoc]
  · exact mul_le_mul_of_nonneg_right h.ge hc
  · exact mul_le_mul_of_nonneg_right h.le hc

theorem add (h : Drifts ε n r x) (h' : Drifts ε n s y) : Drifts ε n (r + s) (x + y) := by
  constructor <;> rw [mul_add]
  · exact add_le_add h.ge h'.ge
  · exact add_le_add h.le h'.le

/-- Few roundings leave more than half of a number. -/
theorem half_le (h : Drifts ε n r x) (hε' : ε ≤ 1) (hn : 2 * (n * ε) ≤ 1) (hr : 0 ≤ r) :
    r / 2 ≤ x := by
  have hbernoulli := one_add_mul_le_pow (a := -ε) (by linarith) n
  rw [← sub_eq_add_neg] at hbernoulli
  have hhalf := mul_le_mul_of_nonneg_right (show 1 / 2 ≤ (1 - ε) ^ n by linarith) hr
  linarith [h.ge]

/-- A row of roundings changes a number by hardly more than all of them together. -/
theorem one_add_pow_le (hε : 0 ≤ ε) (hε' : ε ≤ 1) (hn : n * (n + 1) * ε ≤ 1) :
    (1 + ε) ^ n ≤ 1 + (n + 1) * ε := by
  rcases Nat.eq_zero_or_pos n with rfl | hpos
  · rw [pow_zero, Nat.cast_zero]
    linarith
  · have hn' : (1 : ℝ) ≤ n := by exact_mod_cast hpos
    have hrest : 0 < 1 - n * ε := by nlinarith
    have hbernoulli : 1 - n * ε ≤ (1 - ε) ^ n := by
      have h := one_add_mul_le_pow (a := -ε) (by linarith) n
      rw [← sub_eq_add_neg] at h
      linarith
    have hcancel : (1 + ε) ^ n * (1 - n * ε) ≤ 1 := by
      calc (1 + ε) ^ n * (1 - n * ε) ≤ (1 + ε) ^ n * (1 - ε) ^ n := by gcongr
        _ = (1 - ε ^ 2) ^ n := by rw [← mul_pow]; ring_nf
        _ ≤ 1 := pow_le_one₀ (by nlinarith) (by nlinarith)
    refine le_of_mul_le_mul_right (hcancel.trans ?_) hrest
    nlinarith [mul_nonneg hε (sub_nonneg.mpr hn)]

theorem abs_sub_le (h : Drifts ε n r x) (hε : 0 ≤ ε) (hε' : ε ≤ 1) (hn : n * (n + 1) * ε ≤ 1)
    (hr : 0 ≤ r) : |x - r| ≤ (n + 1) * ε * r := by
  have hhigh := mul_le_mul_of_nonneg_right (one_add_pow_le hε hε' hn) hr
  have hlow := mul_le_mul_of_nonneg_right (one_add_mul_le_pow (a := -ε) (by linarith) n) hr
  rw [← sub_eq_add_neg] at hlow
  have hlast := mul_nonneg hε hr
  rw [abs_le]
  constructor
  · linarith [h.ge]
  · linarith [h.le]

end Drifts

end SphereCloud
