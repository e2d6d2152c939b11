import SphereCloud.Proofs.Binary.RelativeError
import SphereCloud.Proofs.Generator.DigitOrder

/-!
How close the radical inverses as doubles are to the digits behind the point.
-/

namespace SphereCloud

open BinaryScalar (Rounds format real)
open Binary (unitRoundoff unitRoundoff_pos)

namespace Double

theorem unitRoundoff_eq : unitRoundoff (format Float) = 2 ^ (-(53 : ℤ)) :=
  Binary.unitRoundoff_eq_zpow _

theorem unitRoundoff_le_one : unitRoundoff (format Float) ≤ 1 := by
  rw [unitRoundoff_eq]
  norm_num

theorem few_roundings {k : ℕ} (hk : k ≤ 1000) :
    2 * (k * unitRoundoff (format Float)) ≤ 1 ∧ k * (k + 1) * unitRoundoff (format Float) ≤ 1 := by
  have hk' : (k : ℝ) ≤ 1000 := by exact_mod_cast hk
  have hsquare : (k : ℝ) * (k + 1) ≤ 1000 * 1001 :=
    mul_le_mul hk' (by linarith) (by positivity) (by norm_num)
  rw [unitRoundoff_eq]
  norm_num
  constructor <;> linarith

/-- One more rounding, of a number that is not too small. -/
theorem drifts_round {r s : ℝ} {x : Float} {k : ℕ} (hs : Rounds s x) (hx : Scalar.isFinite x = true)
    (h : Drifts (unitRoundoff (format Float)) k r s) (hk : k ≤ 1000) (hr : 2 ^ (-(1000 : ℤ)) ≤ r) :
    Drifts (unitRoundoff (format Float)) (k + 1) r (real x) := by
  have hε := (unitRoundoff_pos (format Float)).le
  have hr_pos : 0 ≤ r := (zpow_pos two_pos _).le.trans hr
  have hhalf := h.half_le unitRoundoff_le_one (few_roundings hk).1 hr_pos
  have hnonneg : 0 ≤ s := by linarith
  refine h.round hε unitRoundoff_le_one hnonneg (hs.abs_sub_le hx ?_)
  rw [abs_of_nonneg hnonneg]
  have hnormal :
      (2 : ℝ) ^ ((format Float).minExponent + (format Float).mantissaBitsWithoutImplicit) ≤
        2 ^ (-(1001 : ℤ)) :=
    zpow_le_zpow_right₀ one_le_two (by decide)
  have hsplit : (2 : ℝ) ^ (-(1001 : ℤ)) = 2 ^ (-(1000 : ℤ)) / 2 := by
    rw [div_eq_mul_inv, ← zpow_sub_one₀ two_ne_zero]
    norm_num
  linarith

end Double

namespace Reversal

variable {base : ℕ}

theorem place_after_real (base n j : ℕ) : (after (α := ℝ) base n j).place = ((base : ℝ) ^ j)⁻¹ := by
  induction j with
  | zero =>
    rw [place_after_zero]
    norm_num
  | succ j ih => rw [place_after_succ, ih, ofNat_real, pow_succ, mul_inv, div_eq_mul_inv]

/-- Without rounding the sum leaves room for the last place once more. -/
theorem sum_after_real (hbase : 0 < base) (n j : ℕ) :
    0 ≤ (after (α := ℝ) base n j).sum ∧
      (after (α := ℝ) base n j).sum + ((base : ℝ) ^ j)⁻¹ ≤ 1 := by
  induction j with
  | zero =>
    rw [sum_after_zero]
    norm_num
  | succ j ih =>
    obtain ⟨hnonneg, hroom⟩ := ih
    have hbase' : (0 : ℝ) < base := Nat.cast_pos.mpr hbase
    have hplace : (0 : ℝ) ≤ ((base : ℝ) ^ (j + 1))⁻¹ := by positivity
    have hsplit : (base : ℝ) * ((base : ℝ) ^ (j + 1))⁻¹ = ((base : ℝ) ^ j)⁻¹ := by
      rw [pow_succ]
      field_simp
    have hdigit : ((n / base ^ j % base : ℕ) : ℝ) + 1 ≤ base := by
      exact_mod_cast Nat.mod_lt (n / base ^ j) hbase
    rw [sum_after_succ, term_after, place_after_real, ofNat_real]
    constructor
    · positivity
    · have := mul_le_mul_of_nonneg_right hdigit hplace
      rw [hsplit] at this
      linarith

section Doubles

variable (two_le : 2 ≤ base) (hbase : base < 2 ^ 32)
include two_le hbase

/-- As far as the powers of the base go that a word needs, all numbers of the loop stay finite. -/
theorem pow_bounds {j : ℕ} (hj : base ^ j ≤ 2 ^ 96) : j ≤ 96 ∧ base * j < 2 ^ 53 := by
  have hj' : j ≤ 96 :=
    (Nat.pow_le_pow_iff_right one_lt_two).mp ((Nat.pow_le_pow_left two_le j).trans hj)
  have := Nat.mul_le_mul hbase.le hj'
  exact ⟨hj', by omega⟩

omit hbase in
theorem two_zpow_le_place {j : ℕ} (hj : base ^ j ≤ 2 ^ 96) :
    (2 : ℝ) ^ (-(1000 : ℤ)) ≤ ((base : ℝ) ^ j)⁻¹ := by
  have hpos : (0 : ℝ) < (base : ℝ) ^ j := by positivity
  have hle : (base : ℝ) ^ j ≤ 2 ^ 1000 := by
    refine le_trans (b := (2 : ℝ) ^ 96) (by exact_mod_cast hj) ?_
    exact pow_le_pow_right₀ one_le_two (by norm_num)
  rw [zpow_neg]
  exact inv_anti₀ hpos (by exact_mod_cast hle)

theorem drifts_place (n : ℕ) {j : ℕ} (hj : base ^ j ≤ 2 ^ 96) :
    Drifts (unitRoundoff (format Float)) j ((base : ℝ) ^ j)⁻¹
      (real (after (α := Float) base n j).place) := by
  have hpos : 0 < base := by omega
  induction j with
  | zero =>
    rw [place_after_zero, Double.real_one.2, pow_zero, inv_one]
    exact Drifts.refl _ _
  | succ j ih =>
    have hprefix : base ^ j ≤ 2 ^ 96 := (Nat.pow_le_pow_right hpos j.le_succ).trans hj
    obtain ⟨hj', hbound⟩ := pow_bounds two_le hbase hj
    obtain ⟨hplace, -⟩ := within_after hpos (pow_bounds two_le hbase hprefix).2 n
    obtain ⟨hnext, -⟩ := within_after hpos hbound n
    obtain ⟨hbase', hbase_real⟩ := Double.real_ofNat (hbase.trans (by norm_num : 2 ^ 32 < 2 ^ 53))
    have hrounds := BinaryScalar.rounds_div hplace.isFinite hbase' (by rw [hbase_real]; positivity)
    have hquotient := (ih hprefix).mul_right (c := (base : ℝ)⁻¹) (by positivity)
    rw [← mul_inv, ← pow_succ, ← div_eq_mul_inv] at hquotient
    rw [hbase_real, ← place_after_succ] at hrounds
    exact Double.drifts_round hrounds hnext.isFinite hquotient (by omega)
      (two_zpow_le_place two_le hj)

theorem drifts_term (n : ℕ) {j : ℕ} (hj : base ^ (j + 1) ≤ 2 ^ 96) :
    Drifts (unitRoundoff (format Float)) (j + 2) ((after (α := ℝ) base n j).term base)
      (real ((after (α := Float) base n j).term base)) := by
  have hpos : 0 < base := by omega
  obtain ⟨hj', hbound⟩ := pow_bounds two_le hbase hj
  obtain ⟨hplace, -⟩ := within_after hpos hbound n
  have hfinite := (within_term_after hpos hbound n).isFinite
  obtain ⟨d, hd⟩ : ∃ d, n / base ^ j % base = d := ⟨_, rfl⟩
  have hlt : d < 2 ^ 53 := by
    rw [← hd]
    exact (Nat.mod_lt _ hpos).trans (hbase.trans (by norm_num))
  obtain ⟨hdigit, hdigit_real⟩ := Double.real_ofNat hlt
  have hrounds := BinaryScalar.rounds_mul hplace.isFinite hdigit
  have hproduct := (drifts_place two_le hbase n hj).mul_right d.cast_nonneg
  rw [hdigit_real] at hrounds
  rw [term_after, hd] at hfinite
  rw [term_after, term_after, place_after_real, ofNat_real, hd]
  rcases Nat.eq_zero_or_pos d with rfl | hd_pos
  · -- A digit that is zero makes a product below all numbers with full precision, but an exact one.
    rw [Nat.cast_zero, mul_zero] at hrounds ⊢
    rw [(hrounds.exact BinaryScalar.representable_zero).2]
    constructor <;> rw [mul_zero]
  · refine Double.drifts_round hrounds hfinite hproduct (by omega)
      ((two_zpow_le_place two_le hj).trans ?_)
    exact le_mul_of_one_le_right (by positivity) (by exact_mod_cast hd_pos)

/-- A place comes of one rounding more than the place before it, and a term of one more than its
place, so that the sum and the term that is added to it come of equally many. -/
theorem drifts_sum (n : ℕ) {j : ℕ} (hj : base ^ j ≤ 2 ^ 96) :
    Drifts (unitRoundoff (format Float)) (j + 2) (after (α := ℝ) base n j).sum
      (real (after (α := Float) base n j).sum) := by
  have hpos : 0 < base := by omega
  induction j with
  | zero =>
    rw [sum_after_zero, sum_after_zero, Double.real_zero.2, zero_literal]
    constructor <;> rw [mul_zero]
  | succ j ih =>
    have hprefix : base ^ j ≤ 2 ^ 96 := (Nat.pow_le_pow_right hpos j.le_succ).trans hj
    obtain ⟨-, hbound⟩ := pow_bounds two_le hbase hj
    obtain ⟨-, hsum⟩ := within_after hpos (pow_bounds two_le hbase hprefix).2 n
    obtain ⟨-, hnext⟩ := within_after hpos hbound n
    have hterm := within_term_after hpos hbound n
    rw [sum_after_succ] at hnext
    rw [sum_after_succ, sum_after_succ]
    exact ((ih hprefix).add (drifts_term two_le hbase n hj)).round (unitRoundoff_pos _).le
      Double.unitRoundoff_le_one (add_nonneg hsum.ge hterm.ge)
      (BinaryScalar.abs_add_sub_le hsum.isFinite hterm.isFinite hnext.isFinite)

end Doubles

end Reversal

section Word

variable {base : ℕ} (two_le : 2 ≤ base) (hbase : base < 2 ^ 32) {n : ℕ} (hn : n ≠ 0)
  (hword : n ≤ 2 ^ 64)
include hbase hn hword

/-- The rounded radical inverse of a word, in parts of the number that is rounded. -/
theorem drifts_radicalInverse :
    (Nat.digits base n).length ≤ 96 ∧ base * (Nat.digits base n).length < 2 ^ 53 ∧
      Drifts (unitRoundoff (format Float)) ((Nat.digits base n).length + 2)
        (behindPoint base (Nat.digits base n))
        (real (radicalInverse (α := Float) base two_le n)) := by
  have hpow : base ^ (Nat.digits base n).length ≤ 2 ^ 96 :=
    calc base ^ (Nat.digits base n).length
        ≤ base * n := Nat.base_pow_length_digits_le base n two_le hn
      _ ≤ 2 ^ 32 * 2 ^ 64 := Nat.mul_le_mul hbase.le hword
      _ = 2 ^ 96 := by norm_num
  obtain ⟨hlength, hbound⟩ := Reversal.pow_bounds two_le hbase hpow
  rw [← radicalInverse_eq_behindPoint two_le, Reversal.radicalInverse_eq_after,
    Reversal.radicalInverse_eq_after]
  exact ⟨hlength, hbound, Reversal.drifts_sum two_le hbase n hpow⟩

theorem radicalInverse_close :
    Scalar.isFinite (radicalInverse (α := Float) base two_le n) = true ∧
      0 < real (radicalInverse (α := Float) base two_le n) ∧
      |real (radicalInverse (α := Float) base two_le n) - behindPoint base (Nat.digits base n)| ≤
        ((Nat.digits base n).length + 3) * 2 ^ (-(53 : ℤ)) * behindPoint base
          (Nat.digits base n) := by
  obtain ⟨hlength, hbound, hdrifts⟩ := drifts_radicalInverse two_le hbase hn hword
  have hε := (unitRoundoff_pos (format Float)).le
  have hexact : 0 < behindPoint base (Nat.digits base n) := by
    rw [← radicalInverse_eq_behindPoint two_le]
    exact radicalInverse_pos two_le hn
  obtain ⟨hfew, hfew'⟩ := Double.few_roundings (show (Nat.digits base n).length + 2 ≤ 1000 by omega)
  have hhalf := hdrifts.half_le Double.unitRoundoff_le_one hfew hexact.le
  have hclose := hdrifts.abs_sub_le hε Double.unitRoundoff_le_one hfew' hexact.le
  refine ⟨?_, by linarith, hclose.trans_eq ?_⟩
  · rw [Reversal.radicalInverse_eq_after]
    exact Reversal.isFinite_sum_after (by omega) hbound n
  · rw [Double.unitRoundoff_eq]
    push_cast
    ring

/-- With few digits the last place is wider than all roundings together. -/
theorem radicalInverse_lt_one
    (hfew : ((Nat.digits base n).length + 3) * base ^ (Nat.digits base n).length ≤ 2 ^ 53) :
    real (radicalInverse (α := Float) base two_le n) < 1 := by
  obtain ⟨-, -, hclose⟩ := radicalInverse_close two_le hbase hn hword
  have hpos : 0 < base := by omega
  have hpower : (0 : ℝ) < (base : ℝ) ^ (Nat.digits base n).length := by positivity
  have hroom := (Reversal.sum_after_real hpos n (Nat.digits base n).length).2
  rw [← Reversal.radicalInverse_eq_after two_le, radicalInverse_eq_behindPoint] at hroom
  obtain ⟨a, ha⟩ : ∃ a : ℝ, ((Nat.digits base n).length + 3) * 2 ^ (-(53 : ℤ)) = a := ⟨_, rfl⟩
  have ha_pos : 0 < a := by
    rw [← ha]
    positivity
  have hplace : a ≤ ((base : ℝ) ^ (Nat.digits base n).length)⁻¹ := by
    have hfew' : (((Nat.digits base n).length : ℝ) + 3) * (base : ℝ) ^ (Nat.digits base n).length ≤
        2 ^ 53 := by exact_mod_cast hfew
    rw [← ha, ← one_div, le_div_iff₀ hpower, mul_right_comm, zpow_neg, ← div_eq_mul_inv]
    exact div_le_one_of_le₀ (by exact_mod_cast hfew') (by positivity)
  rw [ha] at hclose
  have hle := (abs_le.mp hclose).2
  nlinarith

end Word

end SphereCloud
