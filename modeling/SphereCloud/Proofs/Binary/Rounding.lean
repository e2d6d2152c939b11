import Mathlib

/-!
Rounding to a binary format, read in the real numbers: of all numbers of the format none is closer
to what is rounded than the result.
-/

namespace SphereCloud.Binary

open Float.Model (Format UnpackedFloat totalExponent)
open Float.Model.UnpackedFloat (Accuracy ExtendedMantissa Sign accuracyOfFraction decreaseExponent
  divCore roundWithAccuracy shiftToExponent shiftToTargetExponent)

theorem roundToNearestEven_le (accuracy : Accuracy) (m : ℕ) :
    accuracy.roundToNearestEven m ≤ m + 1 := by
  rcases accuracy with _ | _ | _ | _ <;> simp only [Accuracy.roundToNearestEven] <;> omega

theorem le_roundToNearestEven (accuracy : Accuracy) (m : ℕ) :
    m ≤ accuracy.roundToNearestEven m := by
  rcases accuracy with _ | _ | _ | _ <;> simp only [Accuracy.roundToNearestEven] <;> omega

/-- A number as far as rounding to a whole one has to know it: the one below it, and whether it is
closer to this or to the next. -/
def Brackets (m : ℕ) (x : ℝ) : Accuracy → Prop
  | .exact => x = m
  | .inexact .lt => m < x ∧ x - m < m + 1 - x
  | .inexact .eq => x - m = m + 1 - x
  | .inexact .gt => m + 1 - x < x - m ∧ x < m + 1

namespace Brackets

variable {m : ℕ} {x : ℝ} {accuracy : Accuracy}

theorem mem_Ico (h : Brackets m x accuracy) : m ≤ x ∧ x < m + 1 := by
  rcases accuracy with _ | _ | _ | _ <;> simp only [Brackets] at h <;> constructor <;> linarith

theorem abs_rounded_sub_le (h : Brackets m x accuracy) :
    |(accuracy.roundToNearestEven m : ℝ) - x| ≤ 1 / 2 := by
  rw [abs_le]
  rcases accuracy with _ | _ | _ | _
  case exact =>
    simp only [Brackets] at h
    simp only [Accuracy.roundToNearestEven]
    constructor <;> linarith
  case inexact.lt =>
    simp only [Brackets] at h
    simp only [Accuracy.roundToNearestEven]
    constructor <;> linarith
  case inexact.eq =>
    simp only [Brackets] at h
    have hmod : ((m % 2 : ℕ) : ℝ) ≤ 1 := by exact_mod_cast Nat.lt_succ_iff.mp (Nat.mod_lt m two_pos)
    have hpos : (0 : ℝ) ≤ (m % 2 : ℕ) := Nat.cast_nonneg _
    simp only [Accuracy.roundToNearestEven, Nat.cast_add]
    constructor <;> linarith
  case inexact.gt =>
    simp only [Brackets] at h
    simp only [Accuracy.roundToNearestEven, Nat.cast_add, Nat.cast_one]
    constructor <;> linarith

/-- The bits that a shift drops are remembered as far as they matter. -/
theorem shiftRightOne {em : ExtendedMantissa} (h : Brackets em.mantissa x em.accuracy) :
    Brackets em.shiftRightOne.mantissa (x / 2) em.shiftRightOne.accuracy := by
  obtain ⟨m, roundBit, stickyBit⟩ := em
  obtain ⟨q, rfl | rfl⟩ := Nat.even_or_odd' m
  · have hhalf : 2 * q / 2 = q := by omega
    cases roundBit <;> cases stickyBit <;>
      simp [Brackets, ExtendedMantissa.accuracy, ExtendedMantissa.shiftRightOne, hhalf] at h ⊢ <;>
      first | linarith | (constructor <;> linarith)
  · have hhalf : (2 * q + 1) / 2 = q := by omega
    have hodd : (2 * q + 1) % 2 = 1 := by omega
    cases roundBit <;> cases stickyBit <;>
      simp [Brackets, ExtendedMantissa.accuracy, ExtendedMantissa.shiftRightOne, hhalf,
        hodd] at h ⊢ <;>
      first | linarith | (constructor <;> linarith)

theorem shiftRight {em : ExtendedMantissa} (h : Brackets em.mantissa x em.accuracy) (n : ℕ) :
    Brackets (em >>> n).mantissa (x / 2 ^ n) (em >>> n).accuracy := by
  change Brackets (n.repeat ExtendedMantissa.shiftRightOne em).mantissa (x / 2 ^ n)
    (n.repeat ExtendedMantissa.shiftRightOne em).accuracy
  induction n with
  | zero => simpa [Nat.repeat] using h
  | succ n ih =>
    rw [pow_succ, ← div_div]
    exact ih.shiftRightOne

end Brackets

/-- The numbers that a format had if its exponents could be as high as one liked. -/
inductive OnGrid (spec : Format) (x : ℝ) : Prop
  | scaled (m e : ℤ) (mantissa : |m| < 2 ^ spec.mantissaBits) (exponent : spec.minExponent ≤ e)
      (eq : x = m * 2 ^ e)

def signed : Sign → ℝ → ℝ
  | .positive, x => x
  | .negative, x => -x

theorem abs_apply (s : Sign) (m : ℕ) : |s.apply m| = m := by
  cases s <;> simp [Sign.apply]

theorem signed_mul (s : Sign) (m : ℕ) (x : ℝ) : signed s (m * x) = s.apply m * x := by
  cases s <;> simp [signed, Sign.apply]

/-- The number that a finite value stands for. The others count as zero. -/
noncomputable def value : UnpackedFloat → ℝ
  | .finite s m e _ => signed s (m * (2 : ℕ) ^ e)
  | _ => 0

@[simp]
theorem value_zero (s : Sign) : value (.zero s) = 0 := rfl

theorem value_finite (s : Sign) {m : ℕ} (e : ℤ) (h : 0 < m) :
    value (.finite s m e h) = signed s (m * 2 ^ e) := by
  rw [value, Nat.cast_two]

/-- Whether the mantissa has all its bits, or else the exponent is the lowest one. -/
def Canonical (spec : Format) : UnpackedFloat → Prop
  | .finite _ m e _ => m < 2 ^ spec.mantissaBits ∧ spec.minExponent ≤ e ∧
      (2 ^ spec.mantissaBitsWithoutImplicit ≤ m ∨ e = spec.minExponent)
  | _ => True

/-- A finite value that no number of the grid is closer to `x` than. -/
structure Nearest (spec : Format) (x : ℝ) (y : UnpackedFloat) : Prop where
  isFinite : y.isFinite
  canonical : Canonical spec y
  closest : ∀ c, OnGrid spec c → |value y - x| ≤ |c - x|

variable {spec : Format}

namespace Nearest

variable {x c : ℝ} {y : UnpackedFloat}

/-- Rounding does not pass a number of the format. -/
theorem value_le (h : Nearest spec x y) (hc : OnGrid spec c) (hx : x ≤ c) : value y ≤ c := by
  have hclosest := h.closest c hc
  rw [abs_of_nonneg (sub_nonneg.mpr hx)] at hclosest
  linarith [le_abs_self (value y - x)]

theorem le_value (h : Nearest spec x y) (hc : OnGrid spec c) (hx : c ≤ x) : c ≤ value y := by
  have hclosest := h.closest c hc
  rw [abs_of_nonpos (sub_nonpos.mpr hx)] at hclosest
  linarith [neg_abs_le (value y - x)]

theorem value_eq (h : Nearest spec x y) (hx : OnGrid spec x) : value y = x :=
  le_antisymm (h.value_le hx le_rfl) (h.le_value hx le_rfl)

end Nearest

theorem OnGrid.neg {x : ℝ} (h : OnGrid spec x) : OnGrid spec (-x) := by
  obtain ⟨m, e, hm, he, rfl⟩ := h
  refine ⟨-m, e, ?_, he, ?_⟩
  · rwa [abs_neg]
  · push_cast
    ring

theorem Canonical.onGrid {u : UnpackedFloat} (h : Canonical spec u) : OnGrid spec (value u) := by
  cases u with
  | finite s m e hm =>
    refine ⟨s.apply m, e, ?_, h.2.1, signed_mul s m _⟩
    rw [abs_apply]
    exact_mod_cast h.1
  | _ => exact ⟨0, spec.minExponent, by simp, le_rfl, by simp [value]⟩

theorem Canonical.nearest {u : UnpackedFloat} (h : Canonical spec u) (hu : u.isFinite = true) :
    Nearest spec (value u) u :=
  ⟨hu, h, fun c _ => by simp⟩

theorem nearest_zero (s : Sign) : Nearest spec 0 (.zero s) :=
  Canonical.nearest (u := .zero s) trivial rfl

theorem abs_signed_sub_signed (s : Sign) (x y : ℝ) : |signed s x - signed s y| = |x - y| := by
  cases s with
  | positive => rfl
  | negative => rw [signed, signed, neg_sub_neg, abs_sub_comm]

theorem two_pow_mantissaBits {R : Type} [Semiring R] (spec : Format) :
    (2 : R) ^ spec.mantissaBits = 2 * 2 ^ spec.mantissaBitsWithoutImplicit := by
  rw [Format.mantissaBits, pow_add, pow_one]

/-- No whole number is closer than one at a distance of at most a half. -/
theorem abs_sub_le_of_whole {x : ℝ} {n : ℤ} (h : |n - x| ≤ 1 / 2) (k : ℤ) : |n - x| ≤ |k - x| := by
  rcases eq_or_ne k n with rfl | hne
  · exact le_rfl
  · have hgap : (1 : ℝ) ≤ |(k : ℝ) - n| := by exact_mod_cast Int.one_le_abs (sub_ne_zero.mpr hne)
    have htriangle := abs_sub_le (k : ℝ) x n
    rw [abs_sub_comm x] at htriangle
    linarith

/-- What is rounded to a whole number of the lowest places that a mantissa reaches is rounded to the
closest number: what has lower places is below all numbers of these size. -/
theorem closest_of_whole {x : ℝ} {n : ℤ} {t : ℤ} (h : |n - x| ≤ 1 / 2)
    (hlow : t = spec.minExponent ∨ 2 ^ spec.mantissaBitsWithoutImplicit ≤ x) {c : ℝ}
    (hc : OnGrid spec c) : |n * 2 ^ t - x * 2 ^ t| ≤ |c - x * 2 ^ t| := by
  obtain ⟨m, e, hm, he, rfl⟩ := hc
  obtain ⟨d, hd⟩ : ∃ d : ℝ, d * 2 ^ t = m * 2 ^ e ∧ |n - x| ≤ |d - x| := by
    rcases le_or_gt t e with hte | hte
    · refine ⟨(m * 2 ^ (e - t).toNat : ℤ), ?_, abs_sub_le_of_whole h _⟩
      push_cast
      rw [mul_assoc, ← zpow_natCast, Int.toNat_of_nonneg (by omega), ← zpow_add₀ two_ne_zero,
        Int.sub_add_cancel]
    · -- A whole number lies between `c` and `x`, and it is not closer than `n` either.
      have hx : (2 ^ spec.mantissaBitsWithoutImplicit : ℝ) ≤ x := hlow.resolve_left (by omega)
      have hwhole := abs_sub_le_of_whole h (2 ^ spec.mantissaBitsWithoutImplicit)
      have hm' : (m : ℝ) ≤ 2 * 2 ^ spec.mantissaBitsWithoutImplicit := by
        rw [← two_pow_mantissaBits]
        exact_mod_cast (abs_lt.mp hm).2.le
      have hplace : (2 : ℝ) ^ (e - t) ≤ 1 / 2 := by
        calc (2 : ℝ) ^ (e - t) ≤ 2 ^ (-1 : ℤ) := zpow_le_zpow_right₀ one_le_two (by omega)
          _ = 1 / 2 := by norm_num
      have hd : (m : ℝ) * 2 ^ (e - t) ≤ 2 ^ spec.mantissaBitsWithoutImplicit := by
        have hpos : (0 : ℝ) < 2 ^ (e - t) := zpow_pos two_pos _
        have hpow : (0 : ℝ) < 2 ^ spec.mantissaBitsWithoutImplicit := by positivity
        nlinarith
      refine ⟨m * 2 ^ (e - t), ?_, hwhole.trans ?_⟩
      · rw [mul_assoc, ← zpow_add₀ two_ne_zero, Int.sub_add_cancel]
      · push_cast
        rw [abs_sub_comm, abs_of_nonneg (sub_nonneg.mpr hx), abs_sub_comm,
          abs_of_nonneg (sub_nonneg.mpr (hd.trans hx))]
        linarith
  rw [← hd.1, ← sub_mul, ← sub_mul, abs_mul, abs_mul]
  exact mul_le_mul_of_nonneg_right hd.2 (abs_nonneg _)

theorem ofMantissaAndAccuracy_view (m : ℕ) (accuracy : Accuracy) :
    (ExtendedMantissa.ofMantissaAndAccuracy m accuracy).mantissa = m ∧
      (ExtendedMantissa.ofMantissaAndAccuracy m accuracy).accuracy = accuracy := by
  rcases accuracy with _ | _ | _ | _ <;> exact ⟨rfl, rfl⟩

/-- A mantissa of the format stays as it is. -/
theorem shiftToTargetExponent_of_lt {r : ℕ} {e : ℤ} (hr : r < 2 ^ spec.mantissaBits)
    (he : spec.minExponent ≤ e) :
    shiftToTargetExponent spec r e .exact = (⟨r, false, false⟩, e) := by
  have hlog : r.log2 < spec.mantissaBits := by
    rcases eq_or_ne r 0 with rfl | hne
    · simp [Format.mantissaBits]
    · exact (Nat.log2_lt hne).mpr hr
  have hshift : (spec.targetExponent (totalExponent r e) - e).toNat = 0 := by
    simp only [Format.targetExponent, totalExponent]
    omega
  rw [shiftToTargetExponent, shiftToExponent, hshift]
  simp [ExtendedMantissa.ofMantissaAndAccuracy, HShiftRight.hShiftRight, Nat.repeat]

/-- A mantissa that rounding made one bit too long is halved. -/
theorem shiftToTargetExponent_of_eq {e : ℤ} (he : spec.minExponent ≤ e) :
    shiftToTargetExponent spec (2 ^ spec.mantissaBits) e .exact =
      (⟨2 ^ spec.mantissaBitsWithoutImplicit, false, false⟩, e + 1) := by
  have htarget : spec.targetExponent (totalExponent (2 ^ spec.mantissaBits) e) = e + 1 := by
    simp only [Format.targetExponent, totalExponent, Nat.log2_two_pow]
    omega
  have hshift : (e + 1 - e).toNat = 1 := by omega
  rw [shiftToTargetExponent, htarget, shiftToExponent, hshift]
  simp [ExtendedMantissa.ofMantissaAndAccuracy, HShiftRight.hShiftRight, Nat.repeat,
    ExtendedMantissa.shiftRightOne, two_pow_mantissaBits]

/-- A mantissa of the format with a place, or zero. -/
def ofMantissa (s : Sign) (m : ℕ) (e : ℤ) : UnpackedFloat :=
  if h : m = 0 then .zero s else .finite s m e (Nat.pos_of_ne_zero h)

theorem value_ofMantissa (s : Sign) (m : ℕ) (e : ℤ) :
    value (ofMantissa s m e) = signed s (m * 2 ^ e) := by
  rw [ofMantissa]
  split
  case isTrue h => cases s <;> simp [value, signed, h]
  case isFalse => rfl

theorem isFinite_ofMantissa (s : Sign) (m : ℕ) (e : ℤ) : (ofMantissa s m e).isFinite := by
  rw [ofMantissa]
  split <;> rfl

theorem canonical_ofMantissa {s : Sign} {m : ℕ} {e : ℤ} (hm : m < 2 ^ spec.mantissaBits)
    (he : spec.minExponent ≤ e)
    (hlow : e = spec.minExponent ∨ 2 ^ spec.mantissaBitsWithoutImplicit ≤ m) :
    Canonical spec (ofMantissa s m e) := by
  rw [ofMantissa]
  split
  case isTrue => trivial
  case isFalse => exact ⟨hm, he, hlow.symm⟩

/-- What is rounded to a whole number of the lowest places that a mantissa reaches is as close as it
can be, and a sign does not matter. -/
theorem closest_ofMantissa {s : Sign} {n : ℕ} {t : ℤ} {x : ℝ} (h : |n - x| ≤ 1 / 2)
    (hlow : t = spec.minExponent ∨ 2 ^ spec.mantissaBitsWithoutImplicit ≤ x) {c : ℝ}
    (hc : OnGrid spec c) :
    |signed s (n * 2 ^ t) - signed s (x * 2 ^ t)| ≤ |c - signed s (x * 2 ^ t)| := by
  have hclosest (c : ℝ) (hc : OnGrid spec c) : |n * 2 ^ t - x * 2 ^ t| ≤ |c - x * 2 ^ t| :=
    closest_of_whole (n := n) h hlow hc
  rw [abs_signed_sub_signed]
  cases s with
  | positive => exact hclosest c hc
  | negative =>
    rw [signed, sub_neg_eq_add, ← abs_neg (c + _), neg_add']
    exact hclosest (-c) hc.neg

/-- The bits that are kept are no more than fit. -/
theorem div_lt_of_target {m k : ℕ} {e : ℤ} {accuracy : Accuracy} {x : ℝ}
    (hx : Brackets m x accuracy) (hk : spec.targetExponent (totalExponent m e) = e + k) :
    x / 2 ^ k < 2 ^ spec.mantissaBits := by
  have hbits : m.log2 + 1 ≤ spec.mantissaBits + k := by
    simp only [Format.targetExponent, totalExponent] at hk
    omega
  rw [div_lt_iff₀ (by positivity), ← pow_add]
  calc x < m + 1 := hx.mem_Ico.2
    _ ≤ 2 ^ (m.log2 + 1) := by exact_mod_cast Nat.lt_log2_self
    _ ≤ 2 ^ (spec.mantissaBits + k) := pow_le_pow_right₀ one_le_two hbits

/-- The bits that are kept are as many as fit, unless the place is the lowest one. -/
theorem le_div_of_target {m k : ℕ} {e : ℤ} {accuracy : Accuracy} {x : ℝ}
    (hx : Brackets m x accuracy) (hk : spec.targetExponent (totalExponent m e) = e + k) :
    e + k = spec.minExponent ∨ (2 : ℝ) ^ spec.mantissaBitsWithoutImplicit ≤ x / 2 ^ k := by
  rcases eq_or_ne (e + k) spec.minExponent with heq | hne
  · exact Or.inl heq
  · right
    have hbits : m.log2 = spec.mantissaBitsWithoutImplicit + k := by
      simp only [Format.targetExponent, totalExponent, Format.mantissaBits] at hk
      omega
    have hm : m ≠ 0 := by
      rintro rfl
      rw [Nat.log2_zero] at hbits
      have := spec.hm
      omega
    rw [le_div_iff₀ (by positivity), ← pow_add, ← hbits]
    calc (2 : ℝ) ^ m.log2 ≤ m := by exact_mod_cast Nat.log2_self_le hm
      _ ≤ x := hx.mem_Ico.1

/-- Rounding drops the places below those of the format, and chooses the closest number. -/
theorem roundWithAccuracy_nearest (s : Sign) {m : ℕ} {e : ℤ} {accuracy : Accuracy} {x : ℝ}
    (he : e ≤ spec.targetExponent (totalExponent m e)) (hx : Brackets m x accuracy) :
    Nearest spec (signed s (x * 2 ^ e)) (roundWithAccuracy spec s m e accuracy) := by
  obtain ⟨k, hk⟩ : ∃ k : ℕ, spec.targetExponent (totalExponent m e) = e + k :=
    ⟨(spec.targetExponent (totalExponent m e) - e).toNat, by omega⟩
  obtain ⟨em, hem⟩ : ∃ em, ExtendedMantissa.ofMantissaAndAccuracy m accuracy >>> k = em := ⟨_, rfl⟩
  obtain ⟨t, ht⟩ : ∃ t, e + (k : ℤ) = t := ⟨_, rfl⟩
  have hfirst : shiftToTargetExponent spec m e accuracy = (em, t) := by
    rw [shiftToTargetExponent, hk, shiftToExponent, add_sub_cancel_left, Int.toNat_natCast, hem, ht]
  have hbrackets : Brackets em.mantissa (x / 2 ^ k) em.accuracy := by
    obtain ⟨hmantissa, haccuracy⟩ := ofMantissaAndAccuracy_view m accuracy
    rw [← hem]
    apply Brackets.shiftRight
    rwa [hmantissa, haccuracy]
  have hrounded : |(em.roundedMantissa : ℝ) - x / 2 ^ k| ≤ 1 / 2 := hbrackets.abs_rounded_sub_le
  have hscale : x * 2 ^ e = x / 2 ^ k * 2 ^ t := by
    rw [← ht, zpow_add₀ two_ne_zero, zpow_natCast]
    field_simp
  have hmin : spec.minExponent ≤ t := ht ▸ hk ▸ le_max_right _ _
  have hle : em.roundedMantissa ≤ 2 ^ spec.mantissaBits := by
    have : em.mantissa < 2 ^ spec.mantissaBits := by
      exact_mod_cast hbrackets.mem_Ico.1.trans_lt (div_lt_of_target hx hk)
    exact (roundToNearestEven_le _ _).trans this
  have hlow := ht ▸ le_div_of_target hx hk
  have hlow' :
      t = spec.minExponent ∨ 2 ^ spec.mantissaBitsWithoutImplicit ≤ em.roundedMantissa := by
    refine hlow.imp_right fun h => ?_
    have : 2 ^ spec.mantissaBitsWithoutImplicit < em.mantissa + 1 := by
      exact_mod_cast h.trans_lt hbrackets.mem_Ico.2
    exact (Nat.lt_succ_iff.mp this).trans (le_roundToNearestEven _ _)
  rw [hscale]
  rcases hle.lt_or_eq with hlt | heq
  · have hround : roundWithAccuracy spec s m e accuracy = ofMantissa s em.roundedMantissa t := by
      rw [roundWithAccuracy, hfirst]
      simp only [shiftToTargetExponent_of_lt hlt hmin]
      rfl
    rw [hround]
    refine ⟨isFinite_ofMantissa _ _ _, canonical_ofMantissa hlt hmin hlow', fun c hc => ?_⟩
    rw [value_ofMantissa]
    exact closest_ofMantissa hrounded hlow hc
  · have hround : roundWithAccuracy spec s m e accuracy =
        ofMantissa s (2 ^ spec.mantissaBitsWithoutImplicit) (t + 1) := by
      rw [roundWithAccuracy, hfirst]
      simp only [heq, shiftToTargetExponent_of_eq hmin]
      rfl
    have hvalue : signed s ((2 ^ spec.mantissaBitsWithoutImplicit : ℕ) * 2 ^ (t + 1)) =
        signed s (em.roundedMantissa * 2 ^ t) := by
      rw [heq, two_pow_mantissaBits, zpow_add_one₀ two_ne_zero]
      push_cast
      ring_nf
    rw [hround]
    refine ⟨isFinite_ofMantissa _ _ _, canonical_ofMantissa ?_ (by omega) (Or.inr le_rfl),
      fun c hc => ?_⟩
    · rw [two_pow_mantissaBits]
      have := Nat.two_pow_pos spec.mantissaBitsWithoutImplicit
      omega
    · rw [value_ofMantissa, hvalue]
      exact closest_ofMantissa hrounded hlow hc

theorem log2_shiftLeft {m : ℕ} (hm : m ≠ 0) (n : ℕ) : (m <<< n).log2 = m.log2 + n := by
  induction n with
  | zero => rfl
  | succ n ih =>
    have hne : m <<< n ≠ 0 := by
      rw [Nat.shiftLeft_eq]
      positivity
    rw [Nat.shiftLeft_succ, Nat.log2_two_mul hne, ih, Nat.add_assoc]

/-- A larger mantissa with a smaller place stands for the same number. -/
theorem decreaseExponent_value (m : ℕ) (e t : ℤ) :
    ((decreaseExponent m e t).1 : ℝ) * 2 ^ (decreaseExponent m e t).2 = m * 2 ^ e := by
  rw [decreaseExponent, Nat.shiftLeft_eq, Nat.cast_mul, Nat.cast_pow, Nat.cast_two, mul_assoc,
    ← zpow_natCast, ← zpow_add₀ two_ne_zero, add_sub_cancel]

theorem round_nearest (s : Sign) {m : ℕ} (hm : 0 < m) (e : ℤ) :
    Nearest spec (signed s (m * 2 ^ e)) (UnpackedFloat.round spec s m e) := by
  obtain ⟨t, ht⟩ : ∃ t, spec.targetExponent (totalExponent m e) = t := ⟨_, rfl⟩
  obtain ⟨n, hn⟩ : ∃ n : ℕ, (e - t).toNat = n := ⟨_, rfl⟩
  have htotal : totalExponent (m <<< n) (e - n) = totalExponent m e := by
    rw [totalExponent, totalExponent, log2_shiftLeft hm.ne']
    push_cast
    ring
  have hvalue : (m : ℝ) * 2 ^ e = (m <<< n : ℕ) * 2 ^ (e - n) := by
    have := decreaseExponent_value m e t
    rw [decreaseExponent, hn] at this
    exact this.symm
  rw [hvalue, UnpackedFloat.round, ht, decreaseExponent, hn]
  refine roundWithAccuracy_nearest s ?_ rfl
  rw [htotal, ht]
  omega

theorem normalize_nearest (m e : ℤ) (zeroSign : Sign) :
    Nearest spec (m * 2 ^ e) (UnpackedFloat.normalize spec m e zeroSign) := by
  rw [UnpackedFloat.normalize]
  rcases lt_trichotomy m 0 with hneg | rfl | hpos
  · rw [Int.compare_eq_lt.mpr hneg]
    obtain ⟨n, rfl⟩ : ∃ n : ℕ, m = -n := ⟨m.natAbs, by omega⟩
    have hround : Nearest spec _ _ := round_nearest .negative (m := n) (by omega) e
    simpa [signed] using hround
  · exact ⟨rfl, trivial, fun c _ => by simp [value]⟩
  · rw [Int.compare_eq_gt.mpr hpos]
    obtain ⟨n, rfl⟩ : ∃ n : ℕ, m = n := ⟨m.natAbs, by omega⟩
    have hround : Nearest spec _ _ := round_nearest .positive (m := n) (by omega) e
    simpa [signed] using hround

/-- What is left over in a division tells how to round the quotient. -/
theorem brackets_div (m : ℕ) {d : ℕ} (hd : 0 < d) :
    Brackets (m / d) ((m : ℝ) / d) (accuracyOfFraction (m % d) d) := by
  have hd' : (0 : ℝ) < d := Nat.cast_pos.mpr hd
  have hsplit : (m : ℝ) / d = (m / d : ℕ) + (m % d : ℕ) / d := by
    rw [eq_comm, ← mul_right_cancel_iff_of_pos hd', add_mul, div_mul_cancel₀ _ hd'.ne',
      div_mul_cancel₀ _ hd'.ne']
    exact_mod_cast Nat.div_add_mod' m d
  have hone : ((m % d : ℕ) : ℝ) / d < 1 := (div_lt_one hd').mpr (Nat.cast_lt.mpr (Nat.mod_lt m hd))
  rw [hsplit, accuracyOfFraction]
  split
  case isTrue h => simp [Brackets, h]
  case isFalse h =>
    have hpos : (0 : ℝ) < (m % d : ℕ) / d := div_pos (Nat.cast_pos.mpr (Nat.pos_of_ne_zero h)) hd'
    rcases lt_trichotomy (2 * (m % d)) d with hlt | heq | hgt
    · rw [Nat.compare_eq_lt.mpr hlt]
      have : ((m % d : ℕ) : ℝ) / d < 1 / 2 := by
        rw [div_lt_div_iff₀ hd' two_pos, mul_comm, one_mul]
        exact_mod_cast hlt
      exact ⟨by linarith, by linarith⟩
    · rw [Nat.compare_eq_eq.mpr heq]
      have : ((m % d : ℕ) : ℝ) / d = 1 / 2 := by
        rw [div_eq_div_iff hd'.ne' two_ne_zero, mul_comm, one_mul]
        exact_mod_cast heq
      rw [this, Brackets]
      ring
    · rw [Nat.compare_eq_gt.mpr hgt]
      have : 1 / 2 < ((m % d : ℕ) : ℝ) / d := by
        rw [div_lt_div_iff₀ two_pos hd', one_mul, mul_comm]
        exact_mod_cast hgt
      exact ⟨by linarith, by linarith⟩

/-- The dividend is scaled so that the quotient has at least the bits of a mantissa. -/
theorem totalExponent_div_le {m d : ℕ} (hm : m ≠ 0) (hd : 0 < d) (n : ℕ) (e : ℤ) :
    totalExponent m 0 - totalExponent d 0 + e ≤ totalExponent ((m <<< n) / d) (e - n) := by
  simp only [totalExponent]
  rcases Nat.lt_or_ge (m.log2 + n) (d.log2 + 1) with hlt | hge
  · omega
  · have hquotient : 2 ^ (m.log2 + n - (d.log2 + 1)) ≤ (m <<< n) / d := by
      rw [Nat.le_div_iff_mul_le hd]
      calc 2 ^ (m.log2 + n - (d.log2 + 1)) * d
          ≤ 2 ^ (m.log2 + n - (d.log2 + 1)) * 2 ^ (d.log2 + 1) :=
            Nat.mul_le_mul_left _ Nat.lt_log2_self.le
        _ = 2 ^ (m.log2 + n) := by rw [← pow_add, Nat.sub_add_cancel hge]
        _ ≤ m <<< n := by
          rw [pow_add, Nat.shiftLeft_eq]
          exact Nat.mul_le_mul_right _ (Nat.log2_self_le hm)
    have hlog := (Nat.le_log2 (Nat.two_pow_pos _ |>.trans_le hquotient).ne').mpr hquotient
    omega

/-- The quotient of two mantissas with their places. -/
theorem divCore_nearest (s : Sign) {m d : ℕ} (hm : 0 < m) (hd : 0 < d) (e f : ℤ) :
    Nearest spec (signed s (m * 2 ^ e / (d * 2 ^ f)))
      (roundWithAccuracy spec s (divCore spec m e d f).1 (divCore spec m e d f).2.1
        (divCore spec m e d f).2.2) := by
  obtain ⟨t, ht⟩ : ∃ t, spec.targetExponent (totalExponent m e - totalExponent d f) = t := ⟨_, rfl⟩
  obtain ⟨n, hn⟩ : ∃ n : ℕ, (e - f - min (e - f) t).toNat = n := ⟨_, rfl⟩
  have hplace : min (e - f) t = e - f - n := by omega
  have hscale : (m : ℝ) * 2 ^ e / (d * 2 ^ f) = (m <<< n : ℕ) / d * 2 ^ (e - f - n) := by
    have hd' : (d : ℝ) ≠ 0 := Nat.cast_ne_zero.mpr hd.ne'
    rw [Nat.shiftLeft_eq, zpow_sub₀ two_ne_zero, zpow_sub₀ two_ne_zero, zpow_natCast]
    push_cast
    field_simp
  have hshift : (e - f - (e - f - n)).toNat = n := by omega
  simp only [divCore, ht, hplace, hshift]
  rw [hscale]
  refine roundWithAccuracy_nearest s ?_ (brackets_div _ hd)
  have htotal := totalExponent_div_le hm.ne' hd n (e - f)
  have hle : t ≤ spec.targetExponent (totalExponent ((m <<< n) / d) (e - f - n)) := by
    rw [← ht]
    simp only [Format.targetExponent, totalExponent] at htotal ⊢
    omega
  omega

/-- Between a mantissa with all its bits and the next one there is no number of the format. -/
theorem OnGrid.succ_le {m : ℕ} {e : ℤ} {y : ℝ} (h : OnGrid spec y)
    (hm : 2 ^ spec.mantissaBitsWithoutImplicit ≤ m) (hy : m * 2 ^ e < y) : (m + 1) * 2 ^ e ≤ y := by
  obtain ⟨n, f, hn, -, rfl⟩ := h
  have hplace : (0 : ℝ) < 2 ^ e := zpow_pos two_pos _
  rcases le_or_gt e f with he | he
  · obtain ⟨k, rfl⟩ : ∃ k : ℕ, f = k + e := ⟨(f - e).toNat, by omega⟩
    rw [zpow_add₀ two_ne_zero, zpow_natCast, ← mul_assoc] at hy ⊢
    have hlt : (m : ℝ) < n * 2 ^ k := lt_of_mul_lt_mul_right hy hplace.le
    have hle : (m + 1 : ℝ) ≤ n * 2 ^ k := by exact_mod_cast hlt
    exact mul_le_mul_of_nonneg_right hle hplace.le
  · -- A number of a lower place is not above a mantissa with all its bits.
    have hmantissa : (n : ℝ) ≤ 2 ^ spec.mantissaBits := by exact_mod_cast (abs_lt.mp hn).2.le
    have hhalf : (2 : ℝ) * 2 ^ f ≤ 2 ^ e := by
      rw [mul_comm, ← zpow_add_one₀ two_ne_zero]
      exact zpow_le_zpow_right₀ one_le_two (by omega)
    have hle : (n : ℝ) * 2 ^ f ≤ m * 2 ^ e := by
      calc (n : ℝ) * 2 ^ f ≤ 2 ^ spec.mantissaBits * 2 ^ f := by gcongr
        _ = 2 ^ spec.mantissaBitsWithoutImplicit * (2 * 2 ^ f) := by rw [two_pow_mantissaBits]; ring
        _ ≤ m * 2 ^ e := by
          gcongr
          exact_mod_cast hm
    exact absurd hy hle.not_gt

/-- What is in front of the middle between two neighbours is rounded to the smaller one, or below
it. -/
theorem Nearest.value_le_of_lt_middle {m : ℕ} {e : ℤ} {x : ℝ} {y : UnpackedFloat}
    (h : Nearest spec x y) (hm : 2 ^ spec.mantissaBitsWithoutImplicit ≤ m)
    (hgrid : OnGrid spec (m * 2 ^ e)) (hx : x < (m + 1 / 2) * 2 ^ e) : value y ≤ m * 2 ^ e := by
  by_contra hlt
  have hgap := h.canonical.onGrid.succ_le hm (not_le.mp hlt)
  have hclosest := (le_abs_self _).trans (h.closest _ hgrid)
  rcases abs_cases (m * 2 ^ e - x) with ⟨habs, -⟩ | ⟨habs, -⟩
  · rw [habs] at hclosest
    exact hlt (by linarith)
  · rw [habs] at hclosest
    linarith

theorem place_mul (n : ℕ) : ((2 ^ n : ℕ) : ℝ) * 2 ^ (-(n : ℤ)) = 1 := by
  rw [Nat.cast_pow, Nat.cast_two, zpow_neg, zpow_natCast, mul_inv_cancel₀ (by positivity)]

theorem pred_place_mul (n : ℕ) : ((2 ^ n - 1 : ℕ) : ℝ) * 2 ^ (-(n : ℤ)) = 1 - 2 ^ (-(n : ℤ)) := by
  rw [Nat.cast_sub Nat.one_le_two_pow, sub_mul, place_mul, Nat.cast_one, one_mul]

theorem le_pred_two_pow_mantissaBits (spec : Format) :
    2 ^ spec.mantissaBitsWithoutImplicit ≤ 2 ^ spec.mantissaBits - 1 := by
  have := Nat.two_pow_pos spec.mantissaBitsWithoutImplicit
  rw [two_pow_mantissaBits]
  omega

/-- What is above one by less than half of the last place is rounded to one. -/
theorem Nearest.value_le_one {x : ℝ} {y : UnpackedFloat} (h : Nearest spec x y)
    (hone : OnGrid spec 1) (hx : x < 1 + 2 ^ (-(spec.mantissaBits : ℤ))) : value y ≤ 1 := by
  have hhalf : (2 : ℝ) ^ (-(spec.mantissaBits : ℤ)) =
      1 / 2 * 2 ^ (-(spec.mantissaBitsWithoutImplicit : ℤ)) := by
    rw [zpow_neg, zpow_neg, zpow_natCast, zpow_natCast, two_pow_mantissaBits]
    field_simp
  rw [← place_mul spec.mantissaBitsWithoutImplicit] at hone hx ⊢
  rw [hhalf, ← add_mul] at hx
  exact h.value_le_of_lt_middle le_rfl hone hx

/-- Between one and its predecessor there is nothing. -/
theorem OnGrid.le_one_sub {y : ℝ} (h : OnGrid spec y) (hy : y < 1) :
    y ≤ 1 - 2 ^ (-(spec.mantissaBits : ℤ)) := by
  by_contra hlt
  rw [← pred_place_mul, not_le] at hlt
  have hle := h.succ_le (le_pred_two_pow_mantissaBits spec) hlt
  rw [← Nat.cast_add_one, Nat.sub_add_cancel Nat.one_le_two_pow, place_mul] at hle
  exact hy.not_ge hle

/-- What is below one by more than half of the place under it is rounded to less than one. -/
theorem Nearest.value_le_one_sub {x : ℝ} {y : UnpackedFloat} (h : Nearest spec x y)
    (hgrid : OnGrid spec (1 - 2 ^ (-(spec.mantissaBits : ℤ))))
    (hx : x < 1 - 2 ^ (-(spec.mantissaBits : ℤ)) / 2) :
    value y ≤ 1 - 2 ^ (-(spec.mantissaBits : ℤ)) := by
  rw [← pred_place_mul] at hgrid ⊢
  refine h.value_le_of_lt_middle (le_pred_two_pow_mantissaBits spec) hgrid ?_
  rw [add_mul, pred_place_mul]
  linarith

end SphereCloud.Binary
