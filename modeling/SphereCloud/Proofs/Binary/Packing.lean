import SphereCloud.Proofs.Binary.Rounding

/-!
Numbers as words of bits: what is written and read again is the same number, or an infinity where
the exponent does not fit.
-/

namespace SphereCloud.Binary

open Float.Model (Format UnpackedFloat)
open Float.Model.UnpackedFloat (Sign pack packedInfinity unpack unpackExponent unpackMantissa
  unpackExponent_packComponents unpackMantissa_packComponents unpackSign_packComponents)

/-- The exponent above which numbers are infinite. -/
def maxExponent (spec : Format) : ℤ :=
  spec.exponentBias - spec.mantissaBitsWithoutImplicit

/-- What a word of bits can hold. -/
def Stored (spec : Format) : UnpackedFloat → Prop
  | .finite _ m e _ => m < 2 ^ spec.mantissaBits ∧ spec.minExponent ≤ e ∧
      (2 ^ spec.mantissaBitsWithoutImplicit ≤ m ∨ e = spec.minExponent) ∧ e ≤ maxExponent spec
  | _ => True

/-- What has too high an exponent becomes infinite. -/
def fit (spec : Format) : UnpackedFloat → UnpackedFloat
  | .finite s m e h => if e ≤ maxExponent spec then .finite s m e h else .infinity s
  | u => u

/-- What is read where a number was written. -/
def written (spec : Format) (u : UnpackedFloat) : UnpackedFloat :=
  unpack spec (pack spec u)

variable {spec : Format} {u : UnpackedFloat}

theorem Stored.canonical (h : Stored spec u) : Canonical spec u := by
  cases u with
  | finite s m e hm => exact ⟨h.1, h.2.1, h.2.2.1⟩
  | _ => trivial

theorem fit_eq_notANumber : fit spec u = .notANumber ↔ u = .notANumber := by
  cases u with
  | finite s m e hm =>
    rw [fit]
    split <;> simp
  | _ => rfl

theorem Stored.fit_eq (h : Stored spec u) : fit spec u = u := by
  cases u with
  | finite s m e hm => exact if_pos h.2.2.2
  | _ => rfl

theorem fit_eq_of_isFinite (h : (fit spec u).isFinite = true) : fit spec u = u := by
  cases u with
  | finite s m e hm =>
    rw [fit] at h ⊢
    split at h
    case isTrue hle => exact if_pos hle
    case isFalse => cases h
  | _ => rfl

theorem two_pow_exponentBits (spec : Format) :
    2 ^ spec.exponentBits = 2 * spec.exponentBias + 2 := by
  obtain ⟨w, hw⟩ : ∃ w, spec.exponentBits = w + 1 :=
    ⟨spec.exponentBits - 1, by have := spec.he; omega⟩
  have := Nat.two_pow_pos w
  rw [Format.exponentBias, hw, pow_succ, Nat.add_sub_cancel]
  omega

theorem minExponent_eq (spec : Format) :
    spec.minExponent = 1 - spec.exponentBias - spec.mantissaBitsWithoutImplicit := by
  have := Nat.two_pow_pos (spec.exponentBits - 1)
  rw [Format.minExponent, Format.mantissaBits, Format.exponentBias, Nat.cast_sub this]
  push_cast
  ring

theorem zero_ne_allOnes (spec : Format) : (0#_ : BitVec spec.exponentBits) ≠ -1#_ := by
  rw [ne_eq, BitVec.zero_eq_neg_one_iff]
  exact spec.he.ne'

@[simp]
theorem unpack_packedInfinity (s : Sign) : unpack spec (packedInfinity spec s) = .infinity s := by
  simp [unpack, packedInfinity]

theorem toNat_one_append {n : ℕ} (b : BitVec n) : (1#1 ++ b).toNat = 2 ^ n + b.toNat := by
  rw [BitVec.toNat_append, ← Nat.shiftLeft_add_eq_or_of_lt b.isLt]
  simp [Nat.shiftLeft_eq]

/-- The first bit of a mantissa is not written. -/
theorem toNat_one_append_ofNat {n m : ℕ} (hlow : 2 ^ n ≤ m) (hlt : m < 2 * 2 ^ n) :
    (1#1 ++ BitVec.ofNat n m).toNat = m := by
  obtain ⟨r, rfl⟩ := Nat.exists_eq_add_of_le hlow
  have hr : (2 ^ n + r) % 2 ^ n = r := by
    rw [Nat.add_mod_left, Nat.mod_eq_of_lt (by omega)]
  rw [toNat_one_append, BitVec.toNat_ofNat, hr]

theorem unpack_pack_of_stored {s : Sign} {m : ℕ} {e : ℤ} (hm : 0 < m)
    (h : Stored spec (.finite s m e hm)) :
    unpack spec (pack spec (.finite s m e hm)) = .finite s m e hm := by
  obtain ⟨hlt, hmin, hlow, hmax⟩ := h
  have hcapacity := two_pow_exponentBits spec
  rw [minExponent_eq] at hmin hlow
  rw [maxExponent] at hmax
  rw [two_pow_mantissaBits] at hlt
  obtain ⟨b, hb⟩ : ∃ b : ℕ, e + spec.exponentBias + spec.mantissaBitsWithoutImplicit = b :=
    ⟨(e + spec.exponentBias + spec.mantissaBitsWithoutImplicit).toNat, by omega⟩
  have htoNat : (BitVec.ofNat spec.exponentBits b).toNat = b := by
    rw [BitVec.toNat_ofNat, Nat.mod_eq_of_lt (by omega)]
  have hb_zero : BitVec.ofNat spec.exponentBits b ≠ 0#_ := by
    rw [ne_eq, ← BitVec.toNat_inj, htoNat, BitVec.toNat_zero]
    omega
  have hb_ones : BitVec.ofNat spec.exponentBits b ≠ -1#_ := by
    rw [ne_eq, BitVec.neg_one_eq_allOnes, ← BitVec.toNat_inj, htoNat, BitVec.toNat_allOnes]
    omega
  have hfits : ¬ 2 ^ spec.exponentBits ≤ b + 1 := by omega
  simp only [pack, hb, Int.toNat_natCast, if_neg hfits]
  rcases Nat.lt_or_ge m (2 ^ spec.mantissaBitsWithoutImplicit) with hsmall | hlarge
  case inr =>
    have hlog : m.log2 + 1 = spec.mantissaBits := by
      have h₁ := (Nat.le_log2 hm.ne').mpr hlarge
      have h₂ := (Nat.log2_lt hm.ne').mpr (two_pow_mantissaBits (R := ℕ) spec ▸ hlt)
      rw [Format.mantissaBits] at h₂ ⊢
      omega
    rw [if_pos hlog]
    simp only [unpack, unpackMantissa_packComponents, unpackExponent_packComponents,
      unpackSign_packComponents, Sign.ofBitVec_toBitVec, if_neg hb_ones, if_neg hb_zero,
      toNat_one_append_ofNat hlarge hlt, htoNat]
    congr 1
    omega
  case inl =>
    have he : e = 1 - spec.exponentBias - spec.mantissaBitsWithoutImplicit :=
      hlow.resolve_left hsmall.not_ge
    have hlog : ¬ m.log2 + 1 = spec.mantissaBits := by
      have := (Nat.log2_lt hm.ne').mpr hsmall
      rw [Format.mantissaBits]
      omega
    have hmantissa : (BitVec.ofNat spec.mantissaBitsWithoutImplicit m).toNat = m := by
      rw [BitVec.toNat_ofNat, Nat.mod_eq_of_lt hsmall]
    have hm_zero : BitVec.ofNat spec.mantissaBitsWithoutImplicit m ≠ 0#_ := by
      rw [ne_eq, ← BitVec.toNat_inj, hmantissa, BitVec.toNat_zero]
      exact hm.ne'
    rw [if_neg hlog]
    simp only [unpack, unpackMantissa_packComponents, unpackExponent_packComponents,
      unpackSign_packComponents, Sign.ofBitVec_toBitVec, if_neg (zero_ne_allOnes spec), if_true,
      hm_zero, dif_neg, not_false_eq_true, hmantissa, BitVec.toNat_zero]
    congr 1
    omega

theorem pack_of_overflow {s : Sign} {m : ℕ} {e : ℤ} (hm : 0 < m) (h : maxExponent spec < e) :
    pack spec (.finite s m e hm) = packedInfinity spec s := by
  have hcapacity := two_pow_exponentBits spec
  rw [maxExponent] at h
  exact if_pos (by omega)

/-- A result is read as it was written, but for the exponents that are too high. -/
theorem written_eq_fit (h : Canonical spec u) : written spec u = fit spec u := by
  rw [written]
  cases u with
  | infinity s => exact unpack_packedInfinity s
  | notANumber => exact UnpackedFloat.unpack_packedNaN
  | zero s => exact UnpackedFloat.unpack_packedZero
  | finite s m e hm =>
    rw [fit]
    split
    case isTrue hle => exact unpack_pack_of_stored hm ⟨h.1, h.2.1, h.2.2, hle⟩
    case isFalse hlt => rw [pack_of_overflow hm (by omega), unpack_packedInfinity]

theorem written_ne_notANumber (h : Canonical spec u) (hu : u ≠ .notANumber) :
    written spec u ≠ .notANumber := by
  rw [written_eq_fit h]
  exact mt fit_eq_notANumber.mp hu

theorem stored_unpack (spec : Format) (hspec : spec.minExponent ≤ maxExponent spec)
    (b : BitVec spec.numBits) : Stored spec (unpack spec b) := by
  rw [minExponent_eq, maxExponent] at hspec
  have hcapacity := two_pow_exponentBits spec
  have hexponent := (unpackExponent b).isLt
  have hmantissa := (unpackMantissa b).isLt
  rw [unpack]
  split_ifs with hones hzero hsub hzero'
  · trivial
  · trivial
  · trivial
  · -- Without the first bit, the exponent counts as one.
    simp only [Stored, hsub, BitVec.toNat_zero, two_pow_mantissaBits, minExponent_eq, maxExponent]
    omega
  · have hones' : (unpackExponent b).toNat ≠ 2 ^ spec.exponentBits - 1 := by
      rwa [ne_eq, ← BitVec.toNat_allOnes, BitVec.toNat_inj, ← BitVec.neg_one_eq_allOnes]
    have hsub' : (unpackExponent b).toNat ≠ 0 := by
      rwa [ne_eq, ← BitVec.toNat_zero, BitVec.toNat_inj]
    simp only [Stored, toNat_one_append, two_pow_mantissaBits, minExponent_eq, maxExponent]
    omega

/-- The finite numbers of the format. -/
inductive Representable (spec : Format) (c : ℝ) : Prop
  | scaled (m e : ℤ) (mantissa : |m| < 2 ^ spec.mantissaBits) (low : spec.minExponent ≤ e)
      (high : e ≤ maxExponent spec) (eq : c = m * 2 ^ e)

theorem Representable.onGrid {c : ℝ} (h : Representable spec c) : OnGrid spec c := by
  obtain ⟨m, e, hm, he, -, rfl⟩ := h
  exact ⟨m, e, hm, he, rfl⟩

theorem Representable.abs_lt {c : ℝ} (h : Representable spec c) :
    |c| < 2 ^ spec.mantissaBits * 2 ^ maxExponent spec := by
  obtain ⟨m, e, hm, -, he, rfl⟩ := h
  rw [abs_mul, abs_of_pos (zpow_pos two_pos e : (0 : ℝ) < 2 ^ e)]
  calc |(m : ℝ)| * 2 ^ e < 2 ^ spec.mantissaBits * 2 ^ e := by
        gcongr
        exact_mod_cast hm
    _ ≤ 2 ^ spec.mantissaBits * 2 ^ maxExponent spec := by
        gcongr
        exact one_le_two

theorem Representable.neg {c : ℝ} (h : Representable spec c) : Representable spec (-c) := by
  obtain ⟨m, e, hm, he, hmax, rfl⟩ := h
  refine ⟨-m, e, ?_, he, hmax, ?_⟩
  · rwa [abs_neg]
  · push_cast
    ring

theorem Representable.abs {c : ℝ} (h : Representable spec c) : Representable spec |c| := by
  rcases abs_choice c with habs | habs <;> rw [habs]
  · exact h
  · exact h.neg

theorem representable_natCast_mul {m : ℕ} {e : ℤ} (hm : m < 2 ^ spec.mantissaBits)
    (he : spec.minExponent ≤ e) (he' : e ≤ maxExponent spec) : Representable spec (m * 2 ^ e) := by
  refine ⟨m, e, ?_, he, he', rfl⟩
  rw [Nat.abs_cast]
  exact_mod_cast hm

theorem representable_two_pow {n : ℕ} {e : ℤ} (hn : n < spec.mantissaBits)
    (he : spec.minExponent ≤ e) (he' : e ≤ maxExponent spec) :
    Representable spec (2 ^ n * 2 ^ e) := by
  have h := representable_natCast_mul (Nat.pow_lt_pow_right one_lt_two hn) he he'
  rwa [Nat.cast_pow, Nat.cast_two] at h

theorem Stored.representable (h : Stored spec u) (hspec : spec.minExponent ≤ maxExponent spec) :
    Representable spec (value u) := by
  cases u with
  | finite s m e hm =>
    refine ⟨s.apply m, e, ?_, h.2.1, h.2.2.2, signed_mul s m _⟩
    rw [abs_apply]
    exact_mod_cast h.1
  | _ => exact ⟨0, spec.minExponent, by simp, le_rfl, hspec, by simp [value]⟩

theorem abs_value_finite (s : Sign) {m : ℕ} (e : ℤ) (hm : 0 < m) :
    |value (.finite s m e hm)| = m * 2 ^ e := by
  have hpos : (0 : ℝ) ≤ m * 2 ^ e := by positivity
  cases s with
  | positive => exact abs_of_nonneg hpos
  | negative => rw [value_finite, signed, abs_neg, abs_of_nonneg hpos]

/-- What has too high an exponent is larger than all finite numbers. -/
theorem Canonical.le_of_overflow {s : Sign} {m : ℕ} {e : ℤ} {hm : 0 < m}
    (h : Canonical spec (.finite s m e hm)) (hspec : spec.minExponent ≤ maxExponent spec)
    (he : maxExponent spec < e) :
    (2 : ℝ) ^ spec.mantissaBits * 2 ^ maxExponent spec ≤ m * 2 ^ e := by
  have hhigh : (2 : ℝ) ^ spec.mantissaBitsWithoutImplicit ≤ m :=
    mod_cast h.2.2.resolve_right (by omega)
  calc (2 : ℝ) ^ spec.mantissaBits * 2 ^ maxExponent spec
      = 2 ^ spec.mantissaBitsWithoutImplicit * 2 ^ (maxExponent spec + 1) := by
        rw [two_pow_mantissaBits, zpow_add_one₀ two_ne_zero]
        ring
    _ ≤ m * 2 ^ e := by
        gcongr
        · exact one_le_two
        · omega

/-- A result below a finite number is finite. -/
theorem Nearest.fit_eq_of_abs_le {x c : ℝ} (h : Nearest spec x u) (hc : Representable spec c)
    (hx : |x| ≤ c) : fit spec u = u ∧ |value u| ≤ c := by
  have habs : |value u| ≤ c :=
    abs_le.mpr ⟨h.le_value hc.onGrid.neg (abs_le.mp hx).1, h.value_le hc.onGrid (abs_le.mp hx).2⟩
  refine ⟨?_, habs⟩
  have hcanonical := h.canonical
  cases u with
  | finite s m e hm =>
    rw [fit, if_pos]
    by_contra hlt
    have hspec : spec.minExponent ≤ maxExponent spec := by
      obtain ⟨-, f, -, hf, hf', -⟩ := hc
      exact hf.trans hf'
    have hle := hcanonical.le_of_overflow hspec (not_le.mp hlt)
    rw [abs_value_finite] at habs
    linarith [le_abs_self c, hc.abs_lt]
  | _ => rfl

end SphereCloud.Binary
