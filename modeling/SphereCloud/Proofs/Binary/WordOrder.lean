import SphereCloud.Proofs.Binary.Order

/-!
The words of the numbers from zero on. They are in the order of the numbers, so that the word in
front of one is that of the next smaller number.
-/

namespace SphereCloud.Binary

open Float.Model (Format UnpackedFloat)
open Float.Model.UnpackedFloat (Sign unpack unpackExponent unpackMantissa unpackSign)

variable {spec : Format} {b c : BitVec spec.numBits}

theorem toNat_unpackExponent (b : BitVec spec.numBits) :
    (unpackExponent b).toNat =
      b.toNat / 2 ^ spec.mantissaBitsWithoutImplicit % 2 ^ spec.exponentBits := by
  have hwidth : spec.mantissaBitsWithoutImplicit + spec.exponentBits - 1 -
      spec.mantissaBitsWithoutImplicit + 1 = spec.exponentBits := by
    have := spec.he
    omega
  rw [unpackExponent, BitVec.toNat_cast, BitVec.extractLsb_toNat, Nat.shiftRight_eq_div_pow, hwidth]

theorem toNat_unpackMantissa (b : BitVec spec.numBits) :
    (unpackMantissa b).toNat = b.toNat % 2 ^ spec.mantissaBitsWithoutImplicit := by
  have hwidth :
      spec.mantissaBitsWithoutImplicit - 1 - 0 + 1 = spec.mantissaBitsWithoutImplicit := by
    have := spec.hm
    omega
  rw [unpackMantissa, BitVec.toNat_cast, BitVec.extractLsb_toNat, Nat.shiftRight_zero, hwidth]

theorem toNat_unpackSign (b : BitVec spec.numBits) :
    (unpackSign b).toNat =
      b.toNat / 2 ^ spec.mantissaBitsWithoutImplicit / 2 ^ spec.exponentBits := by
  have hlt : b.toNat / 2 ^ spec.mantissaBitsWithoutImplicit / 2 ^ spec.exponentBits < 2 := by
    have := b.isLt
    rw [Nat.div_div_eq_div_mul, ← pow_add, Nat.div_lt_iff_lt_mul (by positivity), ← pow_succ']
    refine this.trans_le (Nat.pow_le_pow_right two_pos ?_)
    rw [Format.numBits]
    omega
  rw [unpackSign, BitVec.toNat_cast, BitVec.extractLsb_toNat, Nat.shiftRight_eq_div_pow, pow_add,
    ← Nat.div_div_eq_div_mul, Nat.sub_self, Nat.mod_eq_of_lt hlt]

def wordCount (spec : Format) : ℕ :=
  (2 ^ spec.exponentBits - 1) * 2 ^ spec.mantissaBitsWithoutImplicit

/-- How many times the last place was doubled up to a word: each time the mantissa has run through
its bits. -/
def doublings (spec : Format) (n : ℕ) : ℕ :=
  n / 2 ^ spec.mantissaBitsWithoutImplicit - 1

def mantissaAt (spec : Format) (n : ℕ) : ℕ :=
  n - doublings spec n * 2 ^ spec.mantissaBitsWithoutImplicit

theorem doublings_of_lt {n : ℕ} (h : n < 2 ^ spec.mantissaBitsWithoutImplicit) :
    doublings spec n = 0 := by
  rw [doublings, Nat.div_eq_of_lt h]

theorem mantissaAt_of_lt {n : ℕ} (h : n < 2 ^ spec.mantissaBitsWithoutImplicit) :
    mantissaAt spec n = n := by
  rw [mantissaAt, doublings_of_lt h, Nat.zero_mul, Nat.sub_zero]

/-- Behind the first words a mantissa has its first bit. -/
theorem mantissaAt_of_le {n : ℕ} (h : 2 ^ spec.mantissaBitsWithoutImplicit ≤ n) :
    mantissaAt spec n =
      2 ^ spec.mantissaBitsWithoutImplicit + n % 2 ^ spec.mantissaBitsWithoutImplicit := by
  obtain ⟨k, hk⟩ : ∃ k, n / 2 ^ spec.mantissaBitsWithoutImplicit = k + 1 :=
    Nat.exists_eq_succ_of_ne_zero (Nat.div_pos h (Nat.two_pow_pos _)).ne'
  have hsplit := Nat.div_add_mod' n (2 ^ spec.mantissaBitsWithoutImplicit)
  rw [hk, Nat.add_one_mul] at hsplit
  rw [mantissaAt, doublings, hk, Nat.add_sub_cancel]
  omega

theorem mantissaAt_lt (spec : Format) (n : ℕ) : mantissaAt spec n < 2 ^ spec.mantissaBits := by
  have hmod := Nat.mod_lt n (Nat.two_pow_pos spec.mantissaBitsWithoutImplicit)
  rw [two_pow_mantissaBits]
  rcases Nat.lt_or_ge n (2 ^ spec.mantissaBitsWithoutImplicit) with hlt | hge
  · rw [mantissaAt_of_lt hlt]
    omega
  · rw [mantissaAt_of_le hge]
    omega

theorem ofMantissa_of_pos (s : Sign) {m : ℕ} (e : ℤ) (h : 0 < m) :
    ofMantissa s m e = .finite s m e h :=
  dif_neg h.ne'

theorem div_lt_of_lt_wordCount {n : ℕ} (h : n < wordCount spec) :
    n / 2 ^ spec.mantissaBitsWithoutImplicit < 2 ^ spec.exponentBits - 1 :=
  (Nat.div_lt_iff_lt_mul (Nat.two_pow_pos _)).mpr h

/-- The fields of a word in front of that of infinity. -/
theorem fields_of_lt (hb : b.toNat < wordCount spec) :
    unpackSign b = 0#1 ∧ unpackExponent b ≠ -1#_ ∧
      (unpackExponent b).toNat = b.toNat / 2 ^ spec.mantissaBitsWithoutImplicit := by
  have hdiv := div_lt_of_lt_wordCount hb
  have hdiv' := hdiv.trans_le (Nat.sub_le _ 1)
  have hexponent : (unpackExponent b).toNat = b.toNat / 2 ^ spec.mantissaBitsWithoutImplicit := by
    rw [toNat_unpackExponent, Nat.mod_eq_of_lt hdiv']
  refine ⟨?_, ?_, hexponent⟩
  · rw [← BitVec.toNat_inj, toNat_unpackSign, Nat.div_eq_of_lt hdiv', BitVec.toNat_zero]
  · rw [ne_eq, BitVec.neg_one_eq_allOnes, ← BitVec.toNat_inj, hexponent, BitVec.toNat_allOnes]
    exact hdiv.ne

/-- A word with no exponent is its mantissa. -/
theorem unpack_of_low (hb : b.toNat < wordCount spec)
    (hlow : b.toNat < 2 ^ spec.mantissaBitsWithoutImplicit) :
    unpack spec b = ofMantissa .positive b.toNat spec.minExponent := by
  obtain ⟨hsign, hones, hexponent⟩ := fields_of_lt hb
  have hzero : unpackExponent b = 0#_ := by
    rw [← BitVec.toNat_inj, hexponent, Nat.div_eq_of_lt hlow, BitVec.toNat_zero]
  have hmantissa : (unpackMantissa b).toNat = b.toNat := by
    rw [toNat_unpackMantissa, Nat.mod_eq_of_lt hlow]
  have hmantissa_zero : unpackMantissa b = 0#_ ↔ b.toNat = 0 := by
    rw [← BitVec.toNat_inj, hmantissa, BitVec.toNat_zero]
  have hplace : spec.minExponent =
      0 - (spec.exponentBias + spec.mantissaBitsWithoutImplicit : ℤ) + 1 := by
    rw [minExponent_eq]
    ring
  simp only [unpack, hsign, if_neg hones, Sign.ofBitVec, if_true]
  simp only [ofMantissa, hmantissa_zero, hmantissa, hzero, if_true, BitVec.toNat_zero, hplace,
    Nat.cast_zero]

theorem unpack_of_high (hb : b.toNat < wordCount spec)
    (hhigh : 2 ^ spec.mantissaBitsWithoutImplicit ≤ b.toNat) (hpos : 0 < mantissaAt spec b.toNat) :
    unpack spec b = .finite .positive (mantissaAt spec b.toNat)
      (spec.minExponent + doublings spec b.toNat) hpos := by
  obtain ⟨hsign, hones, hexponent⟩ := fields_of_lt hb
  have hquotient : 0 < b.toNat / 2 ^ spec.mantissaBitsWithoutImplicit :=
    Nat.div_pos hhigh (Nat.two_pow_pos _)
  have hne : unpackExponent b ≠ 0#_ := by
    rw [ne_eq, ← BitVec.toNat_inj, hexponent, BitVec.toNat_zero]
    omega
  simp only [unpack, hsign, if_neg hones, if_neg hne, Sign.ofBitVec, if_true]
  congr 1
  · rw [toNat_one_append, toNat_unpackMantissa, mantissaAt_of_le hhigh]
  · rw [hexponent, minExponent_eq, doublings]
    omega

theorem unpack_of_lt (hb : b.toNat < wordCount spec) :
    unpack spec b =
      ofMantissa .positive (mantissaAt spec b.toNat)
        (spec.minExponent + doublings spec b.toNat) := by
  rcases Nat.lt_or_ge b.toNat (2 ^ spec.mantissaBitsWithoutImplicit) with hlow | hhigh
  · rw [unpack_of_low hb hlow, mantissaAt_of_lt hlow, doublings_of_lt hlow, Nat.cast_zero, add_zero]
  · have hpos : 0 < mantissaAt spec b.toNat := by
      rw [mantissaAt_of_le hhigh]
      positivity
    rw [unpack_of_high hb hhigh hpos, ofMantissa_of_pos _ _ hpos]

/-- Each word stands for a greater number than the one in front of it. -/
theorem mul_zpow_words_lt {m n : ℕ} (h : m < n) :
    (mantissaAt spec m : ℝ) * 2 ^ (spec.minExponent + doublings spec m) <
      mantissaAt spec n * 2 ^ (spec.minExponent + doublings spec n) := by
  have hdoublings : doublings spec m ≤ doublings spec n :=
    Nat.sub_le_sub_right (Nat.div_le_div_right h.le) 1
  rcases hdoublings.lt_or_eq with hlt | heq
  · refine mul_zpow_lt_of_exponent_lt (mantissaAt_lt spec m) (by omega) (Or.inl ?_) (by omega)
    rcases Nat.lt_or_ge n (2 ^ spec.mantissaBitsWithoutImplicit) with hlow | hge
    · rw [doublings_of_lt hlow] at hlt
      omega
    · rw [mantissaAt_of_le hge]
      exact Nat.le_add_right _ _
  · rw [heq]
    gcongr
    rw [mantissaAt, mantissaAt, heq]
    have : doublings spec n * 2 ^ spec.mantissaBitsWithoutImplicit ≤ m := by
      rw [← heq, doublings]
      exact (Nat.mul_le_mul_right _ (Nat.sub_le _ 1)).trans (Nat.div_mul_le_self m _)
    omega

variable (spec) in
theorem value_unpack_of_lt (hb : b.toNat < wordCount spec) :
    (unpack spec b).isFinite = true ∧ value (unpack spec b) =
      mantissaAt spec b.toNat * 2 ^ (spec.minExponent + doublings spec b.toNat) := by
  rw [unpack_of_lt hb, value_ofMantissa]
  exact ⟨isFinite_ofMantissa _ _ _, rfl⟩

variable (spec) in
theorem value_unpack_lt_iff (hb : b.toNat < wordCount spec) (hc : c.toNat < wordCount spec) :
    value (unpack spec b) < value (unpack spec c) ↔ b.toNat < c.toNat := by
  rw [(value_unpack_of_lt spec hb).2, (value_unpack_of_lt spec hc).2]
  refine ⟨fun h => ?_, mul_zpow_words_lt⟩
  by_contra hle
  rcases (not_lt.mp hle).lt_or_eq with hlt | heq
  · exact h.not_gt (mul_zpow_words_lt hlt)
  · rw [heq] at h
    exact h.false

theorem unpackSign_of_pos (hones : unpackExponent b ≠ -1#_) (hpos : 0 < value (unpack spec b)) :
    unpackSign b = 0#1 := by
  by_contra hne
  have hnegative : Sign.ofBitVec (unpackSign b) = .negative := if_neg hne
  have hle {m : ℕ} {e : ℤ} (hm : 0 < m) : value (.finite .negative m e hm) ≤ 0 := by
    rw [value_finite, signed, neg_nonpos]
    positivity
  rw [unpack, hnegative, if_neg hones] at hpos
  split_ifs at hpos with hzero hmantissa
  · exact hpos.false
  · exact hpos.not_ge (hle _)
  · exact hpos.not_ge (hle _)

variable (spec) in
/-- The numbers above zero have words in front of that of infinity. -/
theorem toNat_lt_wordCount (hfinite : (unpack spec b).isFinite = true)
    (hpos : 0 < value (unpack spec b)) : b.toNat < wordCount spec := by
  have hones : unpackExponent b ≠ -1#_ := by
    intro h
    rw [unpack, if_pos h] at hfinite
    split at hfinite <;> cases hfinite
  have hquotient : b.toNat / 2 ^ spec.mantissaBitsWithoutImplicit < 2 ^ spec.exponentBits := by
    rw [← Nat.div_eq_zero_iff_lt (Nat.two_pow_pos _), ← toNat_unpackSign,
      unpackSign_of_pos hones hpos, BitVec.toNat_zero]
  rw [wordCount, ← Nat.div_lt_iff_lt_mul (Nat.two_pow_pos _)]
  rw [ne_eq, BitVec.neg_one_eq_allOnes, ← BitVec.toNat_inj, toNat_unpackExponent,
    Nat.mod_eq_of_lt hquotient, BitVec.toNat_allOnes] at hones
  omega

end SphereCloud.Binary
