import SphereCloud.Cloud.Production
import SphereCloud.Proofs.Binary.BinaryScalar
import SphereCloud.Proofs.Generator.Places
import SphereCloud.Sphere

/-!
The samples as doubles: rounding may carry a height to the end of its range, but not past it.
-/

namespace SphereCloud

open BinaryScalar (Rounds Within format real representable_zero)
open Binary (Representable)

namespace Double

theorem representable_intCast {n : ℤ} (hn : |n| < 2 ^ 53) : Representable (format Float) n :=
  ⟨n, 0, hn, by decide, by decide, by rw [zpow_zero, mul_one]⟩

theorem representable_natCast {n : ℕ} (hn : n < 2 ^ 53) : Representable (format Float) n := by
  have h := representable_intCast (n := n) (by rw [Nat.abs_cast]; exact_mod_cast hn)
  rwa [Int.cast_natCast] at h

theorem representable_one : Representable (format Float) 1 := by
  simpa using representable_natCast (n := 1) (by norm_num)

theorem real_ofNat {n : ℕ} (hn : n < 2 ^ 53) :
    Scalar.isFinite (Scalar.ofNat n : Float) = true ∧ real (Scalar.ofNat n : Float) = n :=
  (BinaryScalar.rounds_ofNat (hn.trans (by norm_num))).exact (representable_natCast hn)

/-- The numbers of the samplers as they are stored. -/
theorem unpack_literals :
    BinaryScalar.unpack (0.0 : Float) = .zero .positive ∧
    BinaryScalar.unpack (1.0 : Float) = .finite .positive (2 ^ 52) (-52) (by decide) ∧
    BinaryScalar.unpack (2.0 : Float) = .finite .positive (2 ^ 52) (-51) (by decide) ∧
    BinaryScalar.unpack (Scalar.tau : Float) =
      .finite .positive 7074237752028440 (-50) (by decide) :=
  ⟨rfl, rfl, rfl, rfl⟩

theorem real_zero : Scalar.isFinite (0.0 : Float) = true ∧ real (0.0 : Float) = 0 := by
  obtain ⟨h, -⟩ := unpack_literals
  rw [BinaryScalar.isFinite, real, h]
  exact ⟨rfl, rfl⟩

theorem real_one : Scalar.isFinite (1.0 : Float) = true ∧ real (1.0 : Float) = 1 := by
  obtain ⟨-, h, -⟩ := unpack_literals
  obtain ⟨hfinite, hreal⟩ := BinaryScalar.real_of_unpack h
  exact ⟨hfinite, hreal.trans (by norm_num)⟩

theorem real_two : Scalar.isFinite (2.0 : Float) = true ∧ real (2.0 : Float) = 2 := by
  obtain ⟨-, -, h, -⟩ := unpack_literals
  obtain ⟨hfinite, hreal⟩ := BinaryScalar.real_of_unpack h
  exact ⟨hfinite, hreal.trans (by norm_num)⟩

theorem within_two : Within 0 2 (2.0 : Float) := by
  obtain ⟨hfinite, hreal⟩ := real_two
  exact ⟨hfinite, by rw [hreal]; norm_num, hreal.le⟩

theorem within_tau : Within 0 8 (Scalar.tau : Float) := by
  obtain ⟨-, -, -, h⟩ := unpack_literals
  obtain ⟨hfinite, hreal⟩ := BinaryScalar.real_of_unpack h
  refine ⟨hfinite, ?_, ?_⟩ <;> rw [hreal] <;> norm_num

theorem within_quotient {m d : ℕ} (hd : 0 < d) (hle : m ≤ d) (hlt : d < 2 ^ 53) :
    Within 0 1 (Scalar.ofNat m / Scalar.ofNat d : Float) := by
  obtain ⟨hm, hm_real⟩ := real_ofNat (hle.trans_lt hlt)
  obtain ⟨hd', hd_real⟩ := real_ofNat hlt
  have hpos : (0 : ℝ) < d := Nat.cast_pos.mpr hd
  have hrounds := BinaryScalar.rounds_div hm hd' (hd_real ▸ hpos.ne')
  rw [hm_real, hd_real] at hrounds
  refine hrounds.between representable_zero representable_one (by positivity) ?_
  rw [div_le_one hpos]
  exact_mod_cast hle

theorem onSphere_of_within {z t : Float} (hz : Within (-1) 1 z) (ht : Scalar.isFinite t = true) :
    onSphere z t = true := by
  obtain ⟨habs, habs_le⟩ := (BinaryScalar.rounds_abs hz.isFinite).bounded representable_one (by
    rw [abs_abs]
    exact abs_le.mpr ⟨hz.ge, hz.le⟩)
  have hle : Scalar.le (Scalar.abs z) 1.0 = true := by
    rw [BinaryScalar.le_iff_real habs real_one.1, real_one.2]
    exact (le_abs_self _).trans habs_le
  rw [onSphere, hle, ht]
  rfl

theorem within_heightOf {u : Float} (hu : Within 0 1 u) :
    Within (-1) 1 (Cylindrical.heightOf u) := by
  obtain ⟨hone, hone_real⟩ := real_one
  have hdouble := within_two.mul hu (c := 2) (mod_cast representable_natCast (n := 2) (by norm_num))
    (by norm_num)
  refine (BinaryScalar.rounds_sub hdouble.isFinite hone).between representable_one.neg
    representable_one ?_ ?_ <;> rw [hone_real]
  · linarith [hdouble.ge]
  · linarith [hdouble.le]

/-- Angles may be large, but they are finite. -/
theorem isFinite_angleOf {v : Float} (hv : Within 0 (2 ^ 49) v) :
    Scalar.isFinite (Cylindrical.angleOf v) = true :=
  (within_tau.mul hv (c := 2 ^ 52) (mod_cast representable_natCast (n := 2 ^ 52) (by norm_num))
    (by norm_num)).isFinite

theorem onSphere_of_unit {u v : Float} (hu : Within 0 1 u) (hv : Within 0 (2 ^ 49) v) :
    onSphere (Cylindrical.heightOf u) (Cylindrical.angleOf v) = true :=
  onSphere_of_within (within_heightOf hu) (isFinite_angleOf hv)

theorem within_fraction (g : HashChain) : Within 0 1 (g.fraction : Float) :=
  within_quotient (by norm_num) g.state.toNat_lt.le (by norm_num)

theorem stretch_height : UniformScalar.stretch (-1.0 : Float) 1.0 = 2.0 := by
  change shrinkStretch (-1.0) 1.0 (1.0 - -1.0 : Float).toBits = 2.0
  rw [shrinkStretch]
  rfl

theorem stretch_angle : UniformScalar.stretch (0.0 : Float) Scalar.tau = Scalar.tau := by
  change shrinkStretch 0.0 Scalar.tau (Scalar.tau - 0.0 : Float).toBits = Scalar.tau
  rw [shrinkStretch]
  rfl

/-- The fraction that a word stands for. -/
theorem within_word (word : UInt64) :
    Within 0 1 (Scalar.ofNat (word >>> 12).toNat / Scalar.ofNat 4503599627370496 : Float) :=
  within_quotient (by norm_num) (UniformStream.toNat_shiftRight_lt word).le (by norm_num)

theorem within_sample_height (word : UInt64) :
    Within (-1) 1
      (UniformStream.sample (-1.0) (UniformScalar.stretch (-1.0) 1.0) word : Float) := by
  obtain ⟨hminus, hminus_real⟩ := BinaryScalar.real_neg real_one.1
  rw [real_one.2] at hminus_real
  have hstretched := (within_word word).mul within_two (c := 2)
    (mod_cast representable_natCast (n := 2) (by norm_num)) (by norm_num)
  rw [UniformStream.sample, stretch_height]
  refine (BinaryScalar.rounds_add hstretched.isFinite hminus).between representable_one.neg
    representable_one ?_ ?_ <;> rw [hminus_real]
  · linarith [hstretched.ge]
  · linarith [hstretched.le]

theorem isFinite_sample_angle (word : UInt64) :
    Scalar.isFinite (UniformStream.sample 0.0 (UniformScalar.stretch 0.0 Scalar.tau) word : Float) =
      true := by
  have height : Representable (format Float) 8 :=
    mod_cast representable_natCast (n := 8) (by norm_num)
  have hstretched := (within_word word).mul within_tau height (by norm_num)
  rw [UniformStream.sample, stretch_angle]
  refine ((BinaryScalar.rounds_add hstretched.isFinite real_zero.1).between representable_zero
    height ?_ ?_).isFinite <;> rw [real_zero.2, add_zero]
  · exact hstretched.ge
  · exact hstretched.le

theorem within_ofNat {n : ℕ} (hn : n < 2 ^ 53) : Within 0 n (Scalar.ofNat n : Float) := by
  obtain ⟨hfinite, hreal⟩ := real_ofNat hn
  exact ⟨hfinite, by rw [hreal]; positivity, hreal.le⟩

/-- A digit behind the point adds at most itself. -/
theorem within_term {base d : ℕ} (hbase : 0 < base) (hd : d < base) (hlt : base < 2 ^ 53)
    {place : Float} (hplace : Within 0 1 place) :
    Within 0 1 (place / Scalar.ofNat base) ∧
      Within 0 d (place / Scalar.ofNat base * Scalar.ofNat d) := by
  obtain ⟨hbase', hbase_real⟩ := real_ofNat hlt
  have hpos : (1 : ℝ) ≤ base := by exact_mod_cast hbase
  have hquotient : Within 0 1 (place / Scalar.ofNat base) := by
    refine (BinaryScalar.rounds_div hplace.isFinite hbase' (by rw [hbase_real]; positivity)).between
      representable_zero representable_one ?_ ?_ <;> rw [hbase_real]
    · exact div_nonneg hplace.ge (by positivity)
    · exact div_le_one_of_le₀ (hplace.le.trans hpos) (by positivity)
  exact ⟨hquotient,
    hquotient.mul (within_ofNat (hd.trans hlt)) (representable_natCast (hd.trans hlt))
    (one_mul (d : ℝ)).le⟩

/-- Each digit adds at most the base. -/
theorem within_digit {base d c : ℕ} (hbase : 0 < base) (hd : d < base) (hc : c + base < 2 ^ 53)
    {place acc : Float} (hplace : Within 0 1 place) (hacc : Within 0 c acc) :
    Within 0 1 (place / Scalar.ofNat base) ∧
      Within 0 (c + base : ℕ) (acc + place / Scalar.ofNat base * Scalar.ofNat d) := by
  obtain ⟨hquotient, hterm⟩ := within_term hbase hd (by omega) hplace
  have hsum :=
    hacc.add hterm (by rw [add_zero]; exact representable_zero) (representable_natCast hc)
    (by exact_mod_cast Nat.add_le_add_left hd.le c)
  rw [add_zero] at hsum
  exact ⟨hquotient, hsum⟩

theorem within_reverseDigits {base : ℕ} (two_le : 2 ≤ base) {j n c : ℕ} (hn : n < 2 ^ j)
    (hc : c + base * j < 2 ^ 53) {place acc : Float} (hplace : Within 0 1 place)
    (hacc : Within 0 c acc) :
    Within 0 (c + base * j : ℕ) (reverseDigits base two_le place acc n) := by
  induction j generalizing n c place acc with
  | zero =>
    obtain rfl : n = 0 := by omega
    rw [reverseDigits, dif_pos rfl]
    simpa using hacc
  | succ j ih =>
    rw [Nat.mul_add_one] at hc
    have hsum : c + base * (j + 1) = c + base + base * j := by rw [Nat.mul_add_one]; omega
    rw [reverseDigits, hsum]
    split
    case isTrue =>
      have hle : c ≤ c + base + base * j := by omega
      exact hacc.mono le_rfl (mod_cast hle)
    case isFalse =>
      have hbase : 0 < base := by omega
      obtain ⟨hplace', hacc'⟩ := within_digit hbase (Nat.mod_lt n hbase) (by omega) hplace hacc
      refine ih ?_ (by omega) hplace' hacc'
      rw [pow_succ] at hn
      exact (Nat.div_le_div_left two_le two_pos).trans_lt (by omega)

section BaseTwo

variable {k d : ℕ} {place acc : Float}

theorem representable_scaled {m : ℕ} (hm : m < 2 ^ 53) (hk : k ≤ 1000) :
    Representable (format Float) (m * 2 ^ (-(k : ℤ))) := by
  have hmin : (format Float).minExponent = -1074 := by decide
  have hmax : Binary.maxExponent (format Float) = 971 := by decide
  exact Binary.representable_natCast_mul hm (by rw [hmin]; omega) (by rw [hmax]; omega)

/-- A number of few bits is divided by a power of two without rounding. -/
theorem real_ofNat_div {m d : ℕ} (hm : m < 2 ^ 53) (hd : d = 2 ^ k) (hk : k < 53) :
    Scalar.isFinite (Scalar.ofNat m / Scalar.ofNat d : Float) = true ∧
      real (Scalar.ofNat m / Scalar.ofNat d : Float) = m * 2 ^ (-(k : ℤ)) := by
  have hlt : d < 2 ^ 53 := hd ▸ Nat.pow_lt_pow_right one_lt_two hk
  obtain ⟨hm', hm_real⟩ := real_ofNat hm
  obtain ⟨hd', hd_real⟩ := real_ofNat hlt
  have hrounds := BinaryScalar.rounds_div hm' hd' (by rw [hd_real, hd]; positivity)
  have hscaled : (m : ℝ) / d = m * 2 ^ (-(k : ℤ)) := by
    rw [hd, Nat.cast_pow, Nat.cast_two, zpow_neg, zpow_natCast, div_eq_mul_inv]
  rw [hm_real, hd_real, hscaled] at hrounds
  exact hrounds.exact (representable_scaled hm (by omega))

theorem representable_one_sub (hk : k ≤ 53) :
    Representable (format Float) (1 - 2 ^ (-(k : ℤ))) := by
  have hlt : 2 ^ k - 1 < 2 ^ 53 := by
    have := Nat.pow_le_pow_right two_pos hk
    have := Nat.two_pow_pos k
    omega
  have h := representable_scaled (k := k) hlt (by omega)
  rwa [Binary.pred_place_mul] at h

theorem two_mul_place (k : ℕ) : (2 : ℝ) * 2 ^ (-((k + 1 : ℕ) : ℤ)) = 2 ^ (-(k : ℤ)) := by
  rw [Nat.cast_succ, neg_add, ← sub_eq_add_neg, zpow_sub_one₀ two_ne_zero]
  field_simp

/-- Places in base two are halved without rounding. -/
theorem real_half (hk : k < 1000) (hplace : Scalar.isFinite place = true)
    (hreal : real place = 2 ^ (-(k : ℤ))) :
    Scalar.isFinite (place / Scalar.ofNat 2) = true ∧
      real (place / Scalar.ofNat 2) = 2 ^ (-((k + 1 : ℕ) : ℤ)) := by
  obtain ⟨htwo, htwo_real⟩ := real_ofNat (n := 2) (by norm_num)
  have hrounds := BinaryScalar.rounds_div hplace htwo (by rw [htwo_real]; norm_num)
  rw [hreal, ← two_mul_place, htwo_real, Nat.cast_two,
    mul_div_cancel_left₀ _ two_ne_zero] at hrounds
  exact hrounds.exact (by simpa using representable_scaled (k := k + 1) (m := 1) (by norm_num) hk)

theorem real_bit (hk : k ≤ 1000) (hd : d < 2) (hplace : Scalar.isFinite place = true)
    (hreal : real place = 2 ^ (-(k : ℤ))) :
    Scalar.isFinite (place * Scalar.ofNat d) = true ∧
      real (place * Scalar.ofNat d) = d * 2 ^ (-(k : ℤ)) := by
  obtain ⟨hd', hd_real⟩ := real_ofNat (n := d) (by omega)
  have hrounds := BinaryScalar.rounds_mul hplace hd'
  rw [hreal, hd_real, mul_comm] at hrounds
  exact hrounds.exact (representable_scaled (by omega) hk)

/-- What the sum is like behind `k` digits in base two. -/
structure Partial (k : ℕ) (place acc : Float) : Prop where
  place_isFinite : Scalar.isFinite place = true
  place_eq : real place = 2 ^ (-(k : ℤ))
  within : Within 0 1 acc
  /-- As long as a double has bits left, the sum leaves room for the last place once more. -/
  room : k ≤ 53 → real acc ≤ 1 - 2 ^ (-(k : ℤ))

theorem partial_start : Partial 0 1.0 0.0 := by
  obtain ⟨hzero, hzero_real⟩ := real_zero
  refine ⟨real_one.1, by rw [real_one.2]; norm_num, ⟨hzero, hzero_real.ge, ?_⟩, fun _ => ?_⟩ <;>
    rw [hzero_real] <;> norm_num

/-- Once there is no room, a sum above one is above it by less than half of the last place of
one. -/
theorem Partial.step (h : Partial k place acc) (hk : k < 1000) (hd : d < 2) :
    Partial (k + 1) (place / Scalar.ofNat 2) (acc + place / Scalar.ofNat 2 * Scalar.ofNat d) := by
  obtain ⟨hhalf, hhalf_real⟩ := real_half hk h.place_isFinite h.place_eq
  obtain ⟨hterm, hterm_real⟩ := real_bit hk hd hhalf hhalf_real
  have hroom := h.room
  rw [← two_mul_place] at hroom
  have hsum := BinaryScalar.rounds_add h.within.isFinite hterm
  rw [hterm_real] at hsum
  obtain ⟨q, hq⟩ : ∃ q : ℝ, 2 ^ (-((k + 1 : ℕ) : ℤ)) = q := ⟨_, rfl⟩
  have hq_pos : 0 < q := hq ▸ zpow_pos two_pos _
  have hdigit : (d : ℝ) * q ≤ q := by
    have : (d : ℝ) ≤ 1 := by exact_mod_cast Nat.lt_succ_iff.mp hd
    nlinarith
  rw [hq] at hroom hsum
  have hnonneg : 0 ≤ real acc + d * q := add_nonneg h.within.ge (by positivity)
  rcases le_or_gt (k + 1) 53 with hbits | hbits
  · have hwithin := hsum.between representable_zero (hq ▸ representable_one_sub hbits) hnonneg
      (by linarith [hroom (by omega)])
    exact ⟨hhalf, hhalf_real, hwithin.mono le_rfl (by linarith), fun _ => hq ▸ hwithin.le⟩
  · have hsmall : q < 2 ^ (-(53 : ℤ)) := by
      rw [← hq]
      exact zpow_lt_zpow_right₀ one_lt_two (by omega)
    have hwithin := hsum.between (b := 2) representable_zero
      (mod_cast representable_natCast (n := 2) (by norm_num)) hnonneg (by
        have : (2 : ℝ) ^ (-(53 : ℤ)) ≤ 1 := by norm_num
        linarith [h.within.le])
    have hle := (hsum.nearest hwithin.isFinite).value_le_one representable_one.onGrid
      (show _ < 1 + (2 : ℝ) ^ (-(53 : ℤ)) by linarith [h.within.le])
    exact ⟨hhalf, hhalf_real, ⟨hwithin.isFinite, hwithin.ge, hle⟩, fun hle => by omega⟩

theorem within_reverseDigits_two (two_le : 2 ≤ 2) {j n : ℕ} (hn : n < 2 ^ j) (hk : k + j ≤ 1000)
    (h : Partial k place acc) : Within 0 1 (reverseDigits 2 two_le place acc n) := by
  induction j generalizing k n place acc with
  | zero =>
    obtain rfl : n = 0 := by omega
    rw [reverseDigits, dif_pos rfl]
    exact h.within
  | succ j ih =>
    rw [reverseDigits]
    split
    case isTrue => exact h.within
    case isFalse =>
      rw [pow_succ] at hn
      exact ih (by omega) (by omega) (h.step (by omega) (Nat.mod_lt n two_pos))

end BaseTwo

/-- As many pairs as can be kept lie on the sphere. -/
theorem onSphere_haltonPair {k : ℕ} (hk : k < 2 ^ 60) :
    onSphere (haltonPair (α := Float) k).1 (haltonPair (α := Float) k).2 = true := by
  have hk' : k + 1 < 2 ^ 61 := by omega
  obtain ⟨hzero, hzero_real⟩ := real_zero
  obtain ⟨hone, hone_real⟩ := real_one
  have hangle : Within 0 (0 + 3 * 61 : ℕ) (radicalInverse 3 (by decide) (k + 1) : Float) :=
    within_reverseDigits (by decide) hk' (by norm_num)
      ⟨hone, by rw [hone_real]; norm_num, hone_real.le⟩
      ⟨hzero, hzero_real.ge, by rw [hzero_real, Nat.cast_zero]⟩
  exact onSphere_of_unit (within_reverseDigits_two (by decide) hk' (by norm_num) partial_start)
    (hangle.mono le_rfl (by norm_num))

end Double

end SphereCloud
