import SphereCloud.Proofs.Generator.Expansion
import SphereCloud.Proofs.Generator.RoundedRange

/-!
Radical inverses in base two as doubles. As long as a double has bits left for the digits, the loop
does not round.
-/

namespace SphereCloud

open BinaryScalar (format real)
open Binary (Representable)

/-- The last `j` bits of a number, the other way around. -/
def reversedBits (n : ℕ) : ℕ → ℕ
  | 0 => 0
  | j + 1 => 2 * reversedBits n j + n / 2 ^ j % 2

theorem reversedBits_lt (n j : ℕ) : reversedBits n j < 2 ^ j := by
  induction j with
  | zero => exact Nat.one_pos
  | succ j ih =>
    have := Nat.mod_lt (n / 2 ^ j) two_pos
    rw [reversedBits, pow_succ]
    omega

/-- The last bits are all ones just in front of a multiple of a power of two. -/
theorem reversedBits_add_one_eq (n j : ℕ) : reversedBits n j + 1 = 2 ^ j ↔ 2 ^ j ∣ n + 1 := by
  induction j with
  | zero => simp [reversedBits]
  | succ j ih =>
    have hlt := reversedBits_lt n j
    rw [reversedBits, pow_succ]
    constructor
    · intro h
      have hlast : n / 2 ^ j % 2 = 1 := by omega
      obtain ⟨q, hq⟩ := ih.mp (by omega)
      have hdiv := div_add_one_eq (Nat.two_pow_pos j) hq
      rw [hq]
      exact Nat.mul_dvd_mul_left _ (by omega)
    · rintro ⟨q, hq⟩
      rw [mul_assoc] at hq
      have hfront := ih.mpr ⟨2 * q, hq⟩
      have hdiv := div_add_one_eq (Nat.two_pow_pos j) hq
      omega

namespace Reversal

theorem after_two_real (n j : ℕ) :
    (after (α := ℝ) 2 n j).place = 2 ^ (-(j : ℤ)) ∧
      (after (α := ℝ) 2 n j).sum = reversedBits n j * 2 ^ (-(j : ℤ)) := by
  induction j with
  | zero =>
    rw [place_after_zero, sum_after_zero]
    norm_num [reversedBits]
  | succ j ih =>
    obtain ⟨hplace, hsum⟩ := ih
    have hhalf : (after (α := ℝ) 2 n (j + 1)).place = 2 ^ (-((j + 1 : ℕ) : ℤ)) := by
      rw [place_after_succ, hplace, ← Double.two_mul_place, ofNat_real, Nat.cast_two,
        mul_div_cancel_left₀ _ two_ne_zero]
    refine ⟨hhalf, ?_⟩
    rw [sum_after_succ, term_after, hhalf, hsum, ← Double.two_mul_place, ofNat_real, reversedBits]
    push_cast
    ring

section Doubles

variable (n : ℕ) {j : ℕ}

theorem place_after_two (hj : j ≤ 1000) :
    Scalar.isFinite (after (α := Float) 2 n j).place = true ∧
      real (after (α := Float) 2 n j).place = 2 ^ (-(j : ℤ)) := by
  induction j with
  | zero =>
    obtain ⟨hone, hone_real⟩ := Double.real_one
    rw [place_after_zero]
    exact ⟨hone, hone_real.trans (by norm_num)⟩
  | succ j ih =>
    obtain ⟨hplace, hplace_real⟩ := ih (by omega)
    rw [place_after_succ]
    exact Double.real_half (by omega) hplace hplace_real

theorem term_after_two (hj : j < 1000) :
    Scalar.isFinite ((after (α := Float) 2 n j).term 2) = true ∧
      real ((after (α := Float) 2 n j).term 2) =
        (n / 2 ^ j % 2 : ℕ) * 2 ^ (-((j + 1 : ℕ) : ℤ)) := by
  obtain ⟨hplace, hplace_real⟩ := place_after_two n (j := j + 1) hj
  rw [term_after]
  exact Double.real_bit hj (Nat.mod_lt _ two_pos) hplace hplace_real

theorem real_sum_add_term (hj : j < 1000)
    (hsum : real (after (α := Float) 2 n j).sum = reversedBits n j * 2 ^ (-(j : ℤ))) :
    real (after (α := Float) 2 n j).sum + real ((after (α := Float) 2 n j).term 2) =
      reversedBits n (j + 1) * 2 ^ (-((j + 1 : ℕ) : ℤ)) := by
  rw [hsum, (term_after_two n hj).2, ← Double.two_mul_place, reversedBits]
  push_cast
  ring

/-- The sum is not rounded as long as its bits fit. -/
theorem sum_after_two (hj : j ≤ 1000) (hbits : reversedBits n j < 2 ^ 53) :
    Scalar.isFinite (after (α := Float) 2 n j).sum = true ∧
      real (after (α := Float) 2 n j).sum = reversedBits n j * 2 ^ (-(j : ℤ)) := by
  induction j with
  | zero =>
    obtain ⟨hzero, hzero_real⟩ := Double.real_zero
    rw [sum_after_zero, reversedBits, Nat.cast_zero, zero_mul]
    exact ⟨hzero, hzero_real⟩
  | succ j ih =>
    have hbits' : reversedBits n j < 2 ^ 53 := by
      rw [reversedBits] at hbits
      omega
    obtain ⟨hsum, hsum_real⟩ := ih (by omega) hbits'
    have hrounds := BinaryScalar.rounds_add hsum (term_after_two n (j := j) hj).1
    rw [real_sum_add_term n hj hsum_real] at hrounds
    rw [sum_after_succ]
    exact hrounds.exact (Double.representable_scaled hbits hj)

end Doubles

end Reversal

namespace Double

theorem representable_int_scaled {n : ℤ} {k : ℕ} (hn : |n| < 2 ^ 53) (hk : k ≤ 1000) :
    Representable (format Float) (n * 2 ^ (-(k : ℤ))) := by
  have hmin : (format Float).minExponent = -1074 := by decide
  have hmax : Binary.maxExponent (format Float) = 971 := by decide
  exact ⟨n, -k, hn, by rw [hmin]; omega, by rw [hmax]; omega, rfl⟩

/-- A sample of few bits gives its height without rounding. -/
theorem real_heightOf {x : Float} {m k : ℕ} (hx : Scalar.isFinite x = true)
    (hreal : real x = m * 2 ^ (-((k + 1 : ℕ) : ℤ))) (hm : m < 2 ^ 53) (hk : k ≤ 53)
    (hunits : 2 ^ k < m + 2 ^ 53) :
    real (2.0 * x) = 2 * real x ∧ Scalar.isFinite (Cylindrical.heightOf x) = true ∧
      real (Cylindrical.heightOf x) = 2 * real x - 1 := by
  obtain ⟨htwo, htwo_real⟩ := real_two
  obtain ⟨hone, hone_real⟩ := real_one
  have hdouble : 2 * real x = m * 2 ^ (-(k : ℤ)) := by
    rw [hreal, ← mul_assoc, mul_comm (2 : ℝ), mul_assoc, two_mul_place]
  have hproduct := BinaryScalar.rounds_mul htwo hx
  rw [htwo_real, hdouble] at hproduct
  obtain ⟨hproduct, hproduct_real⟩ := hproduct.exact (representable_scaled hm (by omega))
  have hdifference := BinaryScalar.rounds_sub hproduct hone
  have hsum : real (2.0 * x) - real (1.0 : Float) = ((m - 2 ^ k : ℤ) : ℝ) * 2 ^ (-(k : ℤ)) := by
    rw [hproduct_real, hone_real]
    push_cast
    rw [sub_mul, zpow_neg, zpow_natCast, mul_inv_cancel₀ (by positivity)]
  rw [hsum] at hdifference
  have hsmall : |(m - 2 ^ k : ℤ)| < 2 ^ 53 := by
    zify at hm hunits
    have : (0 : ℤ) < 2 ^ k := by positivity
    rw [abs_lt]
    constructor <;> linarith
  obtain ⟨hheight, hheight_real⟩ := hdifference.exact (representable_int_scaled hsmall (by omega))
  refine ⟨hproduct_real.trans hdouble.symm, hheight, ?_⟩
  rw [Cylindrical.heightOf, hheight_real, ← hsum, hproduct_real, hone_real, hdouble]

end Double

theorem Cylindrical.getElem?_heights {α : Type} [Scalar α] {u v : List α} {pairs : Cylindrical α}
    (h : ofUnit? u v = .ok pairs) {i : ℕ} {x : α} (hx : u[i]? = some x) :
    pairs.heights[i]? = some (heightOf x) := by
  unfold ofUnit? ofLists? at h
  split at h
  case isTrue =>
    cases h
    rw [List.getElem?_map, hx, Option.map_some]
  case isFalse => cases h

/-- Whether a double is a whole number below `2 ^ 53` of some unit down to `2 ^ (-54)`. -/
def IsDyadic (x : Float) : Prop :=
  Scalar.isFinite x = true ∧ ∃ m e : ℕ, m < 2 ^ 53 ∧ e ≤ 54 ∧ real x = m / (2 ^ e : ℕ)

theorem isDyadic_of_real_eq {x : Float} {m k : ℕ} (hx : Scalar.isFinite x = true)
    (hreal : real x = m * 2 ^ (-(k : ℤ))) (hm : m < 2 ^ 53) (hk : k ≤ 54) : IsDyadic x :=
  ⟨hx, m, k, hm, hk,
    by rw [hreal, Nat.cast_pow, Nat.cast_two, zpow_neg, zpow_natCast, div_eq_mul_inv]⟩

/-- A number up to `2 ^ 53` has few enough bits, for the only one with 54 bits ends in zeros. -/
theorem reversedBits_lt_of_le {n j : ℕ} (hn : n ≤ 2 ^ 53) (hj : j ≤ (Nat.digits 2 n).length) :
    j ≤ 54 ∧ reversedBits n j < 2 ^ 53 := by
  have hlength : (Nat.digits 2 n).length ≤ 54 := by
    rw [Nat.digits_length_le_iff one_lt_two]
    omega
  refine ⟨hj.trans hlength, ?_⟩
  rcases Nat.lt_or_ge j 54 with hlt | hge
  · exact (reversedBits_lt n j).trans_le (Nat.pow_le_pow_right two_pos (by omega))
  · have hmany : ¬ (Nat.digits 2 n).length ≤ 53 := by omega
    rw [Nat.digits_length_le_iff one_lt_two] at hmany
    obtain rfl : j = 54 := by omega
    obtain rfl : n = 2 ^ 53 := by omega
    decide

section Exactness

variable {n : ℕ} (hn : n ≤ 2 ^ 53)
include hn

theorem place_after_exact {j : ℕ} (hj : j ≤ (Nat.digits 2 n).length) :
    IsDyadic (Reversal.after (α := Float) 2 n j).place ∧
      real (Reversal.after (α := Float) 2 n j).place = (Reversal.after (α := ℝ) 2 n j).place := by
  obtain ⟨hplaces, -⟩ := reversedBits_lt_of_le hn hj
  obtain ⟨hplace, hreal⟩ := Reversal.place_after_two n (j := j) (by omega)
  have hunit : real (Reversal.after (α := Float) 2 n j).place = (1 : ℕ) * 2 ^ (-(j : ℤ)) := by
    rw [hreal, Nat.cast_one, one_mul]
  exact ⟨isDyadic_of_real_eq hplace hunit (by norm_num) hplaces,
    hreal.trans (Reversal.after_two_real n j).1.symm⟩

theorem sum_after_exact {j : ℕ} (hj : j ≤ (Nat.digits 2 n).length) :
    IsDyadic (Reversal.after (α := Float) 2 n j).sum ∧
      real (Reversal.after (α := Float) 2 n j).sum = (Reversal.after (α := ℝ) 2 n j).sum := by
  obtain ⟨hplaces, hbits⟩ := reversedBits_lt_of_le hn hj
  obtain ⟨hsum, hreal⟩ := Reversal.sum_after_two n (by omega) hbits
  exact ⟨isDyadic_of_real_eq hsum hreal hbits hplaces,
    hreal.trans (Reversal.after_two_real n j).2.symm⟩

theorem term_after_exact {j : ℕ} (hj : j < (Nat.digits 2 n).length) :
    IsDyadic ((Reversal.after (α := Float) 2 n j).term 2) ∧
      real ((Reversal.after (α := Float) 2 n j).term 2) =
        (Reversal.after (α := ℝ) 2 n j).term 2 := by
  obtain ⟨hplaces, -⟩ := reversedBits_lt_of_le hn (Nat.succ_le_of_lt hj)
  obtain ⟨hfinite, hreal⟩ := Reversal.term_after_two n (j := j) (by omega)
  have hexact : (Reversal.after (α := ℝ) 2 n j).term 2 =
      (n / 2 ^ j % 2 : ℕ) * 2 ^ (-((j + 1 : ℕ) : ℤ)) := by
    rw [Reversal.term_after, (Reversal.after_two_real n (j + 1)).1, ofNat_real, mul_comm]
  have hbit : n / 2 ^ j % 2 < 2 ^ 53 := (Nat.mod_lt _ two_pos).trans (by norm_num)
  exact ⟨isDyadic_of_real_eq hfinite hreal hbit hplaces, hreal.trans hexact.symm⟩

theorem real_radicalInverse_exact (two_le : 2 ≤ 2) :
    real (radicalInverse (α := Float) 2 two_le n) = radicalInverse (α := ℝ) 2 two_le n := by
  rw [Reversal.radicalInverse_eq_after, Reversal.radicalInverse_eq_after]
  exact (sum_after_exact hn le_rfl).2

/-- The height of a term has one bit behind the point less than the term. -/
theorem heightOf_radicalInverse_exact (two_le : 2 ≤ 2) (hne : n ≠ 0) {x : Float}
    (hx : radicalInverse 2 two_le n = x) :
    real (2.0 * x) = 2 * real x ∧ Scalar.isFinite (Cylindrical.heightOf x) = true ∧
      real (Cylindrical.heightOf x) = 2 * real x - 1 := by
  obtain ⟨hplaces, hbits⟩ := reversedBits_lt_of_le hn (le_refl (Nat.digits 2 n).length)
  obtain ⟨hfinite, hreal⟩ := Reversal.sum_after_two n (by omega) hbits
  rw [← Reversal.radicalInverse_eq_after two_le n, hx] at hfinite hreal
  have hpos : 0 < real x := by
    rw [← hx, real_radicalInverse_exact hn two_le]
    exact radicalInverse_pos two_le hne
  have hbits_pos : 0 < reversedBits n (Nat.digits 2 n).length := by
    refine Nat.pos_of_ne_zero fun hzero => hpos.ne' ?_
    rw [hreal, hzero, Nat.cast_zero, zero_mul]
  obtain ⟨k, hk⟩ : ∃ k, (Nat.digits 2 n).length = k + 1 :=
    Nat.exists_eq_succ_of_ne_zero
      (mt List.length_eq_zero_iff.mp (Nat.digits_ne_nil_iff_ne_zero.mpr hne))
  rw [hk] at hplaces hbits hreal hbits_pos
  have hpow : 2 ^ k ≤ 2 ^ 53 := Nat.pow_le_pow_right two_pos (by omega)
  exact Double.real_heightOf hfinite hreal hbits (by omega) (by omega)

end Exactness

/-- In base two the term at an index below `2 ^ 53` is not rounded.

It is the bits of the number behind the index, the other way around behind the point, and the height
that is made of it is not rounded either. Over doubles the loop goes through the numbers that it
goes through without rounding, each of them a whole number below `2 ^ 53` of a unit no smaller than
`2 ^ (-54)`. -/
theorem halton_two_exact {index : UInt64} (h : index.toNat < 2 ^ 53) :
    ∃ x : Float, haltonTerm index 2 = .ok x ∧ 0 < real x ∧ real x < 1 ∧
      real (2.0 * x) = 2 * real x ∧
      (∀ (u v : List Float) (pairs : Cylindrical Float) (i : ℕ),
        Cylindrical.ofUnit? u v = .ok pairs → u[i]? = some x →
          ∃ z, pairs.heights[i]? = some z ∧ Scalar.isFinite z = true ∧ real z = 2 * real x - 1) ∧
      let n := index.toNat + 1
      let digits := Nat.digits 2 n
      let rounded (j : ℕ) : Reversal Float := (Reversal.step 2)^[j] (Reversal.start n)
      let exact (j : ℕ) : Reversal ℝ := (Reversal.step 2)^[j] (Reversal.start n)
      real x = behindPoint 2 digits ∧ x = (rounded digits.length).sum ∧
      (∀ j ≤ digits.length,
        (IsDyadic (rounded j).place ∧ real (rounded j).place = (exact j).place) ∧
        IsDyadic (rounded j).sum ∧ real (rounded j).sum = (exact j).sum) ∧
      ∀ j < digits.length,
        IsDyadic ((rounded j).term 2) ∧ real ((rounded j).term 2) = (exact j).term 2 := by
  have hn : index.toNat + 1 ≤ 2 ^ 53 := h
  have two_le : 2 ≤ (2 : UInt32).toNat := by decide
  have hne : index.toNat + 1 ≠ 0 := Nat.succ_ne_zero _
  have hexact := real_radicalInverse_exact hn two_le
  obtain ⟨hdouble, hheight, hheight_real⟩ := heightOf_radicalInverse_exact hn two_le hne rfl
  refine ⟨_, haltonTerm_eq two_le index, ?_, ?_, hdouble, fun u v pairs i hpairs hu => ?_, ?_, ?_,
    fun j hj => ⟨place_after_exact hn hj, sum_after_exact hn hj⟩,
    fun j hj => term_after_exact hn hj⟩
  · exact hexact ▸ radicalInverse_pos two_le hne
  · exact hexact ▸ (radicalInverse_mem_Ico two_le _).2
  · exact ⟨_, Cylindrical.getElem?_heights hpairs hu, hheight, hheight_real⟩
  · exact hexact.trans (radicalInverse_eq_behindPoint two_le _)
  · exact Reversal.radicalInverse_eq_after two_le _

/-- The number behind the last of these indices has 54 digits, of which only the first is not
zero. -/
theorem halton_two_exact_last :
    (9007199254740991 : UInt64).toNat < 2 ^ 53 ∧
      ∃ x : Float, haltonTerm 9007199254740991 2 = .ok x ∧ real x = 1 / 2 ^ 54 ∧
        ∃ pairs, Cylindrical.ofUnit? [x] [x] = .ok pairs ∧
          ∃ z, pairs.heights[0]? = some z ∧ real z = 1 / 2 ^ 53 - 1 := by
  have hindex : (9007199254740991 : UInt64).toNat < 2 ^ 53 := by decide
  obtain ⟨x, hx, -, -, -, hheights, hreal, -⟩ := halton_two_exact hindex
  have hdigits : Nat.digits 2 ((9007199254740991 : UInt64).toNat + 1) =
      List.replicate 53 0 ++ [1] := by
    have hnumber : (9007199254740991 : UInt64).toNat + 1 = 2 ^ 53 * 1 := by decide
    rw [hnumber, Nat.digits_base_pow_mul one_lt_two one_pos,
      Nat.digits_of_lt 2 1 one_ne_zero one_lt_two]
  have hterm : real x = 1 / 2 ^ 54 := by
    rw [hreal, hdigits, behindPoint_zeros, behindPoint_cons, behindPoint_nil]
    norm_num
  obtain ⟨z, hz, -, hz_real⟩ := hheights [x] [x] _ 0 rfl rfl
  refine ⟨hindex, x, hx, hterm, _, rfl, z, hz, ?_⟩
  rw [hz_real, hterm]
  norm_num

end SphereCloud
