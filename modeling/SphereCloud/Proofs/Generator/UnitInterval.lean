import SphereCloud.Proofs.Generator.Halving
import SphereCloud.Proofs.Generator.RoundedInverse

/-!
Which radical inverses as doubles stay below one. The digits behind the point always do, but their
sum may be rounded to one once a double has no bits left for them.
-/

namespace SphereCloud

open BinaryScalar (format real)

namespace Reversal

/-- What rounding makes of the largest digits: 54 ones are as close to one as to the double in front
of it, 41 twos stay below one, and 23 fours in base five go past it. -/
theorem sum_largest_digits :
    Scalar.le 1.0 (after (α := Float) 2 (2 ^ 54 - 1) 54).sum = true ∧
      Scalar.lt (after (α := Float) 3 (3 ^ 41 - 1) 41).sum 1.0 = true ∧
      Scalar.lt 1.0 (after (α := Float) 5 (5 ^ 23 - 1) 23).sum = true := by
  decide +kernel

end Reversal

/-- In base three no radical inverse of 41 digits reaches one, and no word has more of them. -/
theorem real_radicalInverse_three_lt_one (two_le : 2 ≤ 3) {n : ℕ} (hn : n < 3 ^ 41) :
    real (radicalInverse (α := Float) 3 two_le n) < 1 := by
  obtain ⟨-, htwos, -⟩ := Reversal.sum_largest_digits
  have hfinite := Reversal.isFinite_sum_after (show 0 < 3 by decide) (j := 41) (by norm_num)
    (3 ^ 41 - 1)
  refine (real_radicalInverse_le two_le hn (by norm_num)).trans_lt ?_
  rw [Reversal.radicalInverse_eq_after, length_digits_pow_sub_one two_le, ← Double.real_one.2]
  exact (BinaryScalar.lt_iff_real hfinite Double.real_one.1).mp htwos

theorem one_lt_real_radicalInverse_five (two_le : 2 ≤ 5) :
    1 < real (radicalInverse (α := Float) 5 two_le (5 ^ 23 - 1)) := by
  obtain ⟨-, -, hfours⟩ := Reversal.sum_largest_digits
  have hfinite := Reversal.isFinite_sum_after (show 0 < 5 by decide) (j := 23) (by norm_num)
    (5 ^ 23 - 1)
  rw [Reversal.radicalInverse_eq_after, length_digits_pow_sub_one two_le, ← Double.real_one.2]
  exact (BinaryScalar.lt_iff_real Double.real_one.1 hfinite).mp hfours

section BaseTwo

variable {n : ℕ}

namespace Reversal

theorem one_le_sum_ones : 1 ≤ real (after (α := Float) 2 (2 ^ 54 - 1) 54).sum := by
  obtain ⟨hones, -⟩ := sum_largest_digits
  have hfinite := isFinite_sum_after two_pos (j := 54) (by norm_num) (2 ^ 54 - 1)
  rw [← Double.real_one.2]
  exact (BinaryScalar.le_iff_real Double.real_one.1 hfinite).mp hones

/-- A zero among the first 54 bits leaves the sum room. -/
theorem sum_after_fifty_four_le (hn : ¬ 2 ^ 54 ∣ n + 1) :
    real (after (α := Float) 2 n 54).sum ≤ 1 - 2 ^ (-(53 : ℤ)) := by
  obtain ⟨hsum, hsum_real⟩ := sum_after_two n (j := 53) (by norm_num) (reversedBits_lt n 53)
  have hterm := (term_after_two n (j := 53) (by norm_num)).1
  have hnext := isFinite_sum_after two_pos (j := 54) (by norm_num) n
  have hbits : reversedBits n 54 + 2 ≤ 2 ^ 54 := by
    have := reversedBits_lt n 54
    have := mt (reversedBits_add_one_eq n 54).mp hn
    omega
  have hbits' : (reversedBits n 54 + 2 : ℝ) ≤ 2 ^ 54 := by exact_mod_cast hbits
  rw [sum_after_succ] at hnext ⊢
  refine ((BinaryScalar.rounds_add hsum hterm).nearest hnext).value_le
    (Double.representable_one_sub le_rfl).onGrid ?_
  rw [real_sum_add_term n (by norm_num) hsum_real]
  norm_num
  linarith

/-- The later bits are too small to fill the room. -/
theorem sum_after_succ_le {j : ℕ} (hj : 54 ≤ j) (hj' : j < 1000)
    (h : real (after (α := Float) 2 n j).sum ≤ 1 - 2 ^ (-(53 : ℤ))) :
    real (after (α := Float) 2 n (j + 1)).sum ≤ 1 - 2 ^ (-(53 : ℤ)) := by
  have hsum := isFinite_sum_after two_pos (j := j) (by omega) n
  have hnext := isFinite_sum_after two_pos (j := j + 1) (by omega) n
  obtain ⟨hterm, hterm_real⟩ := term_after_two n hj'
  have hbit : ((n / 2 ^ j % 2 : ℕ) : ℝ) ≤ 1 := by
    exact_mod_cast Nat.le_of_lt_succ (Nat.mod_lt (n / 2 ^ j) two_pos)
  have hplace : (2 : ℝ) ^ (-((j + 1 : ℕ) : ℤ)) ≤ 2 ^ (-(55 : ℤ)) :=
    zpow_le_zpow_right₀ one_le_two (by omega)
  have hadded : real ((after (α := Float) 2 n j).term 2) ≤ 2 ^ (-(55 : ℤ)) := by
    rw [hterm_real]
    exact (mul_le_of_le_one_left (by positivity) hbit).trans hplace
  rw [sum_after_succ] at hnext ⊢
  refine ((BinaryScalar.rounds_add hsum hterm).nearest hnext).value_le_one_sub
    (Double.representable_one_sub le_rfl).onGrid ?_
  change _ < 1 - (2 : ℝ) ^ (-(53 : ℤ)) / 2
  norm_num at h hadded ⊢
  linarith

theorem sum_after_le_one_sub (hn : ¬ 2 ^ 54 ∣ n + 1) {j : ℕ} (hj : 54 ≤ j) (hj' : j ≤ 1000) :
    real (after (α := Float) 2 n j).sum ≤ 1 - 2 ^ (-(53 : ℤ)) := by
  induction j, hj using Nat.le_induction with
  | base => exact sum_after_fifty_four_le hn
  | succ j hj ih => exact sum_after_succ_le hj hj' (ih (by omega))

end Reversal

variable (two_le : 2 ≤ 2)

theorem real_radicalInverse_two_lt_one (hn : ¬ 2 ^ 54 ∣ n + 1)
    (hlength : (Nat.digits 2 n).length ≤ 1000) :
    real (radicalInverse (α := Float) 2 two_le n) < 1 := by
  rw [Reversal.radicalInverse_eq_after]
  rcases Nat.lt_or_ge (Nat.digits 2 n).length 54 with hlt | hge
  · obtain ⟨j, hj⟩ : ∃ j, (Nat.digits 2 n).length = j := ⟨_, rfl⟩
    have hbits := reversedBits_lt n j
    have hfit : reversedBits n j < 2 ^ 53 :=
      hbits.trans_le (Nat.pow_le_pow_right two_pos (by omega))
    rw [hj, (Reversal.sum_after_two n (by omega) hfit).2, zpow_neg, zpow_natCast, ← div_eq_mul_inv,
      div_lt_one (by positivity)]
    exact_mod_cast hbits
  · have hplace : (0 : ℝ) < 2 ^ (-(53 : ℤ)) := zpow_pos two_pos _
    linarith [Reversal.sum_after_le_one_sub hn hge hlength]

theorem one_le_real_radicalInverse_two (hn : 2 ^ 54 ∣ n + 1)
    (hlength : (Nat.digits 2 n).length ≤ 1000) :
    1 ≤ real (radicalInverse (α := Float) 2 two_le n) := by
  have hlong : 54 ≤ (Nat.digits 2 n).length := by
    have hle := Nat.le_of_dvd n.succ_pos hn
    by_contra hlt
    have hshort := (Nat.digits_length_le_iff one_lt_two n).mp (show _ ≤ 53 by omega)
    omega
  rw [Reversal.radicalInverse_eq_after]
  calc 1 ≤ real (Reversal.after (α := Float) 2 (2 ^ 54 - 1) 54).sum := Reversal.one_le_sum_ones
    _ ≤ real (Reversal.after (α := Float) 2 n 54).sum :=
        Reversal.real_sum_mono two_pos (by norm_num) fun i hi => by
          rw [digit_eq_of_dvd two_pos hn hi]
          exact Nat.le_of_lt_succ (Nat.mod_lt _ two_pos)
    _ ≤ real (Reversal.after (α := Float) 2 n (Nat.digits 2 n).length).sum :=
        Reversal.real_sum_le_real_sum two_pos hlong (by omega) n

/-- In base two the sum reaches one if and only if the first 54 bits are ones, and goes no
further. -/
theorem real_radicalInverse_two (hlength : (Nat.digits 2 n).length ≤ 1000) :
    real (radicalInverse (α := Float) 2 two_le n) ≤ 1 ∧
      (real (radicalInverse (α := Float) 2 two_le n) < 1 ↔ ¬ 2 ^ 54 ∣ n + 1) := by
  refine ⟨?_, fun hlt hn => ?_, fun hn => real_radicalInverse_two_lt_one two_le hn hlength⟩
  · have hword : n < 2 ^ (Nat.digits 2 n).length := Nat.lt_base_pow_length_digits one_lt_two
    exact (Double.within_reverseDigits_two two_le hword (by omega) Double.partial_start).le
  · exact hlt.not_ge (one_le_real_radicalInverse_two two_le hn hlength)

end BaseTwo

/-- A word has few digits in any base. -/
theorem length_digits_le {base n : ℕ} (two_le : 2 ≤ base) (hword : n ≤ 2 ^ 64) :
    (Nat.digits base n).length ≤ 65 := by
  rw [Nat.digits_length_le_iff two_le]
  calc n < 2 ^ 65 := by omega
    _ ≤ base ^ 65 := Nat.pow_le_pow_left two_le 65

/-- The terms of the sequence as doubles, for every index and every base.

A term is a positive number. In base two it is at most one, and it is one just at the indices two
below a multiple of `2 ^ 54`. In base three it is below one. In any base it differs from the digits
behind the point by at most as many parts `2 ^ (-53)` of them as there are digits, and three more;
it is below one if the digits are few, and never above the double that as many of the largest digits
give. -/
theorem halton_rounded {base : UInt32} (two_le : 2 ≤ base.toNat) (index : UInt64) :
    ∃ x : Float, haltonTerm index base = .ok x ∧ Scalar.isFinite x = true ∧ 0 < real x ∧
      (base = 2 → real x ≤ 1 ∧ (real x < 1 ↔ ¬ 2 ^ 54 ∣ index.toNat + 2)) ∧
      (base = 3 → real x < 1) ∧
      let digits := Nat.digits base.toNat (index.toNat + 1)
      |real x - behindPoint base.toNat digits| ≤
        (digits.length + 3) * 2 ^ (-(53 : ℤ)) * behindPoint base.toNat digits ∧
      ((digits.length + 3) * base.toNat ^ digits.length ≤ 2 ^ 53 → real x < 1) ∧
      real x ≤
        real (radicalInverse (α := Float) base.toNat two_le (base.toNat ^ digits.length - 1)) := by
  have hword : index.toNat + 1 ≤ 2 ^ 64 := index.toNat_lt
  have hbase : base.toNat < 2 ^ 32 := base.toNat_lt
  have hne : index.toNat + 1 ≠ 0 := Nat.succ_ne_zero _
  obtain ⟨hfinite, hpos, hclose⟩ := radicalInverse_close two_le hbase hne hword
  have hlength := length_digits_le two_le hword
  refine ⟨_, haltonTerm_eq two_le index, hfinite, hpos, ?_, ?_, hclose,
    radicalInverse_lt_one two_le hbase hne hword, ?_⟩
  · rintro rfl
    exact real_radicalInverse_two two_le (hlength.trans (by norm_num))
  · rintro rfl
    exact real_radicalInverse_three_lt_one two_le (hword.trans_lt (by norm_num))
  · exact real_radicalInverse_le two_le (Nat.lt_base_pow_length_digits two_le)
      (drifts_radicalInverse two_le hbase hne hword).2.1

/-- A term of five digits. -/
theorem halton_rounded_decimal :
    2 ≤ (10 : UInt32).toNat ∧
      ∃ x : Float, haltonTerm 12345 10 = .ok x ∧ real x < 1 ∧
        |real x - 64321 / 100000| ≤ 8 * 2 ^ (-(53 : ℤ)) * (64321 / 100000) := by
  have two_le : 2 ≤ (10 : UInt32).toNat := by decide
  obtain ⟨x, hx, -, -, -, -, hclose, hfew, -⟩ := halton_rounded two_le 12345
  have hdigits : Nat.digits (10 : UInt32).toNat ((12345 : UInt64).toNat + 1) = [6, 4, 3, 2, 1] := by
    decide
  have hexact : behindPoint (10 : UInt32).toNat [6, 4, 3, 2, 1] = 64321 / 100000 := by
    have hten : (10 : UInt32).toNat = 10 := rfl
    simp only [hten, behindPoint_cons, behindPoint_nil]
    norm_num
  rw [hdigits, hexact] at hclose
  rw [hdigits] at hfew
  refine ⟨two_le, x, hx, hfew (by decide), ?_⟩
  norm_num at hclose ⊢
  exact hclose

/-- In base two a term can be one, and in base five it can be above one. -/
theorem halton_reaches_one :
    (∃ x : Float, haltonTerm 18014398509481982 2 = .ok x ∧ real x = 1) ∧
      ∃ x : Float, haltonTerm 11920928955078123 5 = .ok x ∧ 1 < real x := by
  constructor
  · have two_le : 2 ≤ (2 : UInt32).toNat := by decide
    have hones : (18014398509481982 : UInt64).toNat + 1 = 2 ^ 54 - 1 := by decide
    have hlength : (Nat.digits 2 (2 ^ 54 - 1)).length ≤ 1000 := by
      rw [length_digits_pow_sub_one le_rfl]
      norm_num
    refine ⟨_, haltonTerm_eq two_le _, ?_⟩
    rw [hones]
    exact le_antisymm (real_radicalInverse_two two_le hlength).1
      (one_le_real_radicalInverse_two two_le (by norm_num) hlength)
  · have two_le : 2 ≤ (5 : UInt32).toNat := by decide
    have hfours : (11920928955078123 : UInt64).toNat + 1 = 5 ^ 23 - 1 := by decide
    refine ⟨_, haltonTerm_eq two_le _, ?_⟩
    rw [hfours]
    exact one_lt_real_radicalInverse_five two_le

end SphereCloud
