import Mathlib.Data.Nat.ModEq
import Mathlib.Tactic.FieldSimp
import Mathlib.Tactic.Linarith
import SphereCloud.Generator.Sequences
import SphereCloud.Proofs.Exact.Reals

/-!
A radical inverse read without rounding: its first digits behind the point are the last digits of
the number, the other way around.
-/

namespace SphereCloud

variable {base : ℕ} (two_le : 2 ≤ base)

theorem reverseDigits_zero (place acc : ℝ) : reverseDigits base two_le place acc 0 = acc := by
  rw [reverseDigits, dif_pos rfl]

theorem reverseDigits_of_ne_zero (place acc : ℝ) {n : ℕ} (hn : n ≠ 0) :
    reverseDigits base two_le place acc n =
      reverseDigits base two_le (place / base) (acc + place / base * (n % base : ℕ))
        (n / base) := by
  rw [reverseDigits, dif_neg hn]
  simp only [ofNat_real]

/-- What is there already is added to what the digits give. -/
theorem reverseDigits_eq (place acc : ℝ) (n : ℕ) :
    reverseDigits base two_le place acc n = acc + place * reverseDigits base two_le 1 0 n := by
  induction n using Nat.strong_induction_on generalizing place acc with
  | _ n ih =>
    by_cases hn : n = 0
    · rw [hn, reverseDigits_zero, reverseDigits_zero, mul_zero, add_zero]
    · have hlt : n / base < n := Nat.div_lt_self (Nat.pos_of_ne_zero hn) two_le
      rw [reverseDigits_of_ne_zero two_le place acc hn, reverseDigits_of_ne_zero two_le 1 0 hn,
        ih _ hlt, ih _ hlt (1 / (base : ℝ))]
      ring

theorem radicalInverse_eq_reverseDigits (n : ℕ) :
    radicalInverse (α := ℝ) base two_le n = reverseDigits base two_le 1 0 n := by
  have hone : (OfScientific.ofScientific 10 true 1 : ℝ) = 1 := by norm_num
  have hzero : (OfScientific.ofScientific 0 true 1 : ℝ) = 0 := by norm_num
  rw [← hone, ← hzero]
  rfl

theorem radicalInverse_zero : radicalInverse (α := ℝ) base two_le 0 = 0 := by
  rw [radicalInverse_eq_reverseDigits, reverseDigits_zero]

/-- The last digit comes first behind the point. -/
theorem radicalInverse_eq (n : ℕ) :
    radicalInverse (α := ℝ) base two_le n =
      ((n % base : ℕ) + radicalInverse base two_le (n / base)) / base := by
  by_cases hn : n = 0
  · rw [hn, Nat.zero_mod, Nat.zero_div, radicalInverse_zero]
    norm_num
  · rw [radicalInverse_eq_reverseDigits, radicalInverse_eq_reverseDigits,
      reverseDigits_of_ne_zero two_le 1 0 hn, reverseDigits_eq]
    ring

theorem radicalInverse_mem_Ico (n : ℕ) :
    0 ≤ radicalInverse (α := ℝ) base two_le n ∧ radicalInverse (α := ℝ) base two_le n < 1 := by
  induction n using Nat.strong_induction_on with
  | _ n ih =>
    by_cases hn : n = 0
    · rw [hn, radicalInverse_zero]
      norm_num
    · obtain ⟨hpos, hlt⟩ := ih _ (Nat.div_lt_self (Nat.pos_of_ne_zero hn) two_le)
      have hbase : (0 : ℝ) < base := by positivity
      have hdigit : ((n % base : ℕ) : ℝ) + 1 ≤ base := by
        exact_mod_cast Nat.mod_lt n (by omega)
      rw [radicalInverse_eq]
      constructor
      · positivity
      · rw [div_lt_one hbase]
        linarith

/-- A quotient just in front of a whole one. -/
theorem div_add_one_eq {n d q : ℕ} (hd : 0 < d) (h : n + 1 = d * q) : n / d + 1 = q := by
  rw [← Nat.succ_div_of_dvd ⟨q, h⟩, h, Nat.mul_div_cancel_left q hd]

/-- Numbers have the same last digits if the last one is the same and those in front of it are. -/
theorem modEq_pow_succ_iff (hbase : 0 < base) {m n k : ℕ} :
    m ≡ n [MOD base ^ (k + 1)] ↔ m % base = n % base ∧ m / base ≡ n / base [MOD base ^ k] := by
  rw [Nat.ModEq, pow_succ', Nat.mod_mul, Nat.mod_mul, Nat.ModEq]
  constructor
  · intro h
    have hlast : m % base = n % base := by
      have hmod := congrArg (· % base) h
      simpa using hmod
    rw [hlast] at h
    exact ⟨hlast, Nat.eq_of_mul_eq_mul_left hbase (Nat.add_left_cancel h)⟩
  · rintro ⟨hlast, hfront⟩
    rw [hlast, hfront]

/-- A whole number of units and a part of one lie in a strip as their leading unit and the part
do. -/
theorem mem_strip_iff {d q i : ℕ} {unit x : ℝ} (hi : (i : ℝ) + 1 ≤ unit) (hpos : 0 ≤ x)
    (hlt : x < unit) :
    (q * unit + i ≤ d * unit + x ∧ d * unit + x < q * unit + i + 1) ↔
      d = q ∧ (i ≤ x ∧ x < i + 1) := by
  have hnonneg : (0 : ℝ) ≤ i := by positivity
  constructor
  · rintro ⟨hlo, hhi⟩
    have heq : d = q := by
      rcases lt_trichotomy d q with h | h | h
      · have hle : (d : ℝ) + 1 ≤ q := by exact_mod_cast h
        nlinarith
      · exact h
      · have hle : (q : ℝ) + 1 ≤ d := by exact_mod_cast h
        nlinarith
    subst heq
    exact ⟨rfl, by linarith, by linarith⟩
  · rintro ⟨rfl, hlo, hhi⟩
    exact ⟨by linarith, by linarith⟩

/-- A radical inverse lies in one of `base ^ k` equal parts of the unit interval if and only if the
number leaves a certain remainder by `base ^ k`. -/
theorem exists_residue (k : ℕ) {i : ℕ} (hi : i < base ^ k) :
    ∃ r : ℕ, ∀ n : ℕ,
      (i ≤ radicalInverse base two_le n * (base : ℝ) ^ k ∧
        radicalInverse base two_le n * (base : ℝ) ^ k < i + 1) ↔ n ≡ r [MOD base ^ k] := by
  have hbase : 0 < base := by omega
  induction k generalizing i with
  | zero =>
    obtain rfl : i = 0 := by simpa using hi
    refine ⟨0, fun n => ?_⟩
    obtain ⟨hpos, hlt⟩ := radicalInverse_mem_Ico two_le n
    simp [hpos, hlt, Nat.modEq_one]
  | succ k ih =>
    -- The leading digit of `i` fixes the last one of `n`, and its other digits those in front of
    -- it.
    have hunit : 0 < base ^ k := Nat.pow_pos hbase
    obtain ⟨r, hr⟩ := ih (Nat.mod_lt i hunit)
    have hq : i / base ^ k < base := Nat.div_lt_of_lt_mul (pow_succ base k ▸ hi)
    have hlast : (i / base ^ k + base * r) % base = i / base ^ k := by
      rw [Nat.add_mul_mod_self_left, Nat.mod_eq_of_lt hq]
    have hfront : (i / base ^ k + base * r) / base = r := by
      rw [Nat.add_mul_div_left _ _ hbase, Nat.div_eq_of_lt hq, Nat.zero_add]
    refine ⟨i / base ^ k + base * r, fun n => ?_⟩
    rw [modEq_pow_succ_iff hbase, hlast, hfront, ← hr]
    obtain ⟨hpos, hlt⟩ := radicalInverse_mem_Ico two_le (n / base)
    have hpower : (0 : ℝ) < (base : ℝ) ^ k := by positivity
    have hsplit : radicalInverse base two_le n * (base : ℝ) ^ (k + 1) =
        (n % base : ℕ) * (base : ℝ) ^ k +
          radicalInverse base two_le (n / base) * (base : ℝ) ^ k := by
      rw [radicalInverse_eq]
      field_simp
      ring
    have hi' : (i : ℝ) = (i / base ^ k : ℕ) * (base : ℝ) ^ k + (i % base ^ k : ℕ) := by
      exact_mod_cast (Nat.div_add_mod' i (base ^ k)).symm
    rw [hsplit, hi']
    refine mem_strip_iff ?_ (by positivity) (by nlinarith)
    exact_mod_cast Nat.mod_lt i hunit

end SphereCloud
