import SphereCloud.Proofs.Binary.Monotone
import SphereCloud.Proofs.Generator.Expansion
import SphereCloud.Proofs.Generator.RoundedRange

/-!
Radical inverses as doubles grow with the digits, for rounding keeps the order at each step of the
loop. Of the numbers with so many digits, the one with the largest digits gives the greatest double.
-/

namespace SphereCloud

open BinaryScalar (Within real)

variable {base : ℕ}

/-- In front of a multiple of a power of the base the last digits are the largest ones. -/
theorem digit_eq_of_dvd (hbase : 0 < base) {n j k : ℕ} (h : base ^ k ∣ n + 1) (hj : j < k) :
    n / base ^ j % base = base - 1 := by
  have hdvd : base ^ j * base ∣ n + 1 := by
    rw [← pow_succ]
    exact (pow_dvd_pow base hj).trans h
  obtain ⟨q, hq⟩ := hdvd
  rw [mul_assoc] at hq
  have hdiv := div_add_one_eq (Nat.pow_pos hbase) hq
  obtain ⟨r, rfl⟩ : ∃ r, q = r + 1 := Nat.exists_eq_succ_of_ne_zero fun h => by simp [h] at hdiv
  have hlast : n / base ^ j = base * r + (base - 1) := by
    rw [Nat.mul_succ] at hdiv
    omega
  rw [hlast, Nat.mul_add_mod, Nat.mod_eq_of_lt (by omega)]

theorem length_digits_pow_sub_one (two_le : 2 ≤ base) (k : ℕ) :
    (Nat.digits base (base ^ k - 1)).length = k := by
  have hpos : 0 < base ^ k := Nat.pow_pos (by omega)
  refine le_antisymm ((Nat.digits_length_le_iff two_le _).mpr (by omega)) ?_
  have hlt := (Nat.digits_length_le_iff two_le (base ^ k - 1)).mp le_rfl
  exact (Nat.pow_le_pow_iff_right two_le).mp (by omega)

namespace Reversal

/-- Places do not depend on the digits. -/
theorem place_after_eq {α : Type} [Scalar α] (base m n j : ℕ) :
    (after (α := α) base m j).place = (after base n j).place := by
  induction j with
  | zero => rfl
  | succ j ih => rw [place_after_succ, place_after_succ, ih]

section Doubles

variable (hbase : 0 < base)
include hbase

theorem within_after {j : ℕ} (hj : base * j < 2 ^ 53) (n : ℕ) :
    Within 0 1 (after (α := Float) base n j).place ∧
      Within 0 (base * j : ℕ) (after (α := Float) base n j).sum := by
  induction j with
  | zero =>
    obtain ⟨hone, hone_real⟩ := Double.real_one
    obtain ⟨hzero, hzero_real⟩ := Double.real_zero
    rw [place_after_zero, sum_after_zero, Nat.mul_zero, Nat.cast_zero]
    exact ⟨⟨hone, zero_le_one.trans hone_real.ge, hone_real.le⟩,
      hzero, hzero_real.ge, hzero_real.le⟩
  | succ j ih =>
    rw [Nat.mul_succ] at hj
    obtain ⟨hplace, hsum⟩ := ih (by omega)
    rw [Nat.mul_succ, sum_after_succ, place_after_succ, term, rest_after]
    exact Double.within_digit hbase (Nat.mod_lt _ hbase) hj hplace hsum

theorem isFinite_sum_after {j : ℕ} (hj : base * j < 2 ^ 53) (n : ℕ) :
    Scalar.isFinite (after (α := Float) base n j).sum = true :=
  (within_after hbase hj n).2.isFinite

theorem within_term_after {j : ℕ} (hj : base * (j + 1) < 2 ^ 53) (n : ℕ) :
    Within 0 (n / base ^ j % base : ℕ) ((after (α := Float) base n j).term base) := by
  rw [Nat.mul_succ] at hj
  obtain ⟨hplace, -⟩ := within_after hbase (j := j) (by omega) n
  rw [term, rest_after]
  exact (Double.within_term hbase (Nat.mod_lt _ hbase) (by omega) hplace).2

theorem real_sum_le_real_sum {i j : ℕ} (hij : i ≤ j) (hj : base * j < 2 ^ 53) (n : ℕ) :
    real (after (α := Float) base n i).sum ≤ real (after (α := Float) base n j).sum := by
  induction j, hij using Nat.le_induction with
  | base => exact le_rfl
  | succ j _ ih =>
    have hprefix : base * j < 2 ^ 53 := (Nat.mul_le_mul_left base j.le_succ).trans_lt hj
    have hnext := isFinite_sum_after hbase hj n
    have hterm := within_term_after hbase hj n
    rw [sum_after_succ] at hnext ⊢
    exact (ih hprefix).trans
      (BinaryScalar.real_le_real_add (isFinite_sum_after hbase hprefix n) hterm.isFinite hnext
        hterm.ge)

/-- A larger digit adds more at the same place. -/
theorem real_term_mono {m n j : ℕ} (hj : base * (j + 1) < 2 ^ 53)
    (h : m / base ^ j % base ≤ n / base ^ j % base) :
    real ((after (α := Float) base m j).term base) ≤
      real ((after (α := Float) base n j).term base) := by
  have hlt (n : ℕ) : n / base ^ j % base < 2 ^ 53 :=
    ((Nat.mod_lt _ hbase).trans_le (Nat.le_mul_of_pos_right base j.succ_pos)).trans hj
  obtain ⟨hplace, -⟩ := within_after hbase hj n
  obtain ⟨hdigit, hdigit_real⟩ := Double.real_ofNat (hlt m)
  obtain ⟨hdigit', hdigit_real'⟩ := Double.real_ofNat (hlt n)
  have hterm := (within_term_after hbase hj m).isFinite
  have hterm' := (within_term_after hbase hj n).isFinite
  rw [term_after, place_after_eq base m n] at hterm ⊢
  rw [term_after] at hterm' ⊢
  refine BinaryScalar.real_mul_le_mul_left hplace.isFinite hdigit hdigit' hterm hterm' hplace.ge ?_
  rw [hdigit_real, hdigit_real']
  exact_mod_cast h

/-- Larger digits give a larger double. -/
theorem real_sum_mono {m n j : ℕ} (hj : base * j < 2 ^ 53)
    (h : ∀ i < j, m / base ^ i % base ≤ n / base ^ i % base) :
    real (after (α := Float) base m j).sum ≤ real (after (α := Float) base n j).sum := by
  induction j with
  | zero => rfl
  | succ j ih =>
    have hprefix : base * j < 2 ^ 53 := (Nat.mul_le_mul_left base j.le_succ).trans_lt hj
    have hterm := (within_term_after hbase hj m).isFinite
    have hterm' := (within_term_after hbase hj n).isFinite
    have hnext := isFinite_sum_after hbase hj m
    have hnext' := isFinite_sum_after hbase hj n
    rw [sum_after_succ] at hnext hnext' ⊢
    rw [sum_after_succ]
    exact BinaryScalar.real_add_le_add (isFinite_sum_after hbase hprefix m) hterm
      (isFinite_sum_after hbase hprefix n) hterm' hnext hnext'
      (ih hprefix fun i hi => h i (hi.trans j.lt_succ_self))
      (real_term_mono hbase hj (h j j.lt_succ_self))

end Doubles

end Reversal

/-- A radical inverse is at most the one of the largest digits. -/
theorem real_radicalInverse_le (two_le : 2 ≤ base) {n k : ℕ} (hn : n < base ^ k)
    (hk : base * k < 2 ^ 53) :
    real (radicalInverse (α := Float) base two_le n) ≤
      real (radicalInverse (α := Float) base two_le (base ^ k - 1)) := by
  have hbase : 0 < base := by omega
  have hpos : 0 < base ^ k := Nat.pow_pos hbase
  have hlength : (Nat.digits base n).length ≤ k := (Nat.digits_length_le_iff two_le n).mpr hn
  rw [Reversal.radicalInverse_eq_after, Reversal.radicalInverse_eq_after,
    length_digits_pow_sub_one two_le]
  refine (Reversal.real_sum_le_real_sum hbase hlength hk n).trans
    (Reversal.real_sum_mono hbase hk fun i hi => ?_)
  have hdvd : base ^ k ∣ base ^ k - 1 + 1 := (Nat.sub_add_cancel hpos).symm.dvd
  rw [digit_eq_of_dvd hbase hdvd hi]
  exact Nat.le_sub_one_of_lt (Nat.mod_lt _ hbase)

end SphereCloud
