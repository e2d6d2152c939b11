import Mathlib.Algebra.BigOperators.Field
import Mathlib.Algebra.BigOperators.Fin
import Mathlib.Data.Nat.Digits.Lemmas
import SphereCloud.Proofs.Generator.Digits
import SphereCloud.Proofs.Generator.Places

/-!
The radical inverse as a loop that takes one digit of a number at each step, and as the sum that the
digits make behind the point.
-/

namespace SphereCloud

/-- Where the loop over the digits of a number stands. -/
structure Reversal (α : Type) where
  place : α
  sum : α
  /-- The number that the digits to come make. -/
  rest : ℕ

namespace Reversal

variable {α : Type} [Scalar α] {base : ℕ}

def start (n : ℕ) : Reversal α :=
  ⟨1.0, 0.0, n⟩

/-- Adds the last digit of the rest, one place further behind the point. -/
def step (base : ℕ) (r : Reversal α) : Reversal α where
  place := r.place / Scalar.ofNat base
  sum := r.sum + r.place / Scalar.ofNat base * Scalar.ofNat (r.rest % base)
  rest := r.rest / base

theorem rest_iterate (base : ℕ) (j : ℕ) (r : Reversal α) :
    ((step base)^[j] r).rest = r.rest / base ^ j := by
  induction j with
  | zero => rw [Function.iterate_zero_apply, pow_zero, Nat.div_one]
  | succ j ih =>
    rw [Function.iterate_succ_apply', step, ih, Nat.div_div_eq_div_mul, ← pow_succ]

theorem rest_iterate_le (base : ℕ) (j : ℕ) (r : Reversal α) :
    ((step base)^[j] r).rest ≤ r.rest := by
  rw [rest_iterate]
  exact Nat.div_le_self _ _

/-- The loop has come to its end as soon as it has done as many steps as there are digits. -/
theorem rest_iterate_eq_zero (two_le : 2 ≤ base) (j : ℕ) (r : Reversal α) :
    ((step base)^[j] r).rest = 0 ↔ (Nat.digits base r.rest).length ≤ j := by
  rw [rest_iterate, Nat.div_eq_zero_iff_lt (Nat.pow_pos (by omega)),
    Nat.digits_length_le_iff two_le]

theorem reverseDigits_eq_iterate (two_le : 2 ≤ base) (r : Reversal α) :
    reverseDigits base two_le r.place r.sum r.rest =
      ((step base)^[(Nat.digits base r.rest).length] r).sum := by
  obtain ⟨place, sum, rest⟩ := r
  induction rest using Nat.strong_induction_on generalizing place sum with
  | _ n ih =>
    rw [reverseDigits]
    split
    case isTrue hzero =>
      subst hzero
      rw [Nat.digits_zero]
      rfl
    case isFalse hne =>
      have hpos : 0 < n := Nat.pos_of_ne_zero hne
      rw [Nat.digits_def' two_le hpos, List.length_cons, Function.iterate_succ_apply]
      exact ih _ (Nat.div_lt_self hpos two_le) _ _

def term (base : ℕ) (r : Reversal α) : α :=
  r.place / Scalar.ofNat base * Scalar.ofNat (r.rest % base)

def after (base n j : ℕ) : Reversal α :=
  (step base)^[j] (start n)

theorem after_succ (base n j : ℕ) : after (α := α) base n (j + 1) = step base (after base n j) :=
  Function.iterate_succ_apply' _ _ _

theorem place_after_zero (base n : ℕ) : (after (α := α) base n 0).place = 1.0 := rfl

theorem sum_after_zero (base n : ℕ) : (after (α := α) base n 0).sum = 0.0 := rfl

theorem place_after_succ (base n j : ℕ) :
    (after (α := α) base n (j + 1)).place = (after base n j).place / Scalar.ofNat base := by
  rw [after_succ, step]

theorem sum_after_succ (base n j : ℕ) :
    (after (α := α) base n (j + 1)).sum = (after base n j).sum + (after base n j).term base := by
  rw [after_succ, step, term]

theorem rest_after (base n j : ℕ) : (after (α := α) base n j).rest = n / base ^ j :=
  rest_iterate base j _

theorem term_after (base n j : ℕ) :
    (after (α := α) base n j).term base =
      (after base n (j + 1)).place * Scalar.ofNat (n / base ^ j % base) := by
  rw [term, rest_after, place_after_succ]

theorem radicalInverse_eq_after (two_le : 2 ≤ base) (n : ℕ) :
    radicalInverse (α := α) base two_le n = (after base n (Nat.digits base n).length).sum :=
  reverseDigits_eq_iterate two_le (start n)

end Reversal

/-- The number that digits make when they stand behind the point in this order. -/
noncomputable def behindPoint (base : ℕ) (digits : List ℕ) : ℝ :=
  ∑ k : Fin digits.length, (digits[k] : ℝ) / (base : ℝ) ^ (k + 1 : ℕ)

theorem behindPoint_nil (base : ℕ) : behindPoint base [] = 0 :=
  Finset.sum_empty

theorem behindPoint_cons (base d : ℕ) (digits : List ℕ) :
    behindPoint base (d :: digits) = (d + behindPoint base digits) / base := by
  refine (Fin.sum_univ_succ _).trans ?_
  rw [add_div, behindPoint, Finset.sum_div]
  refine congrArg₂ (· + ·) (by simp) (Finset.sum_congr rfl fun k _ => ?_)
  rw [div_div, ← pow_succ]
  rfl

theorem behindPoint_zeros (base k : ℕ) (digits : List ℕ) :
    behindPoint base (List.replicate k 0 ++ digits) = behindPoint base digits / (base : ℝ) ^ k := by
  induction k with
  | zero => rw [List.replicate_zero, List.nil_append, pow_zero, div_one]
  | succ k ih =>
    rw [List.replicate_succ, List.cons_append, behindPoint_cons, ih, Nat.cast_zero, zero_add,
      div_div, pow_succ]

section Sum

variable {base : ℕ} (two_le : 2 ≤ base)

theorem radicalInverse_eq_behindPoint (n : ℕ) :
    radicalInverse (α := ℝ) base two_le n = behindPoint base (Nat.digits base n) := by
  induction n using Nat.strong_induction_on with
  | _ n ih =>
    by_cases hn : n = 0
    · rw [hn, radicalInverse_zero, Nat.digits_zero, behindPoint_nil]
    · have hpos : 0 < n := Nat.pos_of_ne_zero hn
      rw [radicalInverse_eq, ih _ (Nat.div_lt_self hpos two_le), Nat.digits_def' two_le hpos,
        behindPoint_cons]

theorem radicalInverse_pos {n : ℕ} (hn : n ≠ 0) : 0 < radicalInverse (α := ℝ) base two_le n := by
  induction n using Nat.strong_induction_on with
  | _ n ih =>
    have hbase : (0 : ℝ) < base := by positivity
    have hfront := (radicalInverse_mem_Ico two_le (n / base)).1
    rw [radicalInverse_eq]
    refine div_pos ?_ hbase
    by_cases hlast : n % base = 0
    · -- A number that ends in a zero has other digits in front of it.
      have hne : n / base ≠ 0 := fun h => hn (by rw [← Nat.div_add_mod n base, h, hlast, mul_zero])
      have hlt := ih _ (Nat.div_lt_self (Nat.pos_of_ne_zero hn) two_le) hne
      positivity
    · have hdigit : 0 < n % base := Nat.pos_of_ne_zero hlast
      positivity

end Sum

section Terms

variable {base : UInt32} (two_le : 2 ≤ base.toNat) {α : Type} [Scalar α]
include two_le

theorem haltonTerm_eq (index : UInt64) :
    haltonTerm (α := α) index base =
      .ok (radicalInverse base.toNat two_le (index.toNat + 1)) := by
  rw [haltonTerm, dif_pos two_le]

theorem haltonTerms_eq_terms {n : ℕ} (hn : fitsSamples n) :
    ∃ terms : List α, haltonTerms n base = .ok terms ∧ terms.length = n ∧
      ∀ i < n, ∃ x, terms[i]? = some x ∧ haltonTerm (UInt64.ofNat i) base = .ok x := by
  refine ⟨_, (haltonTerms_eq two_le n).trans (if_pos hn), by simp, fun i hi => ?_⟩
  have hword : i < 2 ^ 64 := by
    simp only [fitsSamples, fitsMemory, decide_eq_true_eq] at hn
    omega
  refine ⟨radicalInverse base.toNat two_le (i + 1), by simp [hi], ?_⟩
  rw [haltonTerm_eq two_le, UInt64.toNat_ofNat_of_lt' hword]

end Terms

/-- The terms of the sequence, for every index and every base.

In a base of two or more the loop ends after just as many steps as the number behind the index has
digits, and no number on the way needs more than 128 bits. Without rounding it gives the digits
behind the point, the last one first, which is between zero and one. In base zero every index is a
division by zero. A list of terms is refused in a base below two and in no other, and is made of the
terms at the indices from zero on, unless no memory can hold them. -/
theorem halton_expansion (base : UInt32) :
    (2 ≤ base.toNat → ∀ index : UInt64,
      let digits := Nat.digits base.toNat (index.toNat + 1)
      (∀ (α : Type) [Scalar α],
        let state (j : ℕ) : Reversal α :=
          (Reversal.step base.toNat)^[j] (Reversal.start (index.toNat + 1))
        (∀ j, ((state j).rest = 0 ↔ digits.length ≤ j) ∧ (state j).rest < 2 ^ 128) ∧
          haltonTerm index base = .ok (state digits.length).sum) ∧
      haltonTerm index base = .ok (behindPoint base.toNat digits) ∧
      0 < behindPoint base.toNat digits ∧ behindPoint base.toNat digits < 1) ∧
    (base = 0 → ∀ (α : Type) [Scalar α] (index : UInt64),
      haltonTerm (α := α) index base = .error .divisionByZero) ∧
    ∀ (α : Type) [Scalar α] (n : ℕ),
      (haltonTerms (α := α) n base = .error (.degenerateBase base) ↔ base.toNat < 2) ∧
      (2 ≤ base.toNat →
        if fitsSamples n then
          ∃ terms : List α, haltonTerms n base = .ok terms ∧ terms.length = n ∧
            ∀ i < n, ∃ x, terms[i]? = some x ∧ haltonTerm (UInt64.ofNat i) base = .ok x
        else haltonTerms (α := α) n base = .error (.tooMany n)) := by
  refine ⟨fun two_le index => ?_, ?_, fun α _ n => ⟨?_, fun two_le => ?_⟩⟩
  · intro digits
    have hinverse := radicalInverse_eq_behindPoint two_le (index.toNat + 1)
    refine ⟨fun α _ => ⟨fun j => ⟨?_, ?_⟩, ?_⟩, ?_, ?_, ?_⟩
    · exact Reversal.rest_iterate_eq_zero two_le j _
    · have hindex : index.toNat + 1 < 2 ^ 128 := by
        have := index.toNat_lt
        omega
      exact (Reversal.rest_iterate_le _ j (Reversal.start _)).trans_lt hindex
    · rw [haltonTerm_eq two_le]
      exact congrArg _ (Reversal.reverseDigits_eq_iterate two_le (Reversal.start (index.toNat + 1)))
    · rw [haltonTerm_eq two_le, hinverse]
    · rw [← hinverse]
      exact radicalInverse_pos two_le (Nat.succ_ne_zero _)
    · rw [← hinverse]
      exact (radicalInverse_mem_Ico two_le _).2
  · rintro rfl α _ index
    rfl
  · by_cases two_le : 2 ≤ base.toNat
    · refine iff_of_false (fun hrefused => ?_) (not_lt.mpr two_le)
      rw [haltonTerms_eq two_le] at hrefused
      split at hrefused
      · cases hrefused
      · cases hrefused
    · rw [haltonTerms, dif_neg two_le]
      exact iff_of_true rfl (not_le.mp two_le)
  · split
    case isTrue hfits => exact haltonTerms_eq_terms two_le hfits
    case isFalse hfits => rw [haltonTerms_eq two_le, if_neg hfits]

/-- At the greatest index the number has 65 digits in base two, of which only the first is not
zero. -/
theorem halton_expansion_greatest :
    let digits := Nat.digits 2 (2 ^ 64)
    digits.length = 65 ∧
      ((Reversal.step 2)^[65] (Reversal.start (α := Float) (2 ^ 64))).rest = 0 ∧
      ((Reversal.step 2)^[64] (Reversal.start (α := Float) (2 ^ 64))).rest ≠ 0 ∧
      haltonTerm 18446744073709551615 2 = .ok (behindPoint 2 digits) ∧
      0 < behindPoint 2 digits ∧ behindPoint 2 digits < 1 := by
  intro digits
  have two_le : 2 ≤ (2 : UInt32).toNat := by decide
  obtain ⟨hterms, -, -⟩ := halton_expansion 2
  obtain ⟨hloop, hterm, hpos, hlt⟩ := hterms two_le 18446744073709551615
  obtain ⟨hrest, -⟩ := hloop Float
  have hlength : digits.length = 65 := by
    rw [Nat.length_digits 2 _ one_lt_two (by norm_num), Nat.log_pow one_lt_two]
  have hmore : ¬digits.length ≤ 64 := by omega
  exact ⟨hlength, (hrest 65).1.mpr hlength.le, fun h => hmore ((hrest 64).1.mp h), hterm, hpos, hlt⟩

end SphereCloud
