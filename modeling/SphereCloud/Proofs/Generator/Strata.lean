import Mathlib.Algebra.Order.Floor.Div
import Mathlib.Data.Int.CardIntervalMod
import SphereCloud.Proofs.Generator.Expansion

/-!
Radical inverses are spread evenly: of the equal parts of the unit interval, as many as a power of
the base, each gets one value from as many indices in a row as there are parts.
-/

namespace SphereCloud

section Residues

variable {m : ℕ} (hm : 0 < m)
include hm

/-- Numbers whose successors leave one remainder leave one remainder. -/
theorem exists_modEq_iff_succ (c : ℕ) : ∃ r, ∀ i, i ≡ r [MOD m] ↔ i + 1 ≡ c [MOD m] := by
  obtain ⟨r, hr⟩ : ∃ r, c + m = r + 1 := Nat.exists_eq_add_one_of_ne_zero (by omega)
  have hc : r + 1 ≡ c [MOD m] := by
    rw [← hr]
    exact Nat.add_modEq_right
  exact ⟨r, fun i =>
    ⟨fun h => (h.add_right 1).trans hc, fun h => (h.trans hc.symm).add_right_cancel' 1⟩⟩

/-- Of `m` numbers in a row just one leaves a given remainder. -/
theorem existsUnique_modEq (start r : ℕ) :
    ∃! i, (start ≤ i ∧ i < start + m) ∧ i ≡ r [MOD m] := by
  -- The distance from `start` is what the remainder fixes, and it is below `m`.
  have hdistance : start + (r % m + (m - start % m)) % m ≡ r [MOD m] := by
    have hlt := Nat.mod_lt start hm
    have hsplit : start + (r % m + (m - start % m)) = r % m + m * (start / m + 1) := by
      have := Nat.div_add_mod start m
      rw [Nat.mul_add_one]
      omega
    have hsum := (Nat.mod_modEq (r % m + (m - start % m)) m).add_left start
    rw [hsplit] at hsum
    exact (hsum.trans (Nat.add_mul_mod_self_left _ _ _)).trans (Nat.mod_modEq r m)
  refine ⟨_, ⟨⟨Nat.le_add_right _ _, Nat.add_lt_add_left (Nat.mod_lt _ hm) _⟩, hdistance⟩, ?_⟩
  rintro i ⟨⟨hle, hlt⟩, hi⟩
  obtain ⟨d, rfl⟩ := Nat.exists_eq_add_of_le hle
  have hcongr := (hi.trans hdistance.symm).add_left_cancel' start
  rw [hcongr.eq_of_lt_of_lt (Nat.lt_of_add_lt_add_left hlt) (Nat.mod_lt _ hm)]

theorem countP_map_range {β : Type} {P : β → Prop} [DecidablePred P] {f : ℕ → β} {r : ℕ}
    (h : ∀ i, P (f i) ↔ i ≡ r [MOD m]) (n : ℕ) :
    ((List.range n).map f).countP (P ·) = n / m + if r % m < n % m then 1 else 0 := by
  rw [← Nat.count_modEq_card n hm r, List.countP_map, Nat.count]
  exact List.countP_congr fun i _ => by simp [h]

end Residues

theorem ceilDiv_eq_div_add_one {n m : ℕ} (hm : 0 < m) (h : 0 < n % m) : n ⌈/⌉ m = n / m + 1 := by
  have hlt : n % m - 1 < m := by
    have := Nat.mod_lt n hm
    omega
  have hsplit : n + m - 1 = n % m - 1 + m * (n / m + 1) := by
    have := Nat.div_add_mod n m
    rw [Nat.mul_add, Nat.mul_one]
    omega
  rw [Nat.ceilDiv_eq_add_pred_div, hsplit, Nat.add_mul_div_left _ _ hm, Nat.div_eq_of_lt hlt,
    Nat.zero_add]

def InStrip (m j : ℕ) (x : ℝ) : Prop :=
  j / (m : ℝ) ≤ x ∧ x < (j + 1) / (m : ℝ)

noncomputable instance (m j : ℕ) : DecidablePred (InStrip m j) :=
  Classical.decPred _

section Strips

variable {base : ℕ} (two_le : 2 ≤ base)

theorem inStrip_radicalInverse_iff (k j n : ℕ) :
    InStrip (base ^ k) j (radicalInverse base two_le n) ↔
      j ≤ radicalInverse base two_le n * (base : ℝ) ^ k ∧
        radicalInverse base two_le n * (base : ℝ) ^ k < j + 1 := by
  have hpower : (0 : ℝ) < (base ^ k : ℕ) := by positivity
  rw [InStrip, div_le_iff₀ hpower, lt_div_iff₀ hpower, Nat.cast_pow]

/-- The indices of the terms in a part are those that leave one remainder. -/
theorem exists_inStrip_iff (k : ℕ) {j : ℕ} (hj : j < base ^ k) :
    ∃ r, ∀ i, InStrip (base ^ k) j (radicalInverse base two_le (i + 1)) ↔ i ≡ r [MOD base ^ k] := by
  obtain ⟨c, hc⟩ := exists_residue two_le k hj
  obtain ⟨r, hr⟩ := exists_modEq_iff_succ (Nat.pow_pos (by omega : 0 < base)) c
  exact ⟨r, fun i => by rw [hr, ← hc, inStrip_radicalInverse_iff]⟩

/-- In parts narrow enough no two numbers share one. -/
theorem radicalInverse_injective :
    Function.Injective (radicalInverse (α := ℝ) base two_le) := by
  intro m n h
  have hm : m < base ^ max m n := (le_max_left m n).trans_lt (Nat.lt_pow_self two_le)
  have hn : n < base ^ max m n := (le_max_right m n).trans_lt (Nat.lt_pow_self two_le)
  obtain ⟨hpos, hlt⟩ := radicalInverse_mem_Ico two_le m
  have hpower : (0 : ℝ) < (base : ℝ) ^ max m n := by positivity
  have hnonneg := mul_nonneg hpos hpower.le
  have hstrip : ⌊radicalInverse base two_le m * (base : ℝ) ^ max m n⌋₊ < base ^ max m n := by
    rw [Nat.floor_lt hnonneg]
    push_cast
    exact (mul_lt_iff_lt_one_left hpower).mpr hlt
  obtain ⟨r, hr⟩ := exists_residue two_le (max m n) hstrip
  have hm' := (hr m).mp ⟨Nat.floor_le hnonneg, Nat.lt_floor_add_one _⟩
  have hn' := (hr n).mp (h ▸ ⟨Nat.floor_le hnonneg, Nat.lt_floor_add_one _⟩)
  exact (hm'.trans hn'.symm).eq_of_lt_of_lt hm hn

end Strips

/-- The terms at as many indices in a row as there are parts of one length, which may be up to the
greatest index, lie in the parts one each. So the parts differ by at most one in how many of the
first `n` terms they get, and no two indices have the same term. -/
theorem halton_strata {base : UInt32} (two_le : 2 ≤ base.toNat) (k : ℕ) :
    (∀ start, start + base.toNat ^ k ≤ 2 ^ 64 → ∀ j < base.toNat ^ k,
      ∃! index : UInt64, (start ≤ index.toNat ∧ index.toNat < start + base.toNat ^ k) ∧
        ∃ x : ℝ, haltonTerm index base = .ok x ∧ InStrip (base.toNat ^ k) j x) ∧
    (∀ n, ∃ terms : List ℝ,
      haltonTerms n base = (if fitsSamples n then .ok terms else .error (.tooMany n)) ∧
      terms.length = n ∧
      ∀ j < base.toNat ^ k,
        terms.countP (InStrip (base.toNat ^ k) j ·) = n / base.toNat ^ k ∨
          terms.countP (InStrip (base.toNat ^ k) j ·) = n ⌈/⌉ base.toNat ^ k) ∧
    ∀ i j : UInt64, haltonTerm (α := ℝ) i base = haltonTerm j base → i = j := by
  have hparts : 0 < base.toNat ^ k := Nat.pow_pos (by omega)
  refine ⟨fun start hstart j hj => ?_, fun n => ?_, fun i j h => ?_⟩
  · obtain ⟨r, hr⟩ := exists_inStrip_iff two_le k hj
    have hterm (index : UInt64) : (∃ x : ℝ, haltonTerm index base = .ok x ∧
        InStrip (base.toNat ^ k) j x) ↔ index.toNat ≡ r [MOD base.toNat ^ k] := by
      rw [← hr, haltonTerm_eq two_le]
      simp
    obtain ⟨i, ⟨⟨hle, hlt⟩, hi⟩, hunique⟩ := existsUnique_modEq hparts start r
    have hword : (UInt64.ofNat i).toNat = i := UInt64.toNat_ofNat_of_lt' (hlt.trans_le hstart)
    refine ⟨UInt64.ofNat i, ⟨by rw [hword]; exact ⟨hle, hlt⟩, by rwa [hterm, hword]⟩, ?_⟩
    rintro index ⟨hwindow, hindex⟩
    rw [hterm] at hindex
    rw [← hunique index.toNat ⟨hwindow, hindex⟩, UInt64.ofNat_toNat]
  · refine ⟨_, haltonTerms_eq two_le n, by simp, fun j hj => ?_⟩
    obtain ⟨r, hr⟩ := exists_inStrip_iff two_le k hj
    rw [countP_map_range hparts hr]
    split
    case isTrue h => exact Or.inr (ceilDiv_eq_div_add_one hparts (Nat.zero_lt_of_lt h)).symm
    case isFalse => exact Or.inl rfl
  · rw [haltonTerm_eq two_le, haltonTerm_eq two_le] at h
    have hinverse := radicalInverse_injective two_le (Except.ok.inj h)
    exact UInt64.toNat_inj.mp (by omega)

/-- The last nine indices in base three, where just one term lies in the fifth ninth. -/
theorem halton_strata_last :
    ∃! index : UInt64, (18446744073709551607 ≤ index.toNat ∧ index.toNat < 2 ^ 64) ∧
      ∃ x : ℝ, haltonTerm index 3 = .ok x ∧ InStrip 9 4 x := by
  have two_le : 2 ≤ (3 : UInt32).toNat := by decide
  obtain ⟨hwindow, -, -⟩ := halton_strata two_le 2
  have hstart : 18446744073709551607 + (3 : UInt32).toNat ^ 2 ≤ 2 ^ 64 := by decide
  have hpart : 4 < (3 : UInt32).toNat ^ 2 := by decide
  exact hwindow 18446744073709551607 hstart 4 hpart

end SphereCloud
