import Mathlib.Data.Nat.ChineseRemainder
import SphereCloud.Proofs.Generator.Strata

/-!
The points of the radical inverses are spread evenly: a grid of `2 ^ a` by `3 ^ b` parts of one area
gets one point in each part from as many points in a row as there are parts.
-/

namespace SphereCloud

/-- Whether a pair is in a part of the grid: the part in row `i` of `2 ^ a` equal heights and in
column `j` of `3 ^ b` equal angles. -/
def InPart (a b i j : ℕ) (pair : ℝ × ℝ) : Prop :=
  (i / (2 ^ a : ℕ) ≤ (unitSquare pair).1 ∧ (unitSquare pair).1 < (i + 1) / (2 ^ a : ℕ)) ∧
    (j / (3 ^ b : ℕ) ≤ (unitSquare pair).2 ∧ (unitSquare pair).2 < (j + 1) / (3 ^ b : ℕ))

noncomputable instance (a b i j : ℕ) : DecidablePred (InPart a b i j) :=
  Classical.decPred _

theorem unitSquare_haltonPair (k : ℕ) :
    unitSquare (haltonPair k) =
      (radicalInverse 2 (by decide) (k + 1), radicalInverse 3 (by decide) (k + 1)) := by
  have hheight (u : ℝ) : (Cylindrical.heightOf u + 1) / 2 = u := by
    rw [Cylindrical.heightOf]
    norm_num
  have hangle (v : ℝ) : Cylindrical.angleOf v / (2 * Real.pi) = v := by
    rw [Cylindrical.angleOf, tau_real, mul_div_cancel_left₀ v Real.two_pi_pos.ne']
  rw [unitSquare, haltonPair, hheight, hangle]

/-- The numbers of the pairs in a part are those that leave one remainder. -/
theorem exists_inPart_iff {a b i j : ℕ} (hi : i < 2 ^ a) (hj : j < 3 ^ b) :
    ∃ r : ℕ, ∀ k : ℕ, InPart a b i j (haltonPair k) ↔ k ≡ r [MOD 2 ^ a * 3 ^ b] := by
  obtain ⟨r, hr⟩ := exists_inStrip_iff (show 2 ≤ 2 by decide) a hi
  obtain ⟨s, hs⟩ := exists_inStrip_iff (show 2 ≤ 3 by decide) b hj
  have hcoprime : Nat.Coprime (2 ^ a) (3 ^ b) := Nat.Coprime.pow a b (by decide)
  obtain ⟨c, hcr, hcs⟩ := Nat.chineseRemainder hcoprime r s
  refine ⟨c, fun k => ?_⟩
  have hpart : InPart a b i j (haltonPair k) ↔
      InStrip (2 ^ a) i (radicalInverse 2 (by decide) (k + 1)) ∧
        InStrip (3 ^ b) j (radicalInverse 3 (by decide) (k + 1)) := by
    rw [InPart, unitSquare_haltonPair]
    rfl
  rw [hpart, hr, hs, ← Nat.modEq_and_modEq_iff_modEq_mul hcoprime]
  exact and_congr ⟨(·.trans hcr.symm), (·.trans hcr)⟩ ⟨(·.trans hcs.symm), (·.trans hcs)⟩

/-- How many of the first pairs are in a part. -/
theorem exists_countP_inPart {a b i j : ℕ} (hi : i < 2 ^ a) (hj : j < 3 ^ b) :
    ∃ r : ℕ, ∀ n : ℕ, ((List.range n).map haltonPair).countP (InPart a b i j ·) =
      n / (2 ^ a * 3 ^ b) + if r % (2 ^ a * 3 ^ b) < n % (2 ^ a * 3 ^ b) then 1 else 0 := by
  obtain ⟨r, hr⟩ := exists_inPart_iff hi hj
  exact ⟨r, countP_map_range (by positivity) hr⟩

/-- The pairs of the radical inverses, as many as there are parts of the grid and from any place on,
have one in each part. The parts differ by at most one in how many of the first `n` pairs they
get. -/
theorem halton_stratified (s : Streams) (n : ℕ) :
    ∃ pairs : Cylindrical ℝ,
      (s.draw .halton n).1 = (if fitsSamples n then .ok pairs else .error (.tooMany n)) ∧
      pairs.length = n ∧
      ∀ a b i j : ℕ, i < 2 ^ a → j < 3 ^ b →
        (∀ start, start + 2 ^ a * 3 ^ b ≤ n →
          ((pairs.toList.drop start).take (2 ^ a * 3 ^ b)).countP (InPart a b i j ·) = 1) ∧
        (pairs.toList.countP (InPart a b i j ·) = n / (2 ^ a * 3 ^ b) ∨
          pairs.toList.countP (InPart a b i j ·) = n ⌈/⌉ (2 ^ a * 3 ^ b)) := by
  refine ⟨.ofPairs ((List.range n).map haltonPair), Streams.haltonPairs_eq n, by simp, ?_⟩
  intro a b i j hi hj
  rw [Cylindrical.toList_ofPairs]
  obtain ⟨r, hcount⟩ := exists_countP_inPart hi hj
  have hparts : 0 < 2 ^ a * 3 ^ b := by positivity
  generalize 2 ^ a * 3 ^ b = parts at hcount hparts ⊢
  constructor
  · intro start hstart
    -- A window holds what the pairs up to its end hold, less what those before it do.
    have hsplit := congrArg (List.countP (InPart a b i j ·))
      (List.take_add (l := (List.range n).map haltonPair) (i := start) (j := parts))
    rw [List.countP_append, take_map_range _ hstart, take_map_range _ (by omega), hcount, hcount,
      Nat.add_div_right _ hparts, Nat.add_mod_right] at hsplit
    omega
  · rw [hcount]
    split
    case isTrue h => exact Or.inr (ceilDiv_eq_div_add_one hparts (by omega)).symm
    case isFalse => exact Or.inl rfl

/-- Of the last six of seven pairs just one is in the upper half and the last third. -/
theorem halton_stratified_six :
    ∃ pairs : Cylindrical ℝ,
      ((Streams.ofSeeds 123 (some 5) (Key.ofSeed 0)).draw .halton 7).1 = .ok pairs ∧
      ((pairs.toList.drop 1).take 6).countP (InPart 1 1 1 2 ·) = 1 := by
  obtain ⟨pairs, hdraw, -, hparts⟩ :=
    halton_stratified (Streams.ofSeeds 123 (some 5) (Key.ofSeed 0)) 7
  have hfits : fitsSamples 7 := by decide
  have hi : 1 < 2 ^ 1 := by decide
  have hj : 2 < 3 ^ 1 := by decide
  have hstart : 1 + 2 ^ 1 * 3 ^ 1 ≤ 7 := by decide
  refine ⟨pairs, ?_, (hparts 1 1 1 2 hi hj).1 1 hstart⟩
  rw [hdraw, if_pos hfits]

end SphereCloud
