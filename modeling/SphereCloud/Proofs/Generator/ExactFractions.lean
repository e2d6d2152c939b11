import SphereCloud.Proofs.Generator.Halving

/-!
The fractions of the hash chain as doubles. Neither they nor the heights made of them are rounded,
so that the words they came from can be read off them.
-/

namespace SphereCloud

open BinaryScalar (real)

namespace HashChain

theorem fraction_exact (g : HashChain) :
    Scalar.isFinite (g.fraction : Float) = true ∧
      real (g.fraction : Float) = g.state.toNat / 2 ^ 32 := by
  have hstate : g.state.toNat < 2 ^ 53 := g.state.toNat_lt.trans (by norm_num)
  obtain ⟨hfinite, hreal⟩ :=
    Double.real_ofNat_div (k := 32) (d := 4294967296) hstate (by norm_num) (by norm_num)
  refine ⟨hfinite, hreal.trans ?_⟩
  rw [zpow_neg, zpow_natCast, div_eq_mul_inv]

theorem fraction_mem (g : HashChain) :
    0 ≤ real (g.fraction : Float) ∧ real (g.fraction : Float) < 1 := by
  have hlt : (g.state.toNat : ℝ) < 2 ^ 32 := by exact_mod_cast g.state.toNat_lt
  rw [g.fraction_exact.2]
  refine ⟨by positivity, ?_⟩
  rwa [div_lt_one (by positivity)]

/-- The height of a fraction, which doubling and the difference leave in units of `2 ^ (-31)`. -/
theorem heightOf_fraction_exact (g : HashChain) :
    real (2.0 * g.fraction : Float) = 2 * real (g.fraction : Float) ∧
      Scalar.isFinite (Cylindrical.heightOf g.fraction : Float) = true ∧
      real (Cylindrical.heightOf g.fraction : Float) = (g.state.toNat - 2 ^ 31) / 2 ^ 31 := by
  obtain ⟨hfinite, hreal⟩ := g.fraction_exact
  have hunits : real (g.fraction : Float) = g.state.toNat * 2 ^ (-((31 + 1 : ℕ) : ℤ)) := by
    rw [hreal, zpow_neg, zpow_natCast, div_eq_mul_inv]
  have hstate : g.state.toNat < 2 ^ 53 := g.state.toNat_lt.trans (by norm_num)
  obtain ⟨hdouble, hheight, hheight_real⟩ :=
    Double.real_heightOf hfinite hunits hstate (by norm_num) (by omega)
  refine ⟨hdouble, hheight, ?_⟩
  rw [hheight_real, hreal]
  ring

theorem heightOf_fraction_mem (g : HashChain) :
    -1 ≤ real (Cylindrical.heightOf g.fraction : Float) ∧
      real (Cylindrical.heightOf g.fraction : Float) ≤ 1 - 1 / 2 ^ 31 := by
  have hle : (g.state.toNat : ℝ) ≤ 2 ^ 32 - 1 := by
    have hnat : g.state.toNat + 1 ≤ 2 ^ 32 := g.state.toNat_lt
    have hcast : (g.state.toNat : ℝ) + 1 ≤ 2 ^ 32 := by exact_mod_cast hnat
    linarith
  rw [g.heightOf_fraction_exact.2.2, le_div_iff₀ (by positivity), div_le_iff₀ (by positivity)]
  constructor
  · linarith [(Nat.cast_nonneg g.state.toNat : (0 : ℝ) ≤ _)]
  · have hlast : ((1 : ℝ) - 1 / 2 ^ 31) * 2 ^ 31 = 2 ^ 31 - 1 := by norm_num
    linarith

end HashChain

theorem HashChain.getElem?_heights (s : Streams) {n i : ℕ} (hi : i < n) :
    (s.samples (α := Float) .pcg n).heights[i]? =
      some (Cylindrical.heightOf (s.chain.skip (2 * i + 1)).fraction) := by
  simp [Streams.samples, Cylindrical.ofPairs, pairAt, hi]

/-- The word that a height is made of. -/
noncomputable def heightWord (z : Float) : UInt32 :=
  .ofNat ⌊(real z + 1) * (2 ^ 31 : ℕ)⌋₊

theorem heightWord_heightOf (g : HashChain) :
    heightWord (Cylindrical.heightOf g.fraction) = g.state := by
  have hunits :
      (real (Cylindrical.heightOf g.fraction : Float) + 1) * (2 ^ 31 : ℕ) = g.state.toNat := by
    rw [g.heightOf_fraction_exact.2.2]
    push_cast
    ring
  rw [heightWord, hunits, Nat.floor_natCast, UInt32.ofNat_toNat]

/-- The chain loses nothing on the way to its samples.

Behind any number of draws the fraction is the state in units of `2 ^ (-32)`, and chains with one
fraction are in one state. A call takes the fraction of each height from every other draw, starting
with the first one; the height is the state, seen from the middle of all words, in units of
`2 ^ (-31)`. No operation rounds, and the words of the heights can be read off the heights. -/
theorem HashChain.samples_exact :
    (∀ (seed : UInt32) (n : ℕ), ∃ k, (skip n ⟨seed⟩).state.toNat = k ∧
      ∃ x : Float, (skip n ⟨seed⟩).fraction = x ∧ Scalar.isFinite x = true ∧ real x = k / 2 ^ 32 ∧
        0 ≤ real x ∧ real x < 1) ∧
    (∀ g h : HashChain, real (g.fraction : Float) = real (h.fraction : Float) ↔ g.state = h.state) ∧
    ∀ (s : Streams) (n : ℕ), fitsSamples n = true →
      ∃ pairs : Cylindrical Float, (s.draw .pcg n).1 = .ok pairs ∧ pairs.length = n ∧
        (∀ i < n, ∃ k, (s.chain.skip (2 * i + 1)).state.toNat = k ∧
          ∃ x z : Float, (s.chain.skip (2 * i + 1)).fraction = x ∧ pairs.heights[i]? = some z ∧
            z = 2.0 * x - 1.0 ∧ real (2.0 * x) = 2 * real x ∧ real z = 2 * real x - 1 ∧
            Scalar.isFinite z = true ∧ real z = (k - 2 ^ 31) / 2 ^ 31 ∧
            -1 ≤ real z ∧ real z ≤ 1 - 1 / 2 ^ 31) ∧
        pairs.heights.map heightWord =
          (List.range n).map fun i => (s.chain.skip (2 * i + 1)).state := by
  refine ⟨?_, ?_, ?_⟩
  · intro seed n
    obtain ⟨hfinite, hreal⟩ := (skip n ⟨seed⟩).fraction_exact
    exact ⟨_, rfl, _, rfl, hfinite, hreal, (skip n ⟨seed⟩).fraction_mem⟩
  · intro g h
    rw [g.fraction_exact.2, h.fraction_exact.2, div_left_inj' (by positivity), Nat.cast_inj]
    exact UInt32.toNat_inj
  · intro s n hn
    rw [Streams.draw_eq, if_pos hn]
    refine ⟨_, rfl, s.length_samples .pcg n, ?_, ?_⟩
    · intro i hi
      have hheight := getElem?_heights s hi
      obtain ⟨g, hg⟩ : ∃ g, s.chain.skip (2 * i + 1) = g := ⟨_, rfl⟩
      rw [hg] at hheight ⊢
      obtain ⟨hdouble, hfinite, hreal⟩ := g.heightOf_fraction_exact
      refine ⟨_, rfl, _, _, rfl, hheight, rfl, hdouble, ?_, hfinite, hreal, g.heightOf_fraction_mem⟩
      rw [hreal, g.fraction_exact.2]
      ring
    · simp only [Streams.samples, Cylindrical.ofPairs, List.map_map, Function.comp_def, pairAt,
        heightWord_heightOf]

/-- The second height of a call is made of the third word behind the seed. -/
theorem HashChain.samples_exact_second :
    fitsSamples 2 = true ∧ ∃ pairs : Cylindrical Float,
      ((Streams.ofSeeds 123 none (Key.ofSeed 5)).draw .pcg 2).1 = .ok pairs ∧
        (∃ z, pairs.heights[1]? = some z ∧ real z = (3717195914 - 2 ^ 31) / 2 ^ 31) ∧
        pairs.heights.map heightWord = [1051671337, 3717195914] := by
  have hfits : fitsSamples 2 = true := by decide
  have hwords : (skip 1 ⟨123⟩).state = 1051671337 ∧ (skip 3 ⟨123⟩).state = 3717195914 := by decide
  obtain ⟨pairs, hpairs, -, hheights, hread⟩ :=
    samples_exact.2.2 (Streams.ofSeeds 123 none (Key.ofSeed 5)) 2 hfits
  obtain ⟨k, hk, x, z, -, hz, -, -, -, -, hreal, -⟩ := hheights 1 one_lt_two
  have hchain : (Streams.ofSeeds 123 none (Key.ofSeed 5)).chain = ⟨123⟩ := rfl
  rw [hchain, hwords.2] at hk
  obtain rfl : 3717195914 = k := hk
  refine ⟨hfits, pairs, hpairs, ⟨z, hz, ?_⟩, ?_⟩
  · rw [hreal, Nat.cast_ofNat]
  · rw [hread, hchain, ← hwords.1, ← hwords.2]
    rfl

end SphereCloud
