import Mathlib.Data.FinEnum
import Mathlib.Dynamics.PeriodicPts.Lemmas
import SphereCloud.Proofs.Generator.Places

/-!
The hash of the chain loses nothing: it permutes the words, so that a chain never merges with
another one and always comes back to its seed.
-/

namespace SphereCloud

open Function

def xorShift (k s : UInt32) : UInt32 :=
  (s >>> k) ^^^ s

theorem mix_eq (word : UInt32) :
    mix word =
      let s := word * 747796405 + 2891336453
      xorShift 22 (xorShift ((s >>> 28) + 4) s * 277803737) := rfl

/-- A factor that has an inverse can be undone. -/
theorem mul_injective_of_inverse {a b : UInt32} (h : a * b = 1) : Injective (· * a) := by
  intro s t hst
  have hb : s * a * b = t * a * b := congrArg (· * b) hst
  rwa [UInt32.mul_assoc, UInt32.mul_assoc, h, UInt32.mul_one, UInt32.mul_one] at hb

/-- Words that differ still do when their bits are added further down: where the top bit of the
difference is, nothing is added to it. -/
theorem xorShift_injective {k : UInt32} (hk : 0 < k.toNat % 32) : Injective (xorShift k) := by
  intro s t hst
  have hshift : (s ^^^ t) >>> k = s ^^^ t := by
    rw [UInt32.shiftRight_xor, ← UInt32.xor_eq_zero_iff]
    have hsum : xorShift k s ^^^ xorShift k t = 0 := UInt32.xor_eq_zero_iff.mpr hst
    rw [← hsum, xorShift, xorShift]
    ac_rfl
  have hdiv : (s ^^^ t).toNat / 2 ^ (k.toNat % 32) = (s ^^^ t).toNat := by
    have hnat := congrArg UInt32.toNat hshift
    rwa [UInt32.toNat_shiftRight, Nat.shiftRight_eq_div_pow] at hnat
  have hpow : 1 < 2 ^ (k.toNat % 32) := Nat.one_lt_two_pow hk.ne'
  rw [← UInt32.xor_eq_zero_iff, ← UInt32.toNat_inj]
  by_contra hne
  exact absurd hdiv (Nat.div_lt_self (Nat.pos_of_ne_zero hne) hpow).ne

/-- The amount of the first shift, which the four top bits of the word choose. -/
theorem toNat_amount (s : UInt32) : ((s >>> 28) + 4).toNat = s.toNat / 2 ^ 28 + 4 := by
  have hlt : s.toNat < 2 ^ 32 := s.toNat_lt
  have htop : (s >>> 28).toNat = s.toNat / 2 ^ 28 := by
    rw [UInt32.toNat_shiftRight, Nat.shiftRight_eq_div_pow]
    rfl
  rw [UInt32.toNat_add, htop]
  change (s.toNat / 2 ^ 28 + 4) % 2 ^ 32 = _
  omega

/-- A shift by at least four places leaves the four top bits alone. -/
theorem top_xorShift {k : UInt32} (hk : 4 ≤ k.toNat) (hk' : k.toNat < 32) (s : UInt32) :
    xorShift k s >>> 28 = s >>> 28 := by
  have hzero : s >>> k >>> 28 = 0 := by
    rw [← UInt32.toNat_inj, UInt32.toNat_shiftRight, UInt32.toNat_shiftRight,
      Nat.mod_eq_of_lt hk', ← Nat.shiftRight_add]
    apply Nat.shiftRight_eq_zero
    calc s.toNat < 2 ^ 32 := s.toNat_lt
      _ ≤ 2 ^ (k.toNat + 28 % 32) := Nat.pow_le_pow_right (by decide) (by omega)
  rw [xorShift, UInt32.shiftRight_xor, hzero, UInt32.zero_xor]

/-- The amount can be read off the result, and then the shift can be undone. -/
theorem xorShift_top_injective : Injective fun s : UInt32 => xorShift ((s >>> 28) + 4) s := by
  have hamount (s : UInt32) : 4 ≤ ((s >>> 28) + 4).toNat ∧ ((s >>> 28) + 4).toNat < 32 := by
    have hlt : s.toNat < 2 ^ 32 := s.toNat_lt
    rw [toNat_amount]
    omega
  intro s t (hst : xorShift ((s >>> 28) + 4) s = xorShift ((t >>> 28) + 4) t)
  have htop : s >>> 28 = t >>> 28 := by
    have h := congrArg (fun word : UInt32 => word >>> 28) hst
    rwa [top_xorShift (hamount s).1 (hamount s).2, top_xorShift (hamount t).1 (hamount t).2] at h
  obtain ⟨hlo, hhi⟩ := hamount t
  refine xorShift_injective (k := (t >>> 28) + 4) (by omega) ?_
  rwa [htop] at hst

theorem mix_injective : Injective mix := by
  intro v w h
  rw [mix_eq, mix_eq] at h
  have hproduct := xorShift_injective (by decide) h
  have hfactor : (277803737 : UInt32) * 2897767785 = 1 := by decide
  have hsum := xorShift_top_injective (mul_injective_of_inverse hfactor hproduct)
  have hfactor' : (747796405 : UInt32) * 3425435293 = 1 := by decide
  exact mul_injective_of_inverse hfactor' ((UInt32.add_left_inj _).mp hsum)

theorem mix_bijective : Bijective mix :=
  Finite.injective_iff_bijective.mp mix_injective

namespace HashChain

theorem state_skip (n : ℕ) (g : HashChain) : (g.skip n).state = mix^[n] g.state := by
  induction n generalizing g with
  | zero => rw [skip_zero, iterate_zero_apply]
  | succ n ih =>
    rw [skip_succ, ih, iterate_succ_apply, next]

theorem ext_state {g h : HashChain} (hstate : g.state = h.state) : g = h := by
  cases g
  cases h
  exact congrArg HashChain.mk hstate

/-- Draws permute the states of the chain, however many there are. A chain comes back to its seed
after at most `2 ^ 32` draws and goes around from there, so that all its states are on one cycle
with the seed. -/
theorem skip_permutes :
    Bijective mix ∧
    (∀ n, Bijective fun seed => (HashChain.skip n ⟨seed⟩).state) ∧
    (∀ (n : ℕ) (g h : HashChain), g.skip n = h.skip n ↔ g = h) ∧
    ∀ g : HashChain, ∃ period, 1 ≤ period ∧ period ≤ 2 ^ 32 ∧ g.skip period = g ∧
      (∀ n, 0 < n → n < period → g.skip n ≠ g) ∧
      (∀ n, g.skip (n + period) = g.skip n) ∧
      ∀ n, ∃ m, (g.skip n).skip m = g := by
  have hiterate (n : ℕ) : Bijective mix^[n] := mix_bijective.iterate n
  refine ⟨mix_bijective, fun n => ?_, fun n g h => ⟨fun heq => ?_, congrArg _⟩, fun g => ?_⟩
  · simpa only [state_skip] using hiterate n
  · have hstate := congrArg HashChain.state heq
    rw [state_skip, state_skip] at hstate
    exact ext_state ((hiterate n).injective hstate)
  · have hpos : 0 < minimalPeriod mix g.state :=
      minimalPeriod_pos_of_mem_periodicPts (mix_injective.mem_periodicPts g.state)
    have hle : minimalPeriod mix g.state ≤ Fintype.card UInt32 := minimalPeriod_le_card
    have hcard : Fintype.card UInt32 = 2 ^ 32 := FinEnum.card_eq_fintypeCard.symm
    have hreturn : g.skip (minimalPeriod mix g.state) = g := by
      apply ext_state
      rw [state_skip, iterate_minimalPeriod]
    have haround (n : ℕ) : g.skip (n + minimalPeriod mix g.state) = g.skip n := by
      rw [Nat.add_comm, skip_add, hreturn]
    refine ⟨minimalPeriod mix g.state, hpos, hcard ▸ hle, hreturn, ?_, haround, ?_⟩
    · intro n hn hlt heq
      have hstate := congrArg HashChain.state heq
      rw [state_skip] at hstate
      exact not_isPeriodicPt_of_pos_of_lt_minimalPeriod hn.ne' hlt hstate
    · -- As many rounds as draws lie ahead of the state or at it.
      intro n
      have hrounds := (isPeriodicPt_minimalPeriod mix g.state).const_mul n
      have hle : n ≤ n * minimalPeriod mix g.state := Nat.le_mul_of_pos_right n hpos
      refine ⟨n * minimalPeriod mix g.state - n, ext_state ?_⟩
      rw [← skip_add, Nat.add_sub_cancel' hle, state_skip]
      exact hrounds

end HashChain

end SphereCloud
