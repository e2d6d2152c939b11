import SphereCloud.Proofs.Sphere.Points

/-!
Pairs of samples of the unit interval as doubles. Rounding carries no height to the north pole and
no angle around the full turn: the greatest double below one leaves room for it.
-/

namespace SphereCloud

open BinaryScalar (Within format real representable_zero)
open Binary (Representable)

namespace Double

/-- A double from zero to below one, as the program compares. -/
def IsUnit (x : Float) : Prop :=
  0.0 ≤ x ∧ x < 1.0

theorem IsUnit.within {x : Float} (h : IsUnit x) : Within 0 (1 - 2 ^ (-(53 : ℤ))) x := by
  obtain ⟨hzero, hzero_real⟩ := real_zero
  obtain ⟨hone, hone_real⟩ := real_one
  have hx := BinaryScalar.isFinite_of_le_of_le hzero hone h.1 (BinaryScalar.le_of_lt h.2)
  have hge := (BinaryScalar.le_iff_real hzero hx).mp h.1
  have hlt := (BinaryScalar.lt_iff_real hx hone).mp h.2
  rw [hzero_real] at hge
  rw [hone_real] at hlt
  exact ⟨hx, hge, (BinaryScalar.representable_real x).onGrid.le_one_sub hlt⟩

/-- A height is below one by the last place of one at least. -/
theorem IsUnit.within_heightOf {u : Float} (h : IsUnit u) :
    Within (-1) (1 - 2 ^ (-(52 : ℤ))) (Cylindrical.heightOf u) := by
  have hu := h.within
  obtain ⟨htwo, htwo_real⟩ := real_two
  obtain ⟨hone, hone_real⟩ := real_one
  have htop : Representable (format Float) (2 - 2 ^ (-(52 : ℤ))) := by
    have hscaled := representable_scaled (k := 52) (m := 2 ^ 53 - 1) (by norm_num) (by norm_num)
    norm_num at hscaled ⊢
    exact hscaled
  have hdoubled : Within 0 (2 - 2 ^ (-(52 : ℤ))) (2.0 * u) := by
    apply (BinaryScalar.rounds_mul htwo hu.isFinite).between representable_zero htop
    · rw [htwo_real]
      linarith [hu.ge]
    · rw [htwo_real]
      have := hu.le
      norm_num at this ⊢
      linarith
  apply (BinaryScalar.rounds_sub hdoubled.isFinite hone).between representable_one.neg
    (representable_one_sub (by norm_num))
  · rw [hone_real]
    linarith [hdoubled.ge]
  · rw [hone_real]
    linarith [hdoubled.le]

theorem real_tau :
    Scalar.isFinite (Scalar.tau : Float) = true ∧
      real (Scalar.tau : Float) = 7074237752028440 * 2 ^ (-(50 : ℤ)) := by
  obtain ⟨-, -, -, h⟩ := unpack_literals
  obtain ⟨hfinite, hreal⟩ := BinaryScalar.real_of_unpack h
  exact ⟨hfinite, hreal.trans (by norm_num)⟩

/-- The mantissa of a full turn is large enough for this: the greatest double below one takes more
than half of the last place from it. -/
theorem IsUnit.within_angleOf {v : Float} (h : IsUnit v) :
    Within 0 (7074237752028439 * 2 ^ (-(50 : ℤ))) (Cylindrical.angleOf v) := by
  have hv := h.within
  obtain ⟨htau, htau_real⟩ := real_tau
  have hproduct := BinaryScalar.rounds_mul htau hv.isFinite
  have hbound : Within 0 (real (Scalar.tau : Float)) (Cylindrical.angleOf v) := by
    apply hproduct.between representable_zero (BinaryScalar.representable_real _)
    · exact mul_nonneg (htau_real ▸ by positivity) hv.ge
    · apply mul_le_of_le_one_right (htau_real ▸ by positivity)
      have := hv.le
      norm_num at this
      linarith
  have hgrid := representable_scaled (k := 50) (m := 7074237752028439) (by norm_num) (by norm_num)
  refine ⟨hbound.isFinite, hbound.ge, ?_⟩
  apply (hproduct.nearest hbound.isFinite).value_le_of_lt_middle (m := 7074237752028439) (by decide)
    hgrid.onGrid
  rw [htau_real]
  have := hv.le
  norm_num at this ⊢
  linarith

theorem IsUnit.heightOf_mem {u : Float} (h : IsUnit u) :
    -1.0 ≤ Cylindrical.heightOf u ∧ Cylindrical.heightOf u < 1.0 := by
  have hheight := h.within_heightOf
  obtain ⟨hone, hone_real⟩ := real_one
  obtain ⟨hminus, hminus_real⟩ := BinaryScalar.real_neg hone
  have hbelow : (1 : ℝ) - 2 ^ (-(52 : ℤ)) < 1 := by norm_num
  constructor
  · apply (BinaryScalar.le_iff_real hminus hheight.isFinite).mpr
    rw [hminus_real, hone_real]
    exact hheight.ge
  · apply (BinaryScalar.lt_iff_real hheight.isFinite hone).mpr
    rw [hone_real]
    exact hheight.le.trans_lt hbelow

theorem IsUnit.angleOf_mem {v : Float} (h : IsUnit v) :
    0.0 ≤ Cylindrical.angleOf v ∧ Cylindrical.angleOf v < Scalar.tau := by
  have hangle := h.within_angleOf
  obtain ⟨hzero, hzero_real⟩ := real_zero
  obtain ⟨htau, htau_real⟩ := real_tau
  have hbelow : (7074237752028439 : ℝ) * 2 ^ (-(50 : ℤ)) < real (Scalar.tau : Float) := by
    rw [htau_real]
    gcongr
    norm_num
  constructor
  · apply (BinaryScalar.le_iff_real hzero hangle.isFinite).mpr
    rw [hzero_real]
    exact hangle.ge
  · apply (BinaryScalar.lt_iff_real hangle.isFinite htau).mpr
    exact hangle.le.trans_lt hbelow

end Double

namespace Cylindrical

/-- Samples of the unit interval give heights from -1 to below 1 and angles from zero to below a
full turn.

The height stays as far below 1 as the next double, and the angle as far below the full turn:
neither is rounded up to its bound, not even for the greatest double below one. -/
theorem ofUnit_half_open {u v : List Float} (hlength : u.length = v.length)
    (hu : ∀ x ∈ u, 0.0 ≤ x ∧ x < 1.0) (hv : ∀ x ∈ v, 0.0 ≤ x ∧ x < 1.0) :
    ∃ pairs, ofUnit? u v = .ok pairs ∧
      pairs.heights = u.map (fun x => 2.0 * x - 1.0) ∧
      pairs.angles = v.map (fun x => Scalar.tau * x) ∧
      (∀ z ∈ pairs.heights, -1.0 ≤ z ∧ z < 1.0 ∧ real z ≤ 1 - 2 ^ (-(52 : ℤ))) ∧
      ∀ t ∈ pairs.angles, 0.0 ≤ t ∧ t < Scalar.tau ∧
        real t ≤ real (Scalar.tau : Float) - 2 ^ (-(50 : ℤ)) := by
  have hpairs : (u.map heightOf).length = (v.map angleOf).length := by
    simp only [List.length_map, hlength]
  have hlast : real (Scalar.tau : Float) - 2 ^ (-(50 : ℤ)) =
      7074237752028439 * 2 ^ (-(50 : ℤ)) := by
    rw [Double.real_tau.2]
    ring
  refine ⟨_, ofLists?_eq_ok hpairs, rfl, rfl, ?_, ?_⟩
  · intro z hz
    obtain ⟨x, hx, rfl⟩ := List.mem_map.mp hz
    have hunit : Double.IsUnit x := hu x hx
    exact ⟨hunit.heightOf_mem.1, hunit.heightOf_mem.2, hunit.within_heightOf.le⟩
  · intro t ht
    obtain ⟨x, hx, rfl⟩ := List.mem_map.mp ht
    have hunit : Double.IsUnit x := hv x hx
    rw [hlast]
    exact ⟨hunit.angleOf_mem.1, hunit.angleOf_mem.2, hunit.within_angleOf.le⟩

/-- The greatest double below one gives the doubles before the two bounds. -/
theorem ofUnit_half_open_greatest :
    let x := Float.ofBits 0x3FEFFFFFFFFFFFFF
    (0.0 ≤ x ∧ x < 1.0) ∧ ∃ pairs, ofUnit? [0.0, x] [0.0, x] = .ok pairs ∧
      pairs.heights = [-1.0, Float.ofBits 0x3FEFFFFFFFFFFFFE] ∧
      pairs.angles = [0.0, Float.ofBits 0x401921FB54442D17] ∧
      ∀ z ∈ pairs.heights, -1.0 ≤ z ∧ z < 1.0 := by
  intro x
  have hx : 0.0 ≤ x ∧ x < 1.0 := by decide
  have hunit : ∀ y ∈ [0.0, x], 0.0 ≤ y ∧ y < 1.0 :=
    List.forall_mem_cons.mpr ⟨⟨rfl, rfl⟩, List.forall_mem_singleton.mpr hx⟩
  obtain ⟨pairs, hpairs, hheights, hangles, hbelow, -⟩ := ofUnit_half_open rfl hunit hunit
  refine ⟨hx, pairs, hpairs, hheights.trans ?_, hangles.trans ?_, fun z hz => ?_⟩
  · decide
  · decide
  · exact ⟨(hbelow z hz).1, (hbelow z hz).2.1⟩

end Cylindrical

end SphereCloud
