import SphereCloud.Proofs.Binary.BinaryScalar
import SphereCloud.Proofs.View.Cells

/-!
Which points of space have a pixel. The tests ask whether a place is out of view, and a comparison
with what is no number is false: a place without coordinates passes them.
-/

namespace SphereCloud

open BinaryScalar (IsNumber)

namespace Single

variable {x y : Float32}

theorem isNaN_div (h : y.isNaN = true) : (x / y).isNaN = true := by
  rw [isNaN_iff] at h ⊢
  exact fun hquotient => h (BinaryScalar.isNumber_of_div hquotient).2

theorem not_isNumber_toSingle {x : Float} (h : ¬IsNumber x) : ¬IsNumber (Binary.toSingle x) := by
  have hunpack : x.toModel.unpack = .notANumber := not_not.mp h
  have hwritten : Binary.written .binary32 .notANumber = .notANumber :=
    Binary.written_eq_fit trivial
  rw [Binary.toSingle, hunpack, IsNumber, not_not]
  exact hwritten

theorem not_isNumber_sum {a b c d y z w : Float32} (h : ¬IsNumber x) :
    ¬IsNumber (a * x + b * y + c * z + d * w) := fun hsum =>
  h (BinaryScalar.isNumber_of_mul (BinaryScalar.isNumber_of_add (BinaryScalar.isNumber_of_add
    (BinaryScalar.isNumber_of_add hsum).1).1).1).2

theorem toNat_eq_zero (h : ¬IsNumber x) : Scalar.toNat x = 0 := by
  have hunpack : x.toModel.unpack = .notANumber := not_not.mp h
  change x.toModel.unpack.toUInt64.toNat = 0
  rw [hunpack]
  rfl

/-- What is not at most zero is positive, or no number. -/
theorem le_zero_eq_false_iff : Scalar.le x 0.0 = false ↔ x.isNaN = true ∨ 0.0 < x := by
  have hzero : IsNumber (0.0 : Float32) := BinaryScalar.isNumber_of_isFinite rfl
  rw [BinaryScalar.le_eq_false_iff, isNaN_iff, or_iff_right (not_not.mpr hzero)]
  rfl

/-- What is not further away from zero than one is between minus one and one, or no number. -/
theorem one_lt_abs_eq_false_iff :
    Scalar.lt 1.0 (Scalar.abs x) = false ↔ x.isNaN = true ∨ (-1.0 ≤ x ∧ x ≤ 1.0) := by
  have hone : Scalar.isFinite (1.0 : Float32) = true := rfl
  rw [BinaryScalar.lt_eq_false_iff,
    or_iff_right (not_not.mpr (BinaryScalar.isNumber_of_isFinite hone)),
    BinaryScalar.isNumber_abs, BinaryScalar.abs_le_iff hone, isNaN_iff]
  rfl

end Single

namespace Vec4

variable {clip : Vec4 Float32}

/-- A place in front of the eye whose coordinates to the right and to the top are numbers from -1 to
1. -/
def InView (clip : Vec4 Float32) : Prop :=
  0.0 < clip.w ∧ (-1.0 ≤ clip.x / clip.w ∧ clip.x / clip.w ≤ 1.0) ∧
    -1.0 ≤ clip.y / clip.w ∧ clip.y / clip.w ≤ 1.0

/-- A place that is in view but for what of it is no number. -/
def Passes (clip : Vec4 Float32) : Prop :=
  (clip.w.isNaN = true ∨ 0.0 < clip.w) ∧
    ((clip.x / clip.w).isNaN = true ∨ (-1.0 ≤ clip.x / clip.w ∧ clip.x / clip.w ≤ 1.0)) ∧
    ((clip.y / clip.w).isNaN = true ∨ (-1.0 ≤ clip.y / clip.w ∧ clip.y / clip.w ≤ 1.0))

instance (clip : Vec4 Float32) : Decidable clip.InView :=
  inferInstanceAs (Decidable (_ ∧ _))

instance (clip : Vec4 Float32) : Decidable clip.Passes :=
  inferInstanceAs (Decidable (_ ∧ _))

theorem InView.passes (h : clip.InView) : clip.Passes :=
  ⟨Or.inr h.1, Or.inr h.2.1, Or.inr h.2.2⟩

theorem passes_iff_inView (hx : (clip.x / clip.w).isNaN = false)
    (hy : (clip.y / clip.w).isNaN = false) :
    clip.Passes ↔ clip.InView := by
  have hw : clip.w.isNaN = false := by
    by_contra hnone
    rw [Single.isNaN_div (Bool.not_eq_false _ ▸ hnone)] at hx
    cases hx
  simp only [Passes, InView, hw, hx, hy, Bool.false_eq_true, false_or]

end Vec4

namespace Cell

variable {c : Cell} {projection : Mat4 Float32} {point : Vec3 Float32}

theorem sight_eq (projection : Mat4 Float32) (point : Vec3 Float32) {clip : Vec4 Float32}
    (hclip : projection.apply ⟨point.x, point.y, point.z, 1.0⟩ = clip) :
    sight projection point =
      if clip.Passes then some (clip.x / clip.w, clip.y / clip.w) else none := by
  have htests : clip.Passes ↔ Scalar.le clip.w 0.0 = false ∧
      (Scalar.lt 1.0 (Scalar.abs (clip.x / clip.w)) ||
        Scalar.lt 1.0 (Scalar.abs (clip.y / clip.w))) = false := by
    rw [Bool.or_eq_false_iff, Single.le_zero_eq_false_iff, Single.one_lt_abs_eq_false_iff,
      Single.one_lt_abs_eq_false_iff]
    rfl
  simp only [sight, hclip]
  by_cases hpasses : clip.Passes
  · obtain ⟨hw, hsides⟩ := htests.mp hpasses
    rw [if_pos hpasses, hw, hsides]
    rfl
  · rw [if_neg hpasses]
    rw [htests, not_and_or, Bool.not_eq_false, Bool.not_eq_false] at hpasses
    rcases hpasses with hw | hsides
    · rw [if_pos hw]
    · rw [if_pos hsides, ite_self]

/-- What is no number gives the first column and the first row. -/
theorem toNat_column_eq_zero {u : Float32} (hu : u.isNaN = true) (width : ℕ) :
    Scalar.toNat ((u * 0.5 + 0.5) * Scalar.ofNat width) = 0 := by
  rw [Single.isNaN_iff] at hu
  refine Single.toNat_eq_zero fun hproduct => hu ?_
  exact (BinaryScalar.isNumber_of_mul
    (BinaryScalar.isNumber_of_add (BinaryScalar.isNumber_of_mul hproduct).1).1).1

theorem toNat_row_eq_zero {v : Float32} (hv : v.isNaN = true) (height : ℕ) :
    Scalar.toNat ((0.5 - v * 0.5) * Scalar.ofNat height) = 0 := by
  rw [Single.isNaN_iff] at hv
  refine Single.toNat_eq_zero fun hproduct => hv ?_
  exact (BinaryScalar.isNumber_of_mul
    (BinaryScalar.isNumber_of_sub (BinaryScalar.isNumber_of_mul hproduct).1).2).1

/-- A point without its first coordinate has no place at all, so that it lands on the first pixel of
the cell. -/
theorem landing_of_not_isNumber (hempty : c.isEmpty = false) (hpoint : ¬IsNumber point.x) :
    c.landing projection point =
      if fitsWord c.x && fitsWord c.y then .ok (some (c.x, c.y)) else .error .tooLarge := by
  obtain ⟨clip, hclip⟩ : ∃ clip, projection.apply ⟨point.x, point.y, point.z, 1.0⟩ = clip :=
    ⟨_, rfl⟩
  have hw : clip.w.isNaN = true := by
    rw [← hclip, Single.isNaN_iff]
    exact Single.not_isNumber_sum hpoint
  have hu : (clip.x / clip.w).isNaN = true := Single.isNaN_div hw
  have hv : (clip.y / clip.w).isNaN = true := Single.isNaN_div hw
  have hsight := sight_eq projection point hclip
  rw [if_pos ⟨.inl hw, .inl hu, .inl hv⟩] at hsight
  have hlanding := landing_of_sight hempty hsight
  simp only [toNat_column_eq_zero hu, toNat_row_eq_zero hv, Nat.zero_min, Nat.add_zero] at hlanding
  exact hlanding

/-- A point is culled unless its place passes the tests, and then it has a pixel of the cell.

A place passes that is in view: in front of the eye, with coordinates from -1 to 1. Where both
coordinates are numbers, no other place passes. One that has no number to the right passes as well
and comes to the first column, one that has none to the top comes to the first row. -/
theorem landing_culls (hwidth : 0 < c.width) (hheight : 0 < c.height) (projection : Mat4 Float32)
    (point : Vec3 Float32) :
    let clip := projection.apply ⟨point.x, point.y, point.z, 1.0⟩
    let u := clip.x / clip.w
    let v := clip.y / clip.w
    (c.landing projection point = .ok none ↔ ¬clip.Passes) ∧
      (clip.Passes → ∃ column < c.width, ∃ row < c.height,
        c.landing projection point =
          (if fitsWord (c.x + column) && fitsWord (c.y + row) then
            .ok (some (c.x + column, c.y + row)) else .error .tooLarge) ∧
        (u.isNaN = true → column = 0) ∧ (v.isNaN = true → row = 0)) ∧
      (clip.InView → clip.Passes) ∧
      (u.isNaN = false → v.isNaN = false → (clip.Passes ↔ clip.InView)) ∧
      (clip.w.isNaN = true → u.isNaN = true ∧ v.isNaN = true) := by
  intro clip u v
  have hempty : c.isEmpty = false := isEmpty_eq_false.mpr ⟨hwidth, hheight⟩
  have hsight : sight projection point = if clip.Passes then some (u, v) else none :=
    sight_eq projection point rfl
  refine ⟨?_, ?_, Vec4.InView.passes, Vec4.passes_iff_inView, ?_⟩
  · constructor
    · intro hnone hpasses
      rw [if_pos hpasses] at hsight
      rw [landing_of_sight hempty hsight] at hnone
      split at hnone <;> cases hnone
    · intro hpasses
      simp only [landing_eq, hsight, if_neg hpasses]
  · intro hpasses
    rw [if_pos hpasses] at hsight
    refine ⟨_, ?_, _, ?_, landing_of_sight hempty hsight, ?_, ?_⟩
    · exact Nat.lt_of_le_pred hwidth (Nat.min_le_right _ _)
    · exact Nat.lt_of_le_pred hheight (Nat.min_le_right _ _)
    · intro hu
      rw [toNat_column_eq_zero hu, Nat.zero_min]
    · intro hv
      rw [toNat_row_eq_zero hv, Nat.zero_min]
  · intro hw
    exact ⟨Single.isNaN_div hw, Single.isNaN_div hw⟩

/-- The middle of the view has a pixel, a point beside the view has none. -/
theorem landing_culls_unit :
    let c : Cell := ⟨3, 4, 10, 7⟩
    let projection : Mat4 Float32 :=
      ⟨⟨1.0, 0.0, 0.0, 0.0⟩, ⟨0.0, 1.0, 0.0, 0.0⟩, ⟨0.0, 0.0, 1.0, 0.0⟩, ⟨0.0, 0.0, 0.0, 1.0⟩⟩
    0 < c.width ∧ 0 < c.height ∧
      (∃ column < 10, ∃ row < 7,
        c.landing projection ⟨0.0, 0.0, 0.0⟩ = .ok (some (3 + column, 4 + row))) ∧
      c.landing projection ⟨1.5, 0.0, 0.0⟩ = .ok none := by
  intro c projection
  have hwidth : 0 < c.width := by decide
  have hheight : 0 < c.height := by decide
  obtain ⟨-, hpixel, hpasses, -⟩ := landing_culls hwidth hheight projection ⟨0.0, 0.0, 0.0⟩
  obtain ⟨hnone, -⟩ := landing_culls hwidth hheight projection ⟨1.5, 0.0, 0.0⟩
  obtain ⟨column, hcolumn, row, hrow, hlanding, -⟩ := hpixel (hpasses (by decide))
  change column < 10 at hcolumn
  change row < 7 at hrow
  have hfits : (fitsWord (3 + column) && fitsWord (4 + row)) = true := by
    simp only [fitsWord, Bool.and_eq_true, decide_eq_true_eq]
    omega
  exact ⟨hwidth, hheight, ⟨column, hcolumn, row, hrow, hlanding.trans (if_pos hfits)⟩,
    hnone.mpr (by decide)⟩

/-- A point at `2 ^ 127` on two axes. Its place to the right is the difference of two infinities, so
that it is not in view; but it has a pixel. -/
theorem landing_of_overflow :
    let far : Float32 := .ofBits 0x7F000000
    let projection : Mat4 Float32 :=
      ⟨⟨2.0, 0.0, 0.0, 0.0⟩, ⟨-2.0, 0.0, 0.0, 0.0⟩, ⟨0.0, 0.0, 1.0, 0.0⟩, ⟨0.0, 0.0, 0.0, 1.0⟩⟩
    let clip := projection.apply ⟨far, far, 0.0, 1.0⟩
    (0.0 < clip.w ∧ (clip.x / clip.w).isNaN = true ∧ ¬clip.InView) ∧
      (⟨0, 0, 4, 4⟩ : Cell).landing projection ⟨far, far, 0.0⟩ = .ok (some (0, 2)) := by
  decide

end Cell

end SphereCloud
