import SphereCloud.Proofs.Binary.Monotone

/-!
The byte nearest to a single: the number rounded to a whole one, a half upward, and kept between 0
and 255. It grows with the number.
-/

namespace SphereCloud

open Float.Model (UnpackedFloat)

theorem floor_natCast_add_half (n : ℕ) : ⌊(n : ℝ) + 2⁻¹⌋₊ = n := by
  rw [Nat.floor_eq_iff (by positivity)]
  constructor <;> norm_num

theorem floor_add_half_of_nonpos {r : ℝ} (hr : r ≤ 0) : ⌊r + 2⁻¹⌋₊ = 0 := by
  rw [Nat.floor_eq_zero]
  norm_num
  linarith

namespace Binary

theorem nearestWhole_eq_floor (m : ℕ) (e : ℤ) : nearestWhole m e = ⌊(m : ℝ) * 2 ^ e + 2⁻¹⌋₊ := by
  cases e with
  | ofNat k =>
    have hwhole : (m : ℝ) * 2 ^ (Int.ofNat k) = (m <<< k : ℕ) := by
      rw [Int.ofNat_eq_natCast, zpow_natCast, Nat.shiftLeft_eq]
      push_cast
      rfl
    rw [nearestWhole, hwhole, floor_natCast_add_half]
  | negSucc k =>
    have hsum : (m : ℝ) * 2 ^ (Int.negSucc k) + 2⁻¹ = (m + 2 ^ k : ℕ) / (2 ^ (k + 1) : ℕ) := by
      rw [zpow_negSucc]
      push_cast
      field_simp
      ring
    rw [nearestWhole, hsum, Nat.floor_div_eq_div, Nat.shiftLeft_eq, one_mul,
      Nat.shiftRight_eq_div_pow]

end Binary

namespace Single

open BinaryScalar (real unpack IsNumber)

variable {x y : Float32}

theorem toNat_nearestByte (hx : Scalar.isFinite x = true) :
    (Binary.nearestByte x).toNat = min 255 ⌊real x + 2⁻¹⌋₊ := by
  obtain ⟨u, hu⟩ : ∃ u, x.toModel.unpack = u := ⟨_, rfl⟩
  have hunpack : unpack x = u := hu
  rw [BinaryScalar.isFinite, hunpack] at hx
  rw [real, hunpack, Binary.nearestByte, hu]
  rcases u with s | _ | s | ⟨_ | _, m, e, hm⟩
  case infinity => cases hx
  case notANumber => cases hx
  case zero =>
    rw [Binary.value_zero, floor_add_half_of_nonpos le_rfl]
    rfl
  case finite.negative =>
    have hnonneg : (0 : ℝ) ≤ m * 2 ^ e := by positivity
    rw [Binary.value_finite, Binary.signed, floor_add_half_of_nonpos (neg_nonpos.mpr hnonneg)]
    rfl
  case finite.positive =>
    rw [Binary.value_finite, Binary.signed, ← Binary.nearestWhole_eq_floor]
    have hle := Nat.min_le_left 255 (Binary.nearestWhole m e)
    exact UInt8.toNat_ofNat_of_lt' (Nat.lt_succ_of_le hle)

theorem nearestByte_of_real_eq {b : UInt8} (hx : Scalar.isFinite x = true) (h : real x = b.toNat) :
    Binary.nearestByte x = b := by
  rw [← UInt8.toNat_inj, toNat_nearestByte hx, h, floor_natCast_add_half]
  exact Nat.min_eq_right (Nat.le_of_lt_succ b.toNat_lt)

theorem nearestByte_of_infinity (hx : unpack x = .infinity .positive) :
    Binary.nearestByte x = 255 := by
  have hunpack : x.toModel.unpack = .infinity .positive := hx
  rw [Binary.nearestByte, hunpack]

theorem nearestByte_of_not_number (hx : ¬IsNumber x) : Binary.nearestByte x = 0 := by
  have hunpack : x.toModel.unpack = .notANumber := not_not.mp hx
  rw [Binary.nearestByte, hunpack]

/-- The nearest byte grows with the number, from the lower infinity to the upper one. -/
theorem nearestByte_le_nearestByte (h : Scalar.le x y = true) :
    Binary.nearestByte x ≤ Binary.nearestByte y := by
  rw [UInt8.le_iff_toNat_le]
  by_cases hfinite : Scalar.isFinite x = true ∧ Scalar.isFinite y = true
  · obtain ⟨hx, hy⟩ := hfinite
    rw [toNat_nearestByte hx, toNat_nearestByte hy]
    exact min_le_min_left 255
      (Nat.floor_mono (add_le_add_left ((BinaryScalar.le_iff_real hx hy).mp h) _))
  · rw [BinaryScalar.le] at h
    change x.toModel.unpack.le y.toModel.unpack = true at h
    change ¬(x.toModel.unpack.isFinite = true ∧ y.toModel.unpack.isFinite = true) at hfinite
    rw [Binary.nearestByte, Binary.nearestByte]
    generalize x.toModel.unpack = u at h hfinite ⊢
    generalize y.toModel.unpack = v at h hfinite ⊢
    -- Below a number there is the lower infinity, whose byte is 0; above it the upper one with 255.
    rcases u with (_ | _) | _ | s | ⟨_ | _, m, e, hm⟩ <;>
      rcases v with (_ | _) | _ | t | ⟨_ | _, n, f, hn⟩ <;>
      first
      | exact Nat.zero_le _
      | exact Nat.le_of_lt_succ (UInt8.toNat_lt _)
      | exact absurd h Bool.false_ne_true
      | exact absurd ⟨rfl, rfl⟩ hfinite

end Single

end SphereCloud
