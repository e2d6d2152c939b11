import SphereCloud.Numbers
import SphereCloud.Proofs.Binary.Order

/-!
The operations on binary numbers: each gives the number closest to the exact result, an infinity
where that is too large, and something that is no number only where there is no result at all.
-/

namespace SphereCloud

namespace Binary

open Float.Model (Format UnpackedFloat totalExponent)
open Float.Model.UnpackedFloat (Sign decreaseExponent divCore roundWithAccuracy)

variable {spec : Format} {u v : UnpackedFloat}

theorem neg_nearest (hu : Canonical spec u) (hu' : u.isFinite = true) :
    Nearest spec (-value u) u.neg := by
  rcases u with _ | _ | s | ⟨s, m, e, hm⟩
  case infinity => cases hu'
  case notANumber => cases hu'
  case zero =>
    rw [value_zero, neg_zero]
    exact nearest_zero (-s)
  case finite =>
    have hvalue : -value (.finite s m e hm) = value (.finite (-s) m e hm) := by
      cases s
      · exact neg_neg _
      · rfl
    rw [hvalue]
    exact Canonical.nearest hu rfl

theorem abs_nearest (hu : Canonical spec u) (hu' : u.isFinite = true) :
    Nearest spec |value u| u.abs := by
  rcases u with _ | _ | s | ⟨s, m, e, hm⟩
  case infinity => cases hu'
  case notANumber => cases hu'
  case zero =>
    rw [value_zero, abs_zero]
    exact nearest_zero .positive
  case finite =>
    rw [abs_value_finite]
    exact Canonical.nearest (u := .finite .positive m e hm) hu rfl

theorem apply_decreaseExponent (s : Sign) (m : ℕ) {e t : ℤ} (ht : t ≤ e) :
    (s.apply (decreaseExponent m e t).1 : ℝ) * 2 ^ t = signed s (m * 2 ^ e) := by
  have hplace : (decreaseExponent m e t).2 = t := by
    simp only [decreaseExponent]
    omega
  rw [← decreaseExponent_value m e t, hplace, signed_mul]

theorem add_nearest (hu : Canonical spec u) (hv : Canonical spec v) (hu' : u.isFinite = true)
    (hv' : v.isFinite = true) : Nearest spec (value u + value v) (UnpackedFloat.add spec u v) := by
  rcases u with _ | _ | s | ⟨s, m, e, hm⟩ <;> rcases v with _ | _ | t | ⟨t, n, f, hn⟩ <;>
    first | exact absurd hu' Bool.false_ne_true | exact absurd hv' Bool.false_ne_true | skip
  case zero.zero =>
    rw [value_zero, value_zero, add_zero]
    cases s <;> cases t <;> exact nearest_zero _
  case zero.finite =>
    rw [value_zero, zero_add]
    exact hv.nearest hv'
  case finite.zero =>
    rw [value_zero, add_zero]
    exact hu.nearest hu'
  case finite.finite =>
    have hnormalize : Nearest spec _ _ :=
      normalize_nearest
        (s.apply (decreaseExponent m e (min e f)).1 + t.apply (decreaseExponent n f (min e f)).1)
        (min e f) .positive
    rwa [Int.cast_add, add_mul, apply_decreaseExponent s m (min_le_left e f),
      apply_decreaseExponent t n (min_le_right e f)] at hnormalize

theorem sub_nearest (hu : Canonical spec u) (hv : Canonical spec v) (hu' : u.isFinite = true)
    (hv' : v.isFinite = true) : Nearest spec (value u - value v) (UnpackedFloat.sub spec u v) := by
  rcases u with _ | _ | s | ⟨s, m, e, hm⟩ <;> rcases v with _ | _ | t | ⟨t, n, f, hn⟩ <;>
    first | exact absurd hu' Bool.false_ne_true | exact absurd hv' Bool.false_ne_true | skip
  case zero.zero =>
    rw [value_zero, value_zero, sub_zero]
    cases s <;> cases t <;> exact nearest_zero _
  case zero.finite =>
    rw [value_zero, zero_sub]
    exact neg_nearest hv hv'
  case finite.zero =>
    rw [value_zero, sub_zero]
    exact hu.nearest hu'
  case finite.finite =>
    have hnormalize : Nearest spec _ _ :=
      normalize_nearest
        (s.apply (decreaseExponent m e (min e f)).1 - t.apply (decreaseExponent n f (min e f)).1)
        (min e f) .positive
    rwa [Int.cast_sub, sub_mul, apply_decreaseExponent s m (min_le_left e f),
      apply_decreaseExponent t n (min_le_right e f)] at hnormalize

theorem signed_mul_signed (s t : Sign) (x y : ℝ) :
    signed s x * signed t y = signed (s * t) (x * y) := by
  cases s <;> cases t <;> simp only [signed, neg_mul, mul_neg, neg_neg]

/-- A product has at least the bits of a mantissa, or the lowest place. -/
theorem add_exponents_le {m n : ℕ} {e f : ℤ} {s t : Sign} {hm : 0 < m} {hn : 0 < n}
    (hu : Canonical spec (.finite s m e hm)) (hv : Canonical spec (.finite t n f hn)) :
    e + f ≤ spec.targetExponent (totalExponent (m * n) (e + f)) := by
  simp only [Format.targetExponent, totalExponent, Format.mantissaBits]
  by_cases hfull : 2 ^ spec.mantissaBitsWithoutImplicit ≤ m * n
  · have := (Nat.le_log2 (Nat.mul_pos hm hn).ne').mpr hfull
    omega
  · have he : e = spec.minExponent :=
      hu.2.2.resolve_left fun h => hfull (h.trans (Nat.le_mul_of_pos_right m hn))
    have hf : f = spec.minExponent :=
      hv.2.2.resolve_left fun h => hfull (h.trans (Nat.le_mul_of_pos_left n hm))
    have hmin := minExponent_eq spec
    have := spec.hm
    omega

theorem mul_nearest (hu : Canonical spec u) (hv : Canonical spec v) (hu' : u.isFinite = true)
    (hv' : v.isFinite = true) : Nearest spec (value u * value v) (UnpackedFloat.mul spec u v) := by
  rcases u with _ | _ | s | ⟨s, m, e, hm⟩ <;> rcases v with _ | _ | t | ⟨t, n, f, hn⟩ <;>
    first | exact absurd hu' Bool.false_ne_true | exact absurd hv' Bool.false_ne_true | skip
  case zero.zero =>
    rw [value_zero, zero_mul]
    exact nearest_zero (s * t)
  case zero.finite =>
    rw [value_zero, zero_mul]
    exact nearest_zero (s * t)
  case finite.zero =>
    rw [value_zero, mul_zero]
    exact nearest_zero (s * t)
  case finite.finite =>
    have hproduct : value (.finite s m e hm) * value (.finite t n f hn) =
        signed (s * t) ((m * n : ℕ) * 2 ^ (e + f)) := by
      rw [value_finite, value_finite, signed_mul_signed, zpow_add₀ two_ne_zero]
      push_cast
      ring_nf
    rw [hproduct]
    exact roundWithAccuracy_nearest (s * t) (add_exponents_le hu hv) rfl

theorem div_nearest (hu : Canonical spec u) (hu' : u.isFinite = true) (hv' : v.isFinite = true)
    (hv : value v ≠ 0) : Nearest spec (value u / value v) (UnpackedFloat.div spec u v) := by
  rcases v with _ | _ | t | ⟨t, n, f, hn⟩
  case infinity => cases hv'
  case notANumber => cases hv'
  case zero => exact absurd rfl hv
  case finite =>
    rcases u with _ | _ | s | ⟨s, m, e, hm⟩
    case infinity => cases hu'
    case notANumber => cases hu'
    case zero =>
      rw [value_zero, zero_div]
      exact nearest_zero (s / t)
    case finite =>
      have hquotient : value (.finite s m e hm) / value (.finite t n f hn) =
          signed (s / t) (m * 2 ^ e / (n * 2 ^ f)) := by
        rw [value_finite, value_finite]
        cases s <;> cases t <;> simp [signed, neg_div, div_neg] <;> rfl
      rw [hquotient]
      exact divCore_nearest (s / t) hm hn e f

theorem canonical_of_not_finite (h : u.isFinite = false) : Canonical spec u := by
  cases u with
  | finite => cases h
  | _ => trivial

theorem ne_notANumber_of_finite (h : u.isFinite = true) : u ≠ .notANumber := by
  rintro rfl
  cases h

theorem canonical_abs (hu : Canonical spec u) : Canonical spec u.abs := by
  cases u with
  | finite => exact hu
  | _ => trivial

theorem canonical_add (hu : Canonical spec u) (hv : Canonical spec v) :
    Canonical spec (UnpackedFloat.add spec u v) := by
  rcases u with s | _ | s | ⟨s, m, e, hm⟩ <;> rcases v with t | _ | t | ⟨t, n, f, hn⟩ <;>
    first
    | exact (add_nearest hu hv rfl rfl).canonical
    | exact canonical_of_not_finite rfl
    | (cases s <;> cases t <;> exact canonical_of_not_finite rfl)

theorem canonical_mul (hu : Canonical spec u) (hv : Canonical spec v) :
    Canonical spec (UnpackedFloat.mul spec u v) := by
  rcases u with s | _ | s | ⟨s, m, e, hm⟩ <;> rcases v with t | _ | t | ⟨t, n, f, hn⟩ <;>
    first
    | exact (mul_nearest hu hv rfl rfl).canonical
    | exact canonical_of_not_finite rfl

/-- Only infinities have no sum. -/
theorem add_ne_notANumber (hu : Canonical spec u) (hv : Canonical spec v) (hu' : u.isFinite = true)
    (hv' : v ≠ .notANumber) : UnpackedFloat.add spec u v ≠ .notANumber := by
  cases v with
  | infinity t => cases u <;> first | exact absurd hu' Bool.false_ne_true | exact nofun
  | notANumber => exact absurd rfl hv'
  | zero t => exact ne_notANumber_of_finite (add_nearest hu hv hu' rfl).isFinite
  | finite t n f hn => exact ne_notANumber_of_finite (add_nearest hu hv hu' rfl).isFinite

/-- Only an infinity and zero have no product. -/
theorem mul_ne_notANumber (hu : Canonical spec u) (hv : Canonical spec v) (hu' : u ≠ .notANumber)
    (hv' : v.isFinite = true) (hv₀ : value v ≠ 0) : UnpackedFloat.mul spec u v ≠ .notANumber := by
  rcases v with _ | _ | t | ⟨t, n, f, hn⟩
  case infinity => cases hv'
  case notANumber => cases hv'
  case zero => exact absurd rfl hv₀
  case finite =>
    cases u with
    | infinity s => exact nofun
    | notANumber => exact absurd rfl hu'
    | zero s => exact nofun
    | finite s m e hm => exact ne_notANumber_of_finite (mul_nearest hu hv rfl rfl).isFinite

end Binary

end SphereCloud
