import SphereCloud.Proofs.Binary.Packing

/-!
The order of binary numbers: that of the numbers they stand for, with an infinity at each end. What
is not a number compares with nothing.
-/

namespace SphereCloud.Binary

open Float.Model (Format UnpackedFloat)
open Float.Model.UnpackedFloat (Sign)

variable {spec : Format} {u v : UnpackedFloat}

theorem compare_swap (u v : UnpackedFloat) : v.compare u = (u.compare v).map Ordering.swap := by
  rcases u with (_ | _) | _ | (_ | _) | ⟨_ | _, m, e, hm⟩ <;>
    rcases v with (_ | _) | _ | (_ | _) | ⟨_ | _, n, f, hn⟩ <;>
    first
    | rfl
    | simp [UnpackedFloat.compare, Ordering.swap_then, Int.compare_swap, Nat.compare_swap]

theorem compare_isSome (hu : u ≠ .notANumber) (hv : v ≠ .notANumber) : (u.compare v).isSome := by
  rcases u with (_ | _) | _ | (_ | _) | ⟨_ | _, m, e, hm⟩ <;>
    rcases v with (_ | _) | _ | (_ | _) | ⟨_ | _, n, f, hn⟩ <;>
    first
    | rfl
    | exact absurd rfl hu
    | exact absurd rfl hv

theorem compare_eq_none_iff : u.compare v = none ↔ u = .notANumber ∨ v = .notANumber := by
  constructor
  · intro h
    by_contra hnumbers
    obtain ⟨hu, hv⟩ := not_or.mp hnumbers
    exact absurd (compare_isSome hu hv) (by simp [h])
  · rintro (rfl | rfl)
    · rfl
    · cases u <;> rfl

/-- A comparison is false where it holds the other way, but also where one side is no number. -/
theorem lt_eq_false_iff :
    u.lt v = false ↔ u = .notANumber ∨ v = .notANumber ∨ v.le u = true := by
  rw [← or_assoc, ← compare_eq_none_iff, UnpackedFloat.lt, UnpackedFloat.le, compare_swap u v]
  cases u.compare v with
  | none => simp
  | some o => cases o <;> simp

theorem le_eq_false_iff :
    u.le v = false ↔ u = .notANumber ∨ v = .notANumber ∨ v.lt u = true := by
  rw [← or_assoc, ← compare_eq_none_iff, UnpackedFloat.lt, UnpackedFloat.le, compare_swap u v]
  cases u.compare v with
  | none => simp
  | some o => cases o <;> simp

/-- Of two numbers one is at most the other. -/
theorem le_of_not_lt (hu : u ≠ .notANumber) (hv : v ≠ .notANumber) (h : u.lt v = false) :
    v.le u = true :=
  ((lt_eq_false_iff.mp h).resolve_left hu).resolve_left hv

theorem le_refl (hu : u ≠ .notANumber) : u.le u = true := by
  obtain ⟨o, ho⟩ := Option.isSome_iff_exists.mp (compare_isSome hu hu)
  have hswap := compare_swap u u
  rw [ho, Option.map_some, Option.some_inj] at hswap
  rw [UnpackedFloat.le, ho]
  cases o with
  | lt => cases hswap
  | eq => rfl
  | gt => cases hswap

theorem le_of_lt (h : u.lt v = true) : u.le v = true := by
  rw [UnpackedFloat.lt, beq_iff_eq] at h
  rw [UnpackedFloat.le, h]
  rfl

/-- What lies between two finite numbers is finite. -/
theorem isFinite_of_le_of_le {lo hi : UnpackedFloat} (hlo : lo.isFinite = true)
    (hhi : hi.isFinite = true) (h₁ : lo.le u = true) (h₂ : u.le hi = true) : u.isFinite = true := by
  rcases u with (_ | _) | _ | _ | _
  case infinity.negative =>
    cases lo <;> first | exact absurd hlo Bool.false_ne_true | exact absurd h₁ Bool.false_ne_true
  case infinity.positive =>
    cases hi <;> first | exact absurd hhi Bool.false_ne_true | exact absurd h₂ Bool.false_ne_true
  case notANumber =>
    cases hi <;> exact absurd h₂ Bool.false_ne_true
  case zero => rfl
  case finite => rfl

/-- Only the upper infinity lies above a number and is not finite, the lower one lying above
itself. -/
theorem eq_infinity_of_le (h : u.le v = true) (hu : u ≠ .infinity .negative)
    (hv : ¬v.isFinite = true) : v = .infinity .positive := by
  rcases v with (_ | _) | _ | _ | _
  case infinity.negative =>
    rcases u with (_ | _) | _ | _ | _ <;>
      first | exact absurd rfl hu | exact absurd h Bool.false_ne_true
  case infinity.positive => rfl
  case notANumber => cases u <;> exact absurd h Bool.false_ne_true
  case zero => exact absurd rfl hv
  case finite => exact absurd rfl hv

section Stored

/-- Among numbers with all their bits a higher exponent means a larger number. -/
theorem mul_zpow_lt_of_exponent_lt {m n : ℕ} {e f : ℤ} (hm : m < 2 ^ spec.mantissaBits)
    (he : spec.minExponent ≤ e)
    (hn : 2 ^ spec.mantissaBitsWithoutImplicit ≤ n ∨ f = spec.minExponent) (hlt : e < f) :
    (m : ℝ) * 2 ^ e < n * 2 ^ f := by
  have hn' : (2 : ℝ) ^ spec.mantissaBitsWithoutImplicit ≤ n := by
    exact_mod_cast hn.resolve_right (by omega)
  have hpow : (0 : ℝ) < 2 ^ spec.mantissaBitsWithoutImplicit := by positivity
  calc (m : ℝ) * 2 ^ e < 2 ^ spec.mantissaBits * 2 ^ e := by
        gcongr
        exact_mod_cast hm
    _ = 2 ^ spec.mantissaBitsWithoutImplicit * 2 ^ (e + 1) := by
        rw [two_pow_mantissaBits, zpow_add_one₀ two_ne_zero]
        ring
    _ ≤ n * 2 ^ f := by
        gcongr
        · exact one_le_two
        · omega

/-- Exponents decide, and mantissas where these agree. -/
theorem compare_then_eq_cmp {m n : ℕ} {e f : ℤ} {s t : Sign} {hm : 0 < m} {hn : 0 < n}
    (hu : Canonical spec (.finite s m e hm)) (hv : Canonical spec (.finite t n f hn)) :
    (compare e f).then (compare m n) = cmp ((m : ℝ) * 2 ^ e) (n * 2 ^ f) := by
  obtain ⟨hm', he, hlow⟩ := hu
  obtain ⟨hn', hf, hlow'⟩ := hv
  rcases lt_trichotomy e f with hlt | rfl | hgt
  · rw [Int.compare_eq_lt.mpr hlt, (mul_zpow_lt_of_exponent_lt hm' he hlow' hlt).cmp_eq_lt]
    rfl
  · rw [Int.compare_eq_eq.mpr rfl, cmp_mul_pos_right (zpow_pos two_pos e), ← cmp_eq_compare]
    exact (Nat.strictMono_cast (α := ℝ)).cmp_map_eq m n |>.symm
  · rw [Int.compare_eq_gt.mpr hgt, (mul_zpow_lt_of_exponent_lt hn' hf hlow hgt).cmp_eq_gt]
    rfl

theorem cmp_neg_neg (x y : ℝ) : cmp (-x) (-y) = (cmp x y).swap := by
  rw [cmp_swap]
  simp only [cmp, cmpUsing, neg_lt_neg_iff]

theorem compare_eq_cmp (hu : Canonical spec u) (hv : Canonical spec v) (hu' : u.isFinite = true)
    (hv' : v.isFinite = true) : u.compare v = some (cmp (value u) (value v)) := by
  have hpos {m : ℕ} {e : ℤ} (hm : 0 < m) : (0 : ℝ) < m * 2 ^ e := by positivity
  rcases u with _ | _ | _ | ⟨s, m, e, hm⟩
  case infinity => cases hu'
  case notANumber => cases hu'
  case zero =>
    rcases v with _ | _ | _ | ⟨_ | _, n, f, hn⟩
    case infinity => cases hv'
    case notANumber => cases hv'
    case zero => rw [value_zero, value_zero, cmp_self_eq_eq]; rfl
    case finite.negative =>
      rw [value_zero, value_finite, signed, (neg_lt_zero.mpr (hpos hn)).cmp_eq_gt]
      rfl
    case finite.positive =>
      rw [value_zero, value_finite, signed, (hpos hn).cmp_eq_lt]
      rfl
  case finite =>
    rcases v with _ | _ | _ | ⟨t, n, f, hn⟩
    case infinity => cases hv'
    case notANumber => cases hv'
    case zero =>
      cases s with
      | negative =>
        rw [value_finite, value_zero, signed, (neg_lt_zero.mpr (hpos hm)).cmp_eq_lt]
        rfl
      | positive => rw [value_finite, value_zero, signed, (hpos hm).cmp_eq_gt]; rfl
    case finite =>
      have hcmp := compare_then_eq_cmp hu hv
      cases s <;> cases t <;> rw [value_finite, value_finite, signed, signed]
      case negative.negative => rw [cmp_neg_neg, ← hcmp]; rfl
      case negative.positive =>
        rw [((neg_lt_zero.mpr (hpos hm)).trans (hpos hn)).cmp_eq_lt]; rfl
      case positive.negative =>
        rw [((neg_lt_zero.mpr (hpos hn)).trans (hpos hm)).cmp_eq_gt]; rfl
      case positive.positive => rw [← hcmp]; rfl

theorem le_iff_value (hu : Canonical spec u) (hv : Canonical spec v) (hu' : u.isFinite = true)
    (hv' : v.isFinite = true) : u.le v = true ↔ value u ≤ value v := by
  rw [UnpackedFloat.le, compare_eq_cmp hu hv hu' hv', Option.any_some]
  rcases lt_trichotomy (value u) (value v) with hlt | heq | hgt
  · rw [hlt.cmp_eq_lt]
    exact iff_of_true rfl hlt.le
  · rw [heq.cmp_eq_eq]
    exact iff_of_true rfl heq.le
  · rw [hgt.cmp_eq_gt]
    exact iff_of_false Bool.false_ne_true hgt.not_ge

theorem lt_iff_value (hu : Canonical spec u) (hv : Canonical spec v) (hu' : u.isFinite = true)
    (hv' : v.isFinite = true) : u.lt v = true ↔ value u < value v := by
  rw [UnpackedFloat.lt, compare_eq_cmp hu hv hu' hv', beq_iff_eq, Option.some_inj, cmp_eq_lt_iff]

end Stored

end SphereCloud.Binary
