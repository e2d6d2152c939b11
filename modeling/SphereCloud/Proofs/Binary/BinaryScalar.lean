import SphereCloud.Numbers
import SphereCloud.Proofs.Binary.Arithmetic

/-!
Double and single precision as binary formats: what holds of the words of a format holds of both.
-/

namespace SphereCloud

open Float.Model (Format UnpackedFloat)
open Binary
  (Canonical Nearest OnGrid Representable Stored fit maxExponent value written written_eq_fit)

/-- Numbers kept as words of a binary format, whose operations are those of the format. -/
class BinaryScalar (α : Type) [Scalar α] where
  format : Format
  unpack : α → UnpackedFloat
  exponents : format.minExponent ≤ maxExponent format
  stored : ∀ x, Stored format (unpack x)
  neg : ∀ x, unpack (-x) = written format (unpack x).neg
  abs : ∀ x, unpack (Scalar.abs x) = written format (unpack x).abs
  add : ∀ x y, unpack (x + y) = written format ((unpack x).add format (unpack y))
  sub : ∀ x y, unpack (x - y) = written format ((unpack x).sub format (unpack y))
  mul : ∀ x y, unpack (x * y) = written format ((unpack x).mul format (unpack y))
  div : ∀ x y, unpack (x / y) = written format ((unpack x).div format (unpack y))
  ofNat : ∀ n < 2 ^ 64, unpack (Scalar.ofNat n) = written format (.ofNat format n)
  lt : ∀ x y, Scalar.lt x y = (unpack x).lt (unpack y)
  le : ∀ x y, Scalar.le x y = (unpack x).le (unpack y)
  isFinite : ∀ x : α, Scalar.isFinite x = (unpack x).isFinite

theorem toNat_toUInt64 {n : ℕ} (h : n < 2 ^ 64) : n.toUInt64.toNat = n :=
  UInt64.toNat_ofNat_of_lt' h

instance : BinaryScalar Float where
  format := .binary64
  unpack x := x.toModel.unpack
  exponents := by decide
  stored x := Binary.stored_unpack .binary64 (by decide) x.toModel.toBits.toBitVec
  neg _ := rfl
  abs _ := rfl
  add _ _ := rfl
  sub _ _ := rfl
  mul _ _ := rfl
  div _ _ := rfl
  ofNat n hn := congrArg (fun k => written .binary64 (.ofNat .binary64 k)) (toNat_toUInt64 hn)
  lt _ _ := Bool.decide_eq_true
  le _ _ := Bool.decide_eq_true
  isFinite _ := rfl

instance : BinaryScalar Float32 where
  format := .binary32
  unpack x := x.toModel.unpack
  exponents := by decide
  stored x := Binary.stored_unpack .binary32 (by decide) x.toModel.toBits.toBitVec
  neg _ := rfl
  abs _ := rfl
  add _ _ := rfl
  sub _ _ := rfl
  mul _ _ := rfl
  div _ _ := rfl
  ofNat n hn := congrArg (fun k => written .binary32 (.ofNat .binary32 k)) (toNat_toUInt64 hn)
  lt _ _ := Bool.decide_eq_true
  le _ _ := Bool.decide_eq_true
  isFinite _ := rfl

namespace BinaryScalar

variable {α : Type} [Scalar α] [BinaryScalar α] {x y : α} {r c : ℝ}

/-- The number that is stored. Infinities count as zero. -/
noncomputable def real (x : α) : ℝ :=
  value (unpack x)

def IsNumber (x : α) : Prop :=
  unpack x ≠ .notANumber

/-- Whether a scalar is what rounding a number gives. -/
def Rounds (r : ℝ) (x : α) : Prop :=
  ∃ u, Nearest (format α) r u ∧ unpack x = fit (format α) u

structure Within (lo hi : ℝ) (x : α) : Prop where
  isFinite : Scalar.isFinite x = true
  ge : lo ≤ real x
  le : real x ≤ hi

theorem canonical (x : α) : Canonical (format α) (unpack x) :=
  (stored x).canonical

theorem representable_real (x : α) : Representable (format α) (real x) :=
  (stored x).representable exponents

theorem real_of_unpack {m : ℕ} {e : ℤ} {h : 0 < m} (hx : unpack x = .finite .positive m e h) :
    Scalar.isFinite x = true ∧ real x = m * 2 ^ e := by
  rw [isFinite, real, hx]
  exact ⟨rfl, rfl⟩

theorem exists_unpack_of_pos (hx : Scalar.isFinite x = true) (hpos : 0 < real x) :
    ∃ m e hm, unpack x = .finite .positive m e hm := by
  rw [BinaryScalar.isFinite] at hx
  rw [real] at hpos
  rcases hu : unpack x with _ | _ | s | ⟨_ | _, m, e, hm⟩ <;> rw [hu] at hx hpos
  case infinity => cases hx
  case notANumber => cases hx
  case zero => exact absurd hpos (lt_irrefl 0)
  case finite.negative =>
    have hnonneg : (0 : ℝ) ≤ m * 2 ^ e := by positivity
    rw [Binary.value_finite, Binary.signed] at hpos
    linarith
  case finite.positive => exact ⟨m, e, hm, rfl⟩

theorem isNumber_of_isFinite (hx : Scalar.isFinite x = true) : IsNumber x := by
  rw [isFinite] at hx
  exact Binary.ne_notANumber_of_finite hx

namespace Rounds

theorem isNumber (h : Rounds r x) : IsNumber x := by
  obtain ⟨u, hu, hx⟩ := h
  rw [IsNumber, hx]
  exact mt Binary.fit_eq_notANumber.mp (Binary.ne_notANumber_of_finite hu.isFinite)

/-- What is rounded below a finite number is finite. -/
theorem bounded (h : Rounds r x) (hc : Representable (format α) c) (hr : |r| ≤ c) :
    Scalar.isFinite x = true ∧ |real x| ≤ c := by
  obtain ⟨u, hu, hx⟩ := h
  obtain ⟨hfit, habs⟩ := hu.fit_eq_of_abs_le hc hr
  rw [hfit] at hx
  rw [isFinite, real, hx]
  exact ⟨hu.isFinite, habs⟩

theorem nearest (h : Rounds r x) (hx : Scalar.isFinite x = true) :
    Nearest (format α) r (unpack x) := by
  obtain ⟨u, hu, hunpack⟩ := h
  rw [isFinite, hunpack] at hx
  rwa [hunpack, Binary.fit_eq_of_isFinite hx]

/-- A number of the format is not rounded at all. -/
theorem exact (h : Rounds r x) (hr : Representable (format α) r) :
    Scalar.isFinite x = true ∧ real x = r := by
  have hfinite := (h.bounded hr.abs le_rfl).1
  exact ⟨hfinite, (h.nearest hfinite).value_eq hr.onGrid⟩

/-- Rounding keeps a number between numbers of the format. -/
theorem between (h : Rounds r x) {a b : ℝ} (ha : Representable (format α) a)
    (hb : Representable (format α) b) (h₁ : a ≤ r) (h₂ : r ≤ b) : Within a b x := by
  have hfinite : Scalar.isFinite x = true := by
    rcases le_max_iff.mp (abs_le_max_abs_abs h₁ h₂) with habs | habs
    · exact (h.bounded ha.abs habs).1
    · exact (h.bounded hb.abs habs).1
  have hnearest := h.nearest hfinite
  exact ⟨hfinite, hnearest.le_value ha.onGrid h₁, hnearest.value_le hb.onGrid h₂⟩

end Rounds

theorem rounds_written {u : UnpackedFloat} (hu : Nearest (format α) r u)
    (hx : unpack x = written (format α) u) : Rounds r x :=
  ⟨u, hu, hx.trans (written_eq_fit hu.canonical)⟩

theorem representable_zero : Representable (format α) 0 :=
  ⟨0, (format α).minExponent, by simp, le_rfl, exponents, by simp⟩

section Finite

variable (hx : Scalar.isFinite x = true) (hy : Scalar.isFinite y = true)
include hx

theorem rounds_neg : Rounds (-real x) (-x) :=
  rounds_written (Binary.neg_nearest (canonical x) (isFinite x ▸ hx)) (neg x)

theorem rounds_abs : Rounds |real x| (Scalar.abs x) :=
  rounds_written (Binary.abs_nearest (canonical x) (isFinite x ▸ hx)) (abs x)

theorem real_neg : Scalar.isFinite (-x) = true ∧ real (-x) = -real x :=
  (rounds_neg hx).exact (representable_real x).neg

theorem real_abs : Scalar.isFinite (Scalar.abs x) = true ∧ real (Scalar.abs x) = |real x| :=
  (rounds_abs hx).exact (representable_real x).abs

include hy

theorem rounds_add : Rounds (real x + real y) (x + y) :=
  rounds_written
    (Binary.add_nearest (canonical x) (canonical y) (isFinite x ▸ hx) (isFinite y ▸ hy))
    (add x y)

theorem rounds_sub : Rounds (real x - real y) (x - y) :=
  rounds_written
    (Binary.sub_nearest (canonical x) (canonical y) (isFinite x ▸ hx) (isFinite y ▸ hy))
    (sub x y)

theorem rounds_mul : Rounds (real x * real y) (x * y) :=
  rounds_written
    (Binary.mul_nearest (canonical x) (canonical y) (isFinite x ▸ hx) (isFinite y ▸ hy))
    (mul x y)

theorem rounds_div (h : real y ≠ 0) : Rounds (real x / real y) (x / y) :=
  rounds_written (Binary.div_nearest (canonical x) (isFinite x ▸ hx) (isFinite y ▸ hy) h) (div x y)

theorem le_iff_real : Scalar.le x y = true ↔ real x ≤ real y := by
  rw [isFinite] at hx hy
  rw [le, Binary.le_iff_value (canonical x) (canonical y) hx hy]
  rfl

theorem lt_iff_real : Scalar.lt x y = true ↔ real x < real y := by
  rw [isFinite] at hx hy
  rw [lt, Binary.lt_iff_value (canonical x) (canonical y) hx hy]
  rfl

end Finite

namespace Within

variable {a b d e : ℝ}

theorem mono (h : Within a b x) (ha : c ≤ a) (hb : b ≤ d) : Within c d x :=
  ⟨h.isFinite, ha.trans h.ge, h.le.trans hb⟩

theorem mul (hx : Within 0 a x) (hy : Within 0 b y) (hc : Representable (format α) c)
    (hle : a * b ≤ c) : Within 0 c (x * y) := by
  refine (rounds_mul hx.isFinite hy.isFinite).between representable_zero hc
    (mul_nonneg hx.ge hy.ge) ?_
  exact (mul_le_mul hx.le hy.le hy.ge (hx.ge.trans hx.le)).trans hle

theorem add (hx : Within a b x) (hy : Within c d y) (hlo : Representable (format α) (a + c))
    (he : Representable (format α) e) (hle : b + d ≤ e) : Within (a + c) e (x + y) :=
  (rounds_add hx.isFinite hy.isFinite).between hlo he (add_le_add hx.ge hy.ge)
    ((add_le_add hx.le hy.le).trans hle)

end Within

theorem rounds_ofNat {n : ℕ} (hn : n < 2 ^ 64) : Rounds n (Scalar.ofNat n : α) := by
  refine rounds_written ?_ (ofNat n hn)
  have hnormalize : Nearest (format α) _ _ := Binary.normalize_nearest n 0 .positive
  rwa [zpow_zero, mul_one, Int.cast_natCast] at hnormalize

theorem isNumber_add (hx : Scalar.isFinite x = true) (hy : IsNumber y) : IsNumber (x + y) := by
  rw [isFinite] at hx
  rw [IsNumber, add]
  exact Binary.written_ne_notANumber (Binary.canonical_add (canonical x) (canonical y))
    (Binary.add_ne_notANumber (canonical x) (canonical y) hx hy)

theorem isNumber_mul (hx : IsNumber x) (hy : Scalar.isFinite y = true) (hne : real y ≠ 0) :
    IsNumber (x * y) := by
  rw [isFinite] at hy
  rw [IsNumber, mul]
  exact Binary.written_ne_notANumber (Binary.canonical_mul (canonical x) (canonical y))
    (Binary.mul_ne_notANumber (canonical x) (canonical y) hx hy hne)

section NoNumber

/-- No operation makes a number of what is none. -/
theorem isNumber_of_written {z : α} {f : UnpackedFloat → UnpackedFloat → UnpackedFloat}
    (hz : unpack z = written (format α) (f (unpack x) (unpack y)))
    (hleft : ∀ v, f .notANumber v = .notANumber) (hright : ∀ u, f u .notANumber = .notANumber)
    (h : IsNumber z) : IsNumber x ∧ IsNumber y := by
  have hnone : written (format α) .notANumber = .notANumber := written_eq_fit trivial
  constructor
  · intro hx
    rw [IsNumber, hz, hx, hleft] at h
    exact h hnone
  · intro hy
    rw [IsNumber, hz, hy, hright] at h
    exact h hnone

theorem isNumber_of_add (h : IsNumber (x + y)) : IsNumber x ∧ IsNumber y :=
  isNumber_of_written (add x y) (fun _ => rfl) (fun u => by cases u <;> rfl) h

theorem isNumber_of_sub (h : IsNumber (x - y)) : IsNumber x ∧ IsNumber y :=
  isNumber_of_written (sub x y) (fun _ => rfl) (fun u => by cases u <;> rfl) h

theorem isNumber_of_mul (h : IsNumber (x * y)) : IsNumber x ∧ IsNumber y :=
  isNumber_of_written (mul x y) (fun _ => rfl) (fun u => by cases u <;> rfl) h

theorem isNumber_of_div (h : IsNumber (x / y)) : IsNumber x ∧ IsNumber y :=
  isNumber_of_written (div x y) (fun _ => rfl) (fun u => by cases u <;> rfl) h

theorem lt_eq_false_iff :
    Scalar.lt x y = false ↔ ¬IsNumber x ∨ ¬IsNumber y ∨ Scalar.le y x = true := by
  rw [lt, le, Binary.lt_eq_false_iff, IsNumber, IsNumber, not_not, not_not]

theorem le_eq_false_iff :
    Scalar.le x y = false ↔ ¬IsNumber x ∨ ¬IsNumber y ∨ Scalar.lt y x = true := by
  rw [lt, le, Binary.le_eq_false_iff, IsNumber, IsNumber, not_not, not_not]

end NoNumber

theorem le_of_not_lt (hx : IsNumber x) (hy : IsNumber y) (h : ¬ Scalar.lt x y = true) :
    Scalar.le y x = true :=
  ((lt_eq_false_iff.mp (Bool.not_eq_true _ ▸ h)).resolve_left (not_not.mpr hx)).resolve_left
    (not_not.mpr hy)

theorem le_of_lt (h : Scalar.lt x y = true) : Scalar.le x y = true := by
  rw [lt] at h
  rw [le]
  exact Binary.le_of_lt h

theorem isFinite_of_le_of_le {lo hi : α} (hlo : Scalar.isFinite lo = true)
    (hhi : Scalar.isFinite hi = true) (h₁ : Scalar.le lo x = true) (h₂ : Scalar.le x hi = true) :
    Scalar.isFinite x = true := by
  rw [isFinite] at hlo hhi ⊢
  rw [le] at h₁ h₂
  exact Binary.isFinite_of_le_of_le hlo hhi h₁ h₂

/-- Only a finite number has an absolute value of at most a finite number. -/
theorem isFinite_of_abs_le (hy : Scalar.isFinite y = true) (h : Scalar.le (Scalar.abs x) y = true) :
    Scalar.isFinite x = true := by
  rw [isFinite] at hy ⊢
  rw [le, abs] at h
  cases hx : unpack x with
  | zero => rfl
  | finite => rfl
  | infinity s =>
    have hinfinity : written (format α) (UnpackedFloat.infinity s).abs = .infinity .positive :=
      written_eq_fit trivial
    rw [hx, hinfinity] at h
    cases hu : unpack y with
    | zero => rw [hu] at h; cases h
    | finite => rw [hu] at h; cases h
    | infinity => rw [hu] at hy; cases hy
    | notANumber => rw [hu] at hy; cases hy
  | notANumber =>
    have hnotANumber : written (format α) UnpackedFloat.notANumber.abs = .notANumber :=
      written_eq_fit trivial
    rw [hx, hnotANumber] at h
    cases hu : unpack y <;> rw [hu] at h <;> cases h

theorem isNumber_abs : IsNumber (Scalar.abs x) ↔ IsNumber x := by
  rw [IsNumber, IsNumber, abs, written_eq_fit (Binary.canonical_abs (canonical x)),
    ne_eq, ne_eq, Binary.fit_eq_notANumber]
  cases unpack x <;> simp [UnpackedFloat.abs]

theorem abs_le_iff (hy : Scalar.isFinite y = true) :
    Scalar.le (Scalar.abs x) y = true ↔ Scalar.le (-y) x = true ∧ Scalar.le x y = true := by
  obtain ⟨hminus, hminus_real⟩ := real_neg hy
  have hfinite (hx : Scalar.isFinite x = true) :
      Scalar.le (Scalar.abs x) y = true ↔ Scalar.le (-y) x = true ∧ Scalar.le x y = true := by
    obtain ⟨habs, habs_real⟩ := real_abs hx
    rw [le_iff_real habs hy, le_iff_real hminus hx, le_iff_real hx hy, habs_real, hminus_real,
      abs_le]
  exact ⟨fun h => (hfinite (isFinite_of_abs_le hy h)).mp h,
    fun h => (hfinite (isFinite_of_le_of_le hminus hy h.1 h.2)).mpr h⟩

/-- A number is kept between the bounds, be it infinite. -/
theorem clamp_mem (lo hi : α) (hx : IsNumber x) (hlo : Scalar.isFinite lo = true)
    (hhi : Scalar.isFinite hi = true) (hle : Scalar.le lo hi = true) :
    Scalar.le lo (Scalar.clamp x lo hi) = true ∧ Scalar.le (Scalar.clamp x lo hi) hi = true := by
  have hrefl {z : α} (hz : Scalar.isFinite z = true) : Scalar.le z z = true :=
    (le_iff_real hz hz).mpr le_rfl
  simp only [Scalar.clamp]
  by_cases hlow : Scalar.lt x lo = true
  · rw [if_pos hlow]
    split
    case isTrue => exact ⟨hle, hrefl hhi⟩
    case isFalse => exact ⟨hrefl hlo, hle⟩
  · rw [if_neg hlow]
    split
    case isTrue => exact ⟨hle, hrefl hhi⟩
    case isFalse hhigh =>
      exact ⟨le_of_not_lt hx (isNumber_of_isFinite hlo) hlow,
        le_of_not_lt (isNumber_of_isFinite hhi) hx hhigh⟩

end BinaryScalar

namespace Single

open BinaryScalar (real)

theorem real_zero : Scalar.isFinite (0.0 : Float32) = true ∧ real (0.0 : Float32) = 0 :=
  ⟨rfl, rfl⟩

theorem real_one : Scalar.isFinite (1.0 : Float32) = true ∧ real (1.0 : Float32) = 1 := by
  have hone : BinaryScalar.unpack (1.0 : Float32) = .finite .positive (2 ^ 23) (-23) (by decide) :=
    rfl
  obtain ⟨hfinite, hreal⟩ := BinaryScalar.real_of_unpack hone
  exact ⟨hfinite, hreal.trans (by norm_num)⟩

theorem isNaN_iff {x : Float32} : x.isNaN = true ↔ ¬BinaryScalar.IsNumber x := by
  change x.toModel.unpack.isNaN = true ↔ ¬ x.toModel.unpack ≠ .notANumber
  rw [UnpackedFloat.isNaN_iff, not_not]

end Single

end SphereCloud
