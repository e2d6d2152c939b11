import SphereCloud.Proofs.Binary.Monotone
import SphereCloud.Proofs.Binary.RelativeError
import SphereCloud.Proofs.Binary.WordOrder
import SphereCloud.Proofs.Generator.RoundedRange

/-!
Uniform samples as doubles. Two roundings do not carry a sample to the upper end of its range: the
width is made small enough for the greatest fraction, and smaller fractions give smaller samples.
-/

namespace SphereCloud

open BinaryScalar (Within format real)
open Binary (Representable value wordCount)

theorem toNat_sub_one {bits : UInt64} (h : bits ≠ 0) : (bits - 1).toNat = bits.toNat - 1 := by
  have hne : bits.toNat ≠ 0 := fun hzero => h (UInt64.toNat_inj.mp hzero)
  exact UInt64.toNat_sub_of_le _ _ (UInt64.le_iff_toNat_le.mpr (Nat.pos_of_ne_zero hne))

/-- The loop goes down to the first word whose width the greatest fraction stays below `hi` with. -/
theorem exists_word_shrinkStretch (lo hi : Float) (bits : UInt64) :
    ∃ word, shrinkStretch lo hi bits = Float.ofBits word ∧ word.toNat ≤ bits.toNat ∧
      (word = 0 ∨ ¬ hi ≤ Float.ofBits word * greatestFraction + lo) ∧
      ∀ w : UInt64, word.toNat < w.toNat → w.toNat ≤ bits.toNat →
        hi ≤ Float.ofBits w * greatestFraction + lo := by
  fun_induction shrinkStretch lo hi bits with
  | case1 => exact ⟨0, rfl, le_rfl, Or.inl rfl, fun w h h' => absurd h h'.not_gt⟩
  | case2 bits width hbits hle ih =>
    obtain ⟨word, heq, hword, hend, hwords⟩ := ih
    rw [toNat_sub_one hbits] at hword hwords
    refine ⟨word, heq, by omega, hend, fun w h h' => ?_⟩
    rcases h'.lt_or_eq with hlt | hlast
    · exact hwords w h (by omega)
    · obtain rfl := UInt64.toNat_inj.mp hlast
      exact hle
  | case3 bits width hbits hle =>
    exact ⟨bits, rfl, le_rfl, Or.inr hle, fun w h h' => absurd h h'.not_gt⟩

namespace Double

theorem unpack_ofBits (word : UInt64) :
    BinaryScalar.unpack (Float.ofBits word) =
      Float.Model.UnpackedFloat.unpack .binary64 word.toBitVec := by
  have hstored := Binary.stored_unpack .binary64 (by decide) word.toBitVec
  change Binary.written .binary64 (Float.Model.UnpackedFloat.unpack .binary64 word.toBitVec) = _
  rw [Binary.written_eq_fit hstored.canonical, hstored.fit_eq]

theorem ofBits_toBits (x : Float) : Float.ofBits x.toBits = x := by
  obtain ⟨⟨⟨bits⟩, hvalid⟩⟩ := x
  have hpacked := Float.Model.UnpackedFloat.pack_unpack_of_valid hvalid
  simp [Float.ofBits, Float.toBits, Float.Model.ofBits, Float.Model.pack, hpacked]

theorem isFinite_ofBits {word : UInt64} (h : word.toNat < wordCount .binary64) :
    Scalar.isFinite (Float.ofBits word) = true ∧ 0 ≤ real (Float.ofBits word) := by
  obtain ⟨hfinite, hvalue⟩ := Binary.value_unpack_of_lt .binary64 h
  rw [BinaryScalar.isFinite, real, unpack_ofBits, hvalue]
  exact ⟨hfinite, by positivity⟩

/-- From zero on, doubles are in the order of their words. -/
theorem real_ofBits_lt_iff {a b : UInt64} (ha : a.toNat < wordCount .binary64)
    (hb : b.toNat < wordCount .binary64) :
    real (Float.ofBits a) < real (Float.ofBits b) ↔ a.toNat < b.toNat := by
  rw [real, real, unpack_ofBits, unpack_ofBits]
  exact Binary.value_unpack_lt_iff .binary64 ha hb

theorem toNat_toBits_lt {x : Float} (hfinite : Scalar.isFinite x = true) (hpos : 0 < real x) :
    x.toBits.toNat < wordCount .binary64 :=
  Binary.toNat_lt_wordCount .binary64 hfinite hpos

variable {lo hi : Float}

theorem isFinite_of_accepts (h : UniformStream.accepts lo hi = true) :
    Scalar.isFinite lo = true ∧ Scalar.isFinite hi = true ∧ Scalar.isFinite (hi - lo) = true ∧
      real lo < real hi := by
  simp only [UniformStream.accepts, Bool.and_eq_true, Bool.not_eq_true'] at h
  obtain ⟨⟨⟨hlo, hhi⟩, hlt⟩, hwidth⟩ := h
  refine ⟨hlo, hhi, hwidth, ?_⟩
  rwa [← not_le, ← BinaryScalar.le_iff_real hhi hlo, Bool.not_eq_true]

theorem real_greatestFraction :
    Scalar.isFinite greatestFraction = true ∧ real greatestFraction = 1 - 2 ^ (-(52 : ℤ)) := by
  have hunpack : BinaryScalar.unpack greatestFraction =
      .finite .positive (2 ^ 53 - 2) (-53) (by decide) := rfl
  obtain ⟨hfinite, hreal⟩ := BinaryScalar.real_of_unpack hunpack
  exact ⟨hfinite, hreal.trans (by norm_num)⟩

theorem within_greatestFraction : Within 0 (real greatestFraction) greatestFraction := by
  obtain ⟨hfinite, hreal⟩ := real_greatestFraction
  exact ⟨hfinite, by rw [hreal]; norm_num, le_rfl⟩

/-- The width that fractions are stretched to is the greatest one, of those up to the width of the
range, that keeps the greatest fraction below `hi`. -/
structure IsStretch (lo hi s : Float) : Prop where
  isFinite : Scalar.isFinite s = true
  nonneg : 0 ≤ real s
  le : real s ≤ real (hi - lo)
  not_reached : ¬ hi ≤ s * greatestFraction + lo
  reached : ∀ d, Scalar.isFinite d = true → real s < real d → real d ≤ real (hi - lo) →
    hi ≤ d * greatestFraction + lo

theorem not_reached_of_zero {s : Float} (hlo : Scalar.isFinite lo = true)
    (hhi : Scalar.isFinite hi = true) (hlt : real lo < real hi) (hs : Scalar.isFinite s = true)
    (hzero : real s = 0) : ¬ hi ≤ s * greatestFraction + lo := by
  have hproduct := BinaryScalar.rounds_mul hs real_greatestFraction.1
  rw [hzero, zero_mul] at hproduct
  obtain ⟨hproduct, hproduct_real⟩ := hproduct.exact BinaryScalar.representable_zero
  have hsum := BinaryScalar.rounds_add hproduct hlo
  rw [hproduct_real, zero_add] at hsum
  obtain ⟨hsum, hsum_real⟩ := hsum.exact (BinaryScalar.representable_real lo)
  intro hle
  have := (BinaryScalar.le_iff_real hhi hsum).mp hle
  linarith

theorem isStretch (h : UniformStream.accepts lo hi = true) :
    IsStretch lo hi (UniformScalar.stretch lo hi) := by
  obtain ⟨hlo, hhi, hwidth, hlt⟩ := isFinite_of_accepts h
  have hpos : 0 < real (hi - lo) := BinaryScalar.real_sub_pos hhi hlo hwidth hlt
  have hbits := toNat_toBits_lt hwidth hpos
  obtain ⟨word, heq, hword, hend, hwords⟩ := exists_word_shrinkStretch lo hi (hi - lo).toBits
  have hword' := hword.trans_lt hbits
  obtain ⟨hfinite, hnonneg⟩ := isFinite_ofBits hword'
  change UniformScalar.stretch lo hi = _ at heq
  rw [heq]
  refine ⟨hfinite, hnonneg, ?_, hend.elim ?_ id, fun d hd hsd hdw => ?_⟩
  · rw [← ofBits_toBits (hi - lo), ← not_lt, real_ofBits_lt_iff hbits hword']
    exact hword.not_gt
  · rintro rfl
    exact not_reached_of_zero hlo hhi hlt hfinite rfl
  · have hd_bits := toNat_toBits_lt hd (hnonneg.trans_lt hsd)
    rw [← ofBits_toBits d, real_ofBits_lt_iff hword' hd_bits] at hsd
    rw [← ofBits_toBits d, ← ofBits_toBits (hi - lo), ← not_lt, real_ofBits_lt_iff hbits hd_bits,
      not_lt] at hdw
    rw [← ofBits_toBits d]
    exact hwords _ hsd hdw

theorem mul_swap (x y : Float) : x * y = y * x :=
  congrArg (fun u => Float.ofModel (.pack u)) (Binary.mul_swap .binary64 _ _)

namespace IsStretch

variable {s x : Float}

theorem within_mul (h : IsStretch lo hi s) (hx : Within 0 (real greatestFraction) x) :
    Within 0 (real s) (s * x) := by
  have hle_one : real x ≤ 1 := by
    apply hx.le.trans
    rw [real_greatestFraction.2]
    norm_num
  apply (BinaryScalar.rounds_mul h.isFinite hx.isFinite).between BinaryScalar.representable_zero
    (BinaryScalar.representable_real s) (mul_nonneg h.nonneg hx.ge)
  exact mul_le_of_le_one_right h.nonneg hle_one

/-- Smaller fractions are not stretched further. -/
theorem mul_le (h : IsStretch lo hi s) (hx : Within 0 (real greatestFraction) x) :
    real (s * x) ≤ real (s * greatestFraction) :=
  BinaryScalar.real_mul_le_mul_left h.isFinite hx.isFinite real_greatestFraction.1
    (h.within_mul hx).isFinite (h.within_mul within_greatestFraction).isFinite h.nonneg hx.le

variable (hlo : Scalar.isFinite lo = true) (hhi : Scalar.isFinite hi = true)
include hlo hhi

theorem within_sample (h : IsStretch lo hi s) (hx : Within 0 (real greatestFraction) x) :
    Within (real lo) (real hi) (s * x + lo) := by
  have hproduct := h.within_mul hx
  have hgreatest := h.within_mul within_greatestFraction
  -- The loop tests a rounded sum. It stays below `hi` only if the sum itself does.
  have hbelow := (BinaryScalar.rounds_add hgreatest.isFinite hlo).lt_of_not_le hhi h.not_reached
  apply (BinaryScalar.rounds_add hproduct.isFinite hlo).between (BinaryScalar.representable_real lo)
    (BinaryScalar.representable_real hi)
  · linarith [hproduct.ge]
  · linarith [h.mul_le hx]

/-- A fraction up to the greatest one gives a sample of the range. -/
theorem sample_mem (h : IsStretch lo hi s) (hx : Within 0 (real greatestFraction) x) :
    lo ≤ x * s + lo ∧ x * s + lo < hi := by
  have hsample := h.within_sample hlo hhi hx
  have hlast := h.within_sample hlo hhi within_greatestFraction
  have hle : real (s * x + lo) ≤ real (s * greatestFraction + lo) :=
    BinaryScalar.real_add_le_add (h.within_mul hx).isFinite hlo
      (h.within_mul within_greatestFraction).isFinite hlo hsample.isFinite hlast.isFinite
        (h.mul_le hx)
      le_rfl
  have hlast_lt : real (s * greatestFraction + lo) < real hi := by
    rw [← not_le, ← BinaryScalar.le_iff_real hhi hlast.isFinite]
    exact h.not_reached
  rw [mul_swap x s]
  constructor
  · exact (BinaryScalar.le_iff_real hlo hsample.isFinite).mpr hsample.ge
  · exact (BinaryScalar.lt_iff_real hsample.isFinite hhi).mpr (hle.trans_lt hlast_lt)

end IsStretch

/-- The fraction that a word stands for is not rounded, and it is at most the greatest one. -/
theorem real_fraction_word (word : UInt64) :
    Within 0 (real greatestFraction)
        (Scalar.ofNat (word >>> 12).toNat / Scalar.ofNat 4503599627370496 : Float) ∧
      real (Scalar.ofNat (word >>> 12).toNat / Scalar.ofNat 4503599627370496 : Float) =
        (word >>> 12).toNat * 2 ^ (-(52 : ℤ)) := by
  have hlt := UniformStream.toNat_shiftRight_lt word
  obtain ⟨k, hk⟩ : ∃ k, (word >>> 12).toNat = k := ⟨_, rfl⟩
  rw [hk] at hlt ⊢
  obtain ⟨hfinite, hreal⟩ := real_ofNat_div (k := 52) (d := 4503599627370496)
    (hlt.trans (by norm_num)) (by norm_num) (by norm_num)
  have hle : (k : ℝ) ≤ 4503599627370495 := by exact_mod_cast Nat.le_pred_of_lt hlt
  refine ⟨⟨hfinite, ?_, ?_⟩, hreal⟩
  · rw [hreal]
    positivity
  · rw [hreal, real_greatestFraction.2]
    norm_num
    linarith

end Double

namespace UniformStream

variable {lo hi : Float}

/-- Samples of doubles lie in their half-open range, whatever two roundings do to them.

A word gives `u * s + lo`, where the fraction `u` is its upper 52 bits in units of `2 ^ (-52)` and
`s` is the width: of all doubles up to the rounded `hi - lo` the greatest one that keeps the sample
of the greatest fraction below `hi`. -/
theorem samples_half_open (h : accepts lo hi = true) :
    (∃ s, UniformScalar.stretch lo hi = s ∧ 0.0 ≤ s ∧ s ≤ hi - lo ∧ s * greatestFraction + lo < hi ∧
      (∀ d, s < d → d ≤ hi - lo → hi ≤ d * greatestFraction + lo) ∧
      ∀ word : UInt64, ∃ u, real u = (word >>> 12).toNat * 2 ^ (-(52 : ℤ)) ∧
        sample lo s word = u * s + lo ∧ lo ≤ sample lo s word ∧ sample lo s word < hi) ∧
    ∀ (stream : UniformStream) (n : ℕ), fitsSamples n = true →
      ∃ values, (stream.draw n lo hi).1 = .ok values ∧ values.length = n ∧
        ∀ x ∈ values, lo ≤ x ∧ x < hi := by
  obtain ⟨hlo, hhi, hwidth, -⟩ := Double.isFinite_of_accepts h
  have hstretch := Double.isStretch h
  have hsample (word : UInt64) := hstretch.sample_mem hlo hhi (Double.real_fraction_word word).1
  refine ⟨⟨_, rfl, ?_, ?_, ?_, ?_, ?_⟩, ?_⟩
  · refine (BinaryScalar.le_iff_real Double.real_zero.1 hstretch.isFinite).mpr ?_
    rw [Double.real_zero.2]
    exact hstretch.nonneg
  · exact (BinaryScalar.le_iff_real hstretch.isFinite hwidth).mpr hstretch.le
  · rw [Double.mul_swap]
    exact (hstretch.sample_mem hlo hhi Double.within_greatestFraction).2
  · intro d hsd hdw
    have hd := BinaryScalar.isFinite_of_le_of_le hstretch.isFinite hwidth
      (BinaryScalar.le_of_lt hsd) hdw
    exact hstretch.reached d hd ((BinaryScalar.lt_iff_real hstretch.isFinite hd).mp hsd)
      ((BinaryScalar.le_iff_real hd hwidth).mp hdw)
  · intro word
    exact ⟨_, (Double.real_fraction_word word).2, rfl, hsample word⟩
  · intro stream n hn
    rw [draw_eq stream n h, if_pos hn]
    refine ⟨_, rfl, by simp, ?_⟩
    intro x hx
    obtain ⟨i, -, rfl⟩ := List.mem_map.mp hx
    exact hsample _

/-- The full width of this range is a double, but with it the greatest fraction would reach the
end. -/
theorem samples_half_open_shrunk :
    accepts (3.0 : Float) 4.0 = true ∧ 4.0 ≤ (4.0 - 3.0 : Float) * greatestFraction + 3.0 ∧
      ∀ word : UInt64, 3.0 ≤ sample 3.0 (UniformScalar.stretch 3.0 4.0 : Float) word ∧
        sample 3.0 (UniformScalar.stretch 3.0 4.0 : Float) word < 4.0 := by
  have haccepts : accepts (3.0 : Float) 4.0 = true := rfl
  obtain ⟨⟨s, hs, -, -, -, -, hsample⟩, -⟩ := samples_half_open haccepts
  refine ⟨haccepts, rfl, fun word => ?_⟩
  obtain ⟨u, -, -, hmem⟩ := hsample word
  rw [hs]
  exact hmem

end UniformStream

end SphereCloud
