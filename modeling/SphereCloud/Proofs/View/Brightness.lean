import SphereCloud.Proofs.Binary.NearestByte
import SphereCloud.View.Picture

/-!
The pixel of a color whose brightness is scaled. Its three bytes are made one by one from those of
the color, each of them grows with its byte and with the intensity, and the intensity 1 changes
none.
-/

namespace SphereCloud

open BinaryScalar (real unpack IsNumber)

def brighten (byte : UInt8) (intensity : Float32) : UInt8 :=
  Binary.nearestByte (byte.toFloat32 * intensity)

namespace Single

/-- Bytes are not rounded. -/
theorem real_byte (b : UInt8) :
    Scalar.isFinite b.toFloat32 = true ∧ real b.toFloat32 = b.toNat := by
  have hunpack : unpack b.toFloat32 = Binary.written .binary32 (.ofNat .binary32 b.toNat) := rfl
  have hnearest : Binary.Nearest (BinaryScalar.format Float32) _ _ :=
    Binary.normalize_nearest b.toNat 0 .positive
  have hrepresentable :
      Binary.Representable (BinaryScalar.format Float32) (b.toNat * 2 ^ (0 : ℤ)) :=
    Binary.representable_natCast_mul (b.toNat_lt.trans (by decide)) (by decide) (by decide)
  rw [zpow_zero, mul_one, Int.cast_natCast] at hnearest
  rw [zpow_zero, mul_one] at hrepresentable
  exact (BinaryScalar.rounds_written hnearest hunpack).exact hrepresentable

variable {x y : Float32}

/-- Above a number from zero on only the upper infinity is not finite. -/
theorem unpack_eq_infinity (hx : Scalar.le 0.0 x = true) (h : Scalar.le x y = true)
    (hy : ¬Scalar.isFinite y = true) : unpack y = .infinity .positive := by
  rw [BinaryScalar.le] at h
  rw [BinaryScalar.isFinite] at hy
  refine Binary.eq_infinity_of_le h ?_ hy
  intro hlow
  rw [BinaryScalar.le, hlow] at hx
  cases hx

end Single

section Brighten

variable {b c : UInt8} {i j : Float32}

/-- Zero stays zero: with an infinite intensity the product is no number. -/
theorem brighten_zero (i : Float32) : brighten 0 i = 0 := by
  obtain ⟨hbyte, hbyte_real⟩ := Single.real_byte 0
  rw [UInt8.toNat_zero, Nat.cast_zero] at hbyte_real
  by_cases hi : Scalar.isFinite i = true
  · obtain ⟨hproduct, hreal⟩ := BinaryScalar.mul_of_eq_zero hbyte hi (by rw [hbyte_real, zero_mul])
    exact Single.nearestByte_of_real_eq hproduct (by rw [hreal, UInt8.toNat_zero, Nat.cast_zero])
  · have hzero : unpack (0 : UInt8).toFloat32 = .zero .positive := rfl
    apply Single.nearestByte_of_not_number
    rw [BinaryScalar.isFinite] at hi
    rw [IsNumber, BinaryScalar.mul, hzero, not_not]
    rcases hu : unpack i with s | _ | s | ⟨s, m, e, hm⟩ <;> rw [hu] at hi
    case infinity => exact Binary.written_eq_fit trivial
    case notANumber => exact Binary.written_eq_fit trivial
    case zero => exact absurd rfl hi
    case finite => exact absurd rfl hi

theorem brighten_of_infinity (hb : b ≠ 0) (hi : unpack i = .infinity .positive) :
    brighten b i = 255 := by
  obtain ⟨hbyte, hbyte_real⟩ := Single.real_byte b
  have hpos : 0 < real b.toFloat32 := by
    rw [hbyte_real, Nat.cast_pos, Nat.pos_iff_ne_zero]
    exact fun hzero => hb (UInt8.toNat_inj.mp hzero)
  obtain ⟨m, e, hm, hunpack⟩ := BinaryScalar.exists_unpack_of_pos hbyte hpos
  apply Single.nearestByte_of_infinity
  rw [BinaryScalar.mul, hunpack, hi]
  exact Binary.written_eq_fit trivial

theorem brighten_one (b : UInt8) : brighten b 1.0 = b := by
  obtain ⟨hbyte, hbyte_real⟩ := Single.real_byte b
  have hproduct := BinaryScalar.rounds_mul hbyte Single.real_one.1
  rw [Single.real_one.2, mul_one] at hproduct
  obtain ⟨hfinite, hreal⟩ := hproduct.exact (BinaryScalar.representable_real _)
  exact Single.nearestByte_of_real_eq hfinite (hreal.trans hbyte_real)

theorem brighten_le_of_intensity_le (b : UInt8) (hi : Scalar.le 0.0 i = true)
    (h : Scalar.le i j = true) : brighten b i ≤ brighten b j := by
  by_cases hb : b = 0
  · rw [hb, brighten_zero, brighten_zero]
    exact UInt8.le_refl 0
  by_cases hfinite : Scalar.isFinite j = true
  · obtain ⟨hbyte, hbyte_real⟩ := Single.real_byte b
    have hfinite' := BinaryScalar.isFinite_of_le_of_le Single.real_zero.1 hfinite hi h
    have hreal : real i ≤ real j := (BinaryScalar.le_iff_real hfinite' hfinite).mp h
    exact Single.nearestByte_le_nearestByte (BinaryScalar.mul_le_mul_left hbyte hfinite' hfinite
      (hbyte_real ▸ Nat.cast_nonneg _) hreal)
  · rw [brighten_of_infinity hb (Single.unpack_eq_infinity hi h hfinite)]
    exact UInt8.le_iff_toNat_le.mpr (Nat.le_of_lt_succ (UInt8.toNat_lt _))

theorem brighten_le_of_byte_le (hi : Scalar.le 0.0 i = true) (h : b ≤ c) :
    brighten b i ≤ brighten c i := by
  by_cases hfinite : Scalar.isFinite i = true
  · obtain ⟨hbyte, hbyte_real⟩ := Single.real_byte b
    obtain ⟨hbyte', hbyte_real'⟩ := Single.real_byte c
    have hnonneg : 0 ≤ real i := (BinaryScalar.le_iff_real Single.real_zero.1 hfinite).mp hi
    have hreal : real b.toFloat32 ≤ real c.toFloat32 := by
      rw [hbyte_real, hbyte_real', Nat.cast_le]
      exact UInt8.le_iff_toNat_le.mp h
    exact Single.nearestByte_le_nearestByte
      (BinaryScalar.mul_le_mul_right hfinite hbyte hbyte' hnonneg hreal)
  by_cases hb : b = 0
  · rw [hb, brighten_zero]
    exact UInt8.zero_le
  · have hc : c ≠ 0 := fun hc => hb (UInt8.le_antisymm (hc ▸ h) UInt8.zero_le)
    have hinfinity := Single.unpack_eq_infinity rfl hi hfinite
    rw [brighten_of_infinity hb hinfinity, brighten_of_infinity hc hinfinity]
    exact UInt8.le_refl 255

theorem brighten_le (b : UInt8) (hi : Scalar.le 0.0 i = true) (h : Scalar.le i 1.0 = true) :
    brighten b i ≤ b := by
  have hle := brighten_le_of_intensity_le b hi h
  rwa [brighten_one] at hle

end Brighten

inductive Primary where
  | red
  | green
  | blue

namespace Primary

/-- Where the byte of a color starts in a pixel `0x00RRGGBB`. -/
def place : Primary → UInt32
  | red => 16
  | green => 8
  | blue => 0

def ofPixel (p : Primary) (pixel : UInt32) : UInt8 :=
  (pixel >>> p.place).toUInt8

/-- A color `0xRRGGBBAA` has one more byte behind those of a pixel. -/
def ofColor (p : Primary) (rgba : UInt32) : UInt8 :=
  p.ofPixel (rgba >>> 8)

theorem toNat_ofPixel (p : Primary) (pixel : UInt32) :
    (p.ofPixel pixel).toNat = pixel.toNat / 2 ^ p.place.toNat % 256 := by
  cases p <;> simp [ofPixel, place, Nat.shiftRight_eq_div_pow]

theorem toNat_eq_sum {pixel : UInt32} (h : pixel < 0x1000000) :
    pixel.toNat = (red.ofPixel pixel).toNat * 65536 + (green.ofPixel pixel).toNat * 256 +
      (blue.ofPixel pixel).toNat := by
  have hlt : pixel.toNat < 16777216 := UInt32.lt_iff_toNat_lt.mp h
  simp only [toNat_ofPixel, place, UInt32.reduceToNat]
  omega

/-- A pixel has no bytes but those of its colors. -/
theorem eq_of_ofPixel_eq {pixel pixel' : UInt32} (h : pixel < 0x1000000) (h' : pixel' < 0x1000000)
    (hbytes : ∀ p : Primary, p.ofPixel pixel = p.ofPixel pixel') : pixel = pixel' := by
  rw [← UInt32.toNat_inj, toNat_eq_sum h, toNat_eq_sum h', hbytes, hbytes, hbytes]

end Primary

open Primary (red green blue)

/-- Bytes that are shifted side by side do not overlap. -/
theorem toNat_pack (r g b : UInt8) :
    (r.toUInt32 <<< 16 ||| g.toUInt32 <<< 8 ||| b.toUInt32).toNat =
      r.toNat * 65536 + g.toNat * 256 + b.toNat := by
  have hr := r.toNat_lt
  have hg := g.toNat_lt
  have hb := b.toNat_lt
  have hred : r.toNat <<< 16 % 2 ^ 32 = r.toNat <<< 16 := by
    rw [Nat.shiftLeft_eq]
    omega
  have hgreen : g.toNat <<< 8 % 2 ^ 32 = g.toNat <<< 8 := by
    rw [Nat.shiftLeft_eq]
    omega
  have hlow : g.toNat <<< 8 + b.toNat < 2 ^ 16 := by
    rw [Nat.shiftLeft_eq]
    omega
  calc (r.toUInt32 <<< 16 ||| g.toUInt32 <<< 8 ||| b.toUInt32).toNat
      = r.toNat <<< 16 ||| g.toNat <<< 8 ||| b.toNat := by
        simp only [UInt32.toNat_or, UInt32.toNat_shiftLeft, UInt8.toNat_toUInt32,
          UInt32.reduceToNat]
        rw [hred, hgreen]
    _ = r.toNat <<< 16 + (g.toNat <<< 8 + b.toNat) := by
        rw [Nat.or_assoc, ← Nat.shiftLeft_add_eq_or_of_lt hb, ← Nat.shiftLeft_add_eq_or_of_lt hlow]
    _ = r.toNat * 65536 + g.toNat * 256 + b.toNat := by
        rw [Nat.shiftLeft_eq, Nat.shiftLeft_eq, Nat.add_assoc]

theorem pixelOf_eq (rgba : UInt32) (i : Float32) :
    pixelOf rgba i = (brighten (red.ofColor rgba) i).toUInt32 <<< 16 |||
      (brighten (green.ofColor rgba) i).toUInt32 <<< 8 |||
        (brighten (blue.ofColor rgba) i).toUInt32 := by
  have hlow (w : UInt32) : (w &&& 0xFF).toUInt8 = w.toUInt8 := by
    rw [UInt32.toUInt8_and]
    exact UInt8.and_neg_one
  have hred : rgba >>> 8 >>> 16 = rgba >>> 24 := by
    rw [← UInt32.toNat_inj]
    simp [← Nat.shiftRight_add]
  have hgreen : rgba >>> 8 >>> 8 = rgba >>> 16 := by
    rw [← UInt32.toNat_inj]
    simp [← Nat.shiftRight_add]
  simp only [pixelOf, brighten, Primary.ofColor, Primary.ofPixel, Primary.place, hlow, hred, hgreen,
    UInt32.shiftRight_zero]

section Pixel

variable (rgba : UInt32) (i : Float32)

theorem toNat_pixelOf :
    (pixelOf rgba i).toNat = (brighten (red.ofColor rgba) i).toNat * 65536 +
      (brighten (green.ofColor rgba) i).toNat * 256 + (brighten (blue.ofColor rgba) i).toNat := by
  rw [pixelOf_eq, toNat_pack]

theorem pixelOf_lt : pixelOf rgba i < 0x1000000 := by
  have hr := (brighten (red.ofColor rgba) i).toNat_lt
  have hg := (brighten (green.ofColor rgba) i).toNat_lt
  have hb := (brighten (blue.ofColor rgba) i).toNat_lt
  rw [UInt32.lt_iff_toNat_lt, toNat_pixelOf]
  change _ < 16777216
  omega

/-- Each byte of a pixel is that of the color, brightened. -/
theorem ofPixel_pixelOf (p : Primary) :
    p.ofPixel (pixelOf rgba i) = brighten (p.ofColor rgba) i := by
  have hr := (brighten (red.ofColor rgba) i).toNat_lt
  have hg := (brighten (green.ofColor rgba) i).toNat_lt
  have hb := (brighten (blue.ofColor rgba) i).toNat_lt
  rw [← UInt8.toNat_inj, Primary.toNat_ofPixel, toNat_pixelOf]
  cases p <;> simp only [Primary.place, UInt32.reduceToNat] <;> omega

/-- Colors with the same three bytes before the last one have the same pixel. -/
theorem pixelOf_eq_pixelOf {rgba' : UInt32} (h : rgba >>> 8 = rgba' >>> 8) :
    pixelOf rgba i = pixelOf rgba' i := by
  apply Primary.eq_of_ofPixel_eq (pixelOf_lt rgba i) (pixelOf_lt rgba' i)
  intro p
  rw [ofPixel_pixelOf, ofPixel_pixelOf, Primary.ofColor, Primary.ofColor, h]

theorem pixelOf_one : pixelOf rgba 1.0 = rgba >>> 8 := by
  have hcolor : rgba >>> 8 < 0x1000000 := by
    have hlt := rgba.toNat_lt
    rw [UInt32.lt_iff_toNat_lt, UInt32.toNat_shiftRight, Nat.shiftRight_eq_div_pow]
    change rgba.toNat / 256 < 16777216
    omega
  apply Primary.eq_of_ofPixel_eq (pixelOf_lt rgba 1.0) hcolor
  intro p
  rw [ofPixel_pixelOf, brighten_one, Primary.ofColor]

end Pixel

/-- The colors of a pixel are kept apart, whatever the intensity, also where it is infinite or no
number.

The byte before those of the colors is empty, and the last byte of the color is not read. Each byte
of the pixel depends on its own byte of the color and on the intensity alone. From the intensity
zero on it grows with both, up to the intensity 1 it does not exceed its byte of the color, and
there the pixel has the bytes of the color. -/
theorem pixelOf_keeps_channels :
    (∀ rgba i, pixelOf rgba i < 0x1000000) ∧
    (∀ (rgba rgba' : UInt32) i, rgba >>> 8 = rgba' >>> 8 → pixelOf rgba i = pixelOf rgba' i) ∧
    (∀ (p : Primary) rgba rgba' i, p.ofColor rgba = p.ofColor rgba' →
      p.ofPixel (pixelOf rgba i) = p.ofPixel (pixelOf rgba' i)) ∧
    (∀ (p : Primary) rgba rgba' (i : Float32), 0.0 ≤ i → p.ofColor rgba ≤ p.ofColor rgba' →
      p.ofPixel (pixelOf rgba i) ≤ p.ofPixel (pixelOf rgba' i)) ∧
    (∀ (p : Primary) rgba (i j : Float32), 0.0 ≤ i → i ≤ j →
      p.ofPixel (pixelOf rgba i) ≤ p.ofPixel (pixelOf rgba j)) ∧
    (∀ (p : Primary) rgba (i : Float32), 0.0 ≤ i → i ≤ 1.0 →
      p.ofPixel (pixelOf rgba i) ≤ p.ofColor rgba) ∧
    ∀ rgba, pixelOf rgba 1.0 = rgba >>> 8 := by
  refine ⟨pixelOf_lt, fun rgba rgba' i => pixelOf_eq_pixelOf rgba i, ?_, ?_, ?_, ?_, pixelOf_one⟩
  · intro p rgba rgba' i h
    rw [ofPixel_pixelOf, ofPixel_pixelOf, h]
  · intro p rgba rgba' i hi h
    rw [ofPixel_pixelOf, ofPixel_pixelOf]
    exact brighten_le_of_byte_le hi h
  · intro p rgba i j hi h
    rw [ofPixel_pixelOf, ofPixel_pixelOf]
    exact brighten_le_of_intensity_le _ hi h
  · intro p rgba i hi h
    rw [ofPixel_pixelOf]
    exact brighten_le _ hi h

/-- White and orange have the same red, and orange has less green. At the half intensity the red is
no more than at the full one, where orange stays as it is, be it transparent. -/
theorem pixelOf_keeps_channels_orange :
    (red.ofColor 0xFFFFFFFF = red.ofColor 0xFF8000FF ∧
      green.ofColor 0xFF8000FF ≤ green.ofColor 0xFFFFFFFF ∧
      (0.0 : Float32) ≤ 0.5 ∧ (0.5 : Float32) ≤ 1.0) ∧
      pixelOf 0xFF8000FF 0.5 = pixelOf 0xFF800000 0.5 ∧
      red.ofPixel (pixelOf 0xFFFFFFFF 0.5) = red.ofPixel (pixelOf 0xFF8000FF 0.5) ∧
      green.ofPixel (pixelOf 0xFF8000FF 0.5) ≤ green.ofPixel (pixelOf 0xFFFFFFFF 0.5) ∧
      red.ofPixel (pixelOf 0xFF8000FF 0.5) ≤ red.ofPixel (pixelOf 0xFF8000FF 1.0) ∧
      red.ofPixel (pixelOf 0xFF8000FF 0.5) ≤ red.ofColor 0xFF8000FF ∧
      pixelOf 0xFF800000 1.0 = 0xFF8000 := by
  have hred : red.ofColor 0xFFFFFFFF = red.ofColor 0xFF8000FF := by decide
  have hgreen : green.ofColor 0xFF8000FF ≤ green.ofColor 0xFFFFFFFF := by decide
  have hlow : (0.0 : Float32) ≤ 0.5 := rfl
  have hhigh : (0.5 : Float32) ≤ 1.0 := rfl
  obtain ⟨-, hopaque, hsame, hbyte, hintensity, hbound, hone⟩ := pixelOf_keeps_channels
  refine ⟨⟨hred, hgreen, hlow, hhigh⟩, hopaque _ _ _ (by decide), hsame red _ _ _ hred,
    hbyte green _ _ _ hlow hgreen, hintensity red _ _ _ hlow hhigh, hbound red _ _ hlow hhigh, ?_⟩
  rw [hone]
  decide

end SphereCloud
