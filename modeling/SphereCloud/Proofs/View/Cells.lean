import SphereCloud.Proofs.Basic
import SphereCloud.Proofs.View.Painting

/-!
The cells of a grid in a picture, the pixels at their rims, and the dots in them.
-/

namespace SphereCloud

/-- Sizes of a picture that can be measured in words and kept in memory. -/
structure Fits (width height : Nat) : Prop where
  width_word : fitsWord width
  height_word : fitsWord height
  pixels_memory : fitsMemory 4 (width * height)

theorem fitsWord_of_le {n m : Nat} (h : n ≤ m) (hm : fitsWord m) : fitsWord n := by
  simp only [fitsWord, decide_eq_true_eq] at hm ⊢
  exact Nat.lt_of_le_of_lt h hm

theorem measured_of_le {n m : Nat} (h : n ≤ m) (hm : fitsWord m) : measured n = .ok n := by
  rw [measured, if_pos (fitsWord_of_le h hm)]

/-- There is room behind a pixel of a picture to count on. -/
theorem Fits.measured_add_two {width height x y : Nat} (h : Fits width height) (hx : x < width)
    (hy : y < height) : measured (x + 2) = .ok (x + 2) ∧ measured (y + 2) = .ok (y + 2) := by
  have hmemory := h.pixels_memory
  simp only [fitsMemory, decide_eq_true_eq] at hmemory
  have hwidth : width ≤ width * height := Nat.le_mul_of_pos_right width (Nat.zero_lt_of_lt hy)
  have hheight : height ≤ width * height := Nat.le_mul_of_pos_left height (Nat.zero_lt_of_lt hx)
  have hword : fitsWord (2 ^ 63) := by decide
  exact ⟨measured_of_le (by omega) hword, measured_of_le (by omega) hword⟩

namespace Cell

theorem isEmpty_eq_false {c : Cell} : c.isEmpty = false ↔ 0 < c.width ∧ 0 < c.height := by
  simp only [isEmpty, Bool.or_eq_false_iff, decide_eq_false_iff_not]
  omega

def Contains (c : Cell) (px py : Nat) : Prop :=
  (c.x ≤ px ∧ px < c.x + c.width) ∧ (c.y ≤ py ∧ py < c.y + c.height)

instance (c : Cell) (px py : Nat) : Decidable (c.Contains px py) :=
  inferInstanceAs (Decidable (_ ∧ _))

/-- Whether a pixel is the first or the last of the cell in its row or in its column. -/
def OnRim (c : Cell) (px py : Nat) : Prop :=
  c.Contains px py ∧
    ((px = c.x ∨ px + 1 = c.x + c.width) ∨ (py = c.y ∨ py + 1 = c.y + c.height))

instance (c : Cell) (px py : Nat) : Decidable (c.OnRim px py) :=
  inferInstanceAs (Decidable (_ ∧ _))

structure Within (c : Cell) (width height : Nat) : Prop where
  right : c.x + c.width ≤ width
  bottom : c.y + c.height ≤ height

/-- The cell in a row and a column of a grid, where a division by zero is zero. -/
def inGrid (width height rowCount columnCount row column : Nat) : Cell :=
  ⟨column * (width / columnCount), row * (height / rowCount), width / columnCount,
    height / rowCount⟩

/-- Equal parts of a length are within it. -/
theorem part_le {n k i : Nat} (h : i < k) : i * (n / k) + n / k ≤ n := by
  calc i * (n / k) + n / k
      = (i + 1) * (n / k) := (Nat.succ_mul i (n / k)).symm
    _ ≤ k * (n / k) := Nat.mul_le_mul_right _ h
    _ ≤ n := Nat.mul_div_le n k

variable {width height rowCount columnCount row column : Nat}

theorem within_inGrid (hrow : row < rowCount) (hcolumn : column < columnCount) :
    (inGrid width height rowCount columnCount row column).Within width height :=
  ⟨part_le hcolumn, part_le hrow⟩

theorem ofGrid_eq_ok (hwidth : fitsWord width) (hheight : fitsWord height) (hrow : row < rowCount)
    (hcolumn : column < columnCount) :
    ofGrid width height rowCount columnCount row column =
      .ok (inGrid width height rowCount columnCount row column) := by
  have hwithin : (inGrid width height rowCount columnCount row column).Within width height :=
    within_inGrid hrow hcolumn
  have hx : column * (width / columnCount) ≤ width := Nat.le_of_add_right_le hwithin.right
  have hy : row * (height / rowCount) ≤ height := Nat.le_of_add_right_le hwithin.bottom
  rw [ofGrid, if_neg (by omega), measured_of_le hx hwidth, ok_bind, measured_of_le hy hheight]
  rfl

/-- A pixel tells the row and the column of the cell it is in. -/
theorem place_of_contains {px py : Nat}
    (h : (inGrid width height rowCount columnCount row column).Contains px py) :
    row = py / (height / rowCount) ∧ column = px / (width / columnCount) := by
  obtain ⟨⟨hleft, hright⟩, htop, hbottom⟩ := h
  simp only [inGrid, ← Nat.succ_mul] at hleft hright htop hbottom
  exact ⟨(Nat.div_eq_of_lt_le htop hbottom).symm, (Nat.div_eq_of_lt_le hleft hright).symm⟩

variable {c : Cell}

/-- The border of a cell is its rim. -/
theorem border_eq_ok (hfits : Fits width height) (hwithin : c.Within width height) :
    ∃ places, c.border width (width * height) = .ok places ∧
      Traces places width height c.OnRim := by
  obtain ⟨hright, hbottom⟩ := hwithin
  rw [border]
  cases hempty : c.isEmpty with
  | true =>
    refine ⟨[], rfl, ⟨by simp, fun px _ py _ => ?_⟩⟩
    have hnone : ¬c.OnRim px py := by
      simp only [isEmpty, Bool.or_eq_true, decide_eq_true_eq] at hempty
      rintro ⟨⟨hx, hy⟩, -⟩
      omega
    simp [hnone]
  | false =>
    obtain ⟨hwidth, hheight⟩ := isEmpty_eq_false.mp hempty
    -- Only the last pixel of the cell is compared with the size of the picture.
    have hlast : (c.y + c.height - 1) * width + (c.x + c.width - 1) < width * height :=
      place_lt (by omega) (by omega)
    rw [right, bottom, measured_of_le hright hfits.width_word,
      measured_of_le hbottom hfits.height_word]
    simp only [Bool.false_eq_true, if_false, ok_bind, if_neg (Nat.not_le.mpr hlast)]
    have hrim : Traces
        (rectangle width c.x c.y c.width 1 ++ rectangle width c.x (c.y + c.height - 1) c.width 1 ++
          rectangle width c.x c.y 1 c.height ++ rectangle width (c.x + c.width - 1) c.y 1 c.height)
        width height _ :=
      (((Traces.rectangle hright (by omega)).append (Traces.rectangle hright (by omega))).append
        (Traces.rectangle (by omega) hbottom)).append (Traces.rectangle (by omega) hbottom)
    refine ⟨_, rfl, hrim.congr fun px py => ?_⟩
    unfold OnRim Contains
    omega

/-- The dot at a pixel of a cell is the part in the cell of a square of four pixels. -/
theorem dot_eq_ok {x y : Nat} (hfits : Fits width height) (hwithin : c.Within width height)
    (hc : c.Contains x y) :
    ∃ places, c.dot width x y = .ok places ∧ Traces places width height fun px py =>
      (px = x ∨ px = x + 1) ∧ (py = y ∨ py = y + 1) ∧ c.Contains px py := by
  obtain ⟨hright, hbottom⟩ := hwithin
  obtain ⟨hx, hy⟩ := hc
  obtain ⟨hx2, hy2⟩ := hfits.measured_add_two (Nat.lt_of_lt_of_le hx.2 hright)
    (Nat.lt_of_lt_of_le hy.2 hbottom)
  rw [dot, right, bottom, measured_of_le hright hfits.width_word,
    measured_of_le hbottom hfits.height_word, hx2, hy2]
  refine ⟨_, rfl, (Traces.rectangle ?_ ?_).congr fun px py => ?_⟩
  · omega
  · omega
  · unfold Contains
    omega

variable {α : Type} [Scalar α]

/-- Where a point is seen, from minus one to one to the right and to the top, if it is in view. -/
def sight (projection : Mat4 α) (point : Vec3 α) : Option (α × α) :=
  let clip := projection.apply ⟨point.x, point.y, point.z, 1.0⟩
  let u := clip.x / clip.w
  let v := clip.y / clip.w
  if Scalar.le clip.w 0.0 then none
  else if Scalar.lt 1.0 (Scalar.abs u) || Scalar.lt 1.0 (Scalar.abs v) then none
  else some (u, v)

theorem landing_eq (c : Cell) (projection : Mat4 α) (point : Vec3 α) :
    c.landing projection point =
      match sight projection point with
      | none => .ok none
      | some (u, v) =>
        if c.isEmpty then .error .noPixels
        else do
          let column := Scalar.toNat ((u * 0.5 + 0.5) * Scalar.ofNat c.width)
          let row := Scalar.toNat ((0.5 - v * 0.5) * Scalar.ofNat c.height)
          let x ← measured (c.x + min column (c.width - 1))
          let y ← measured (c.y + min row (c.height - 1))
          return some (x, y) := by
  simp only [landing, sight]
  by_cases hbehind : Scalar.le (projection.apply ⟨point.x, point.y, point.z, 1.0⟩).w 0.0 = true
  · simp only [if_pos hbehind]
  · simp only [if_neg hbehind]
    split
    · rfl
    · rfl

variable {projection : Mat4 α} {point : Vec3 α}

/-- A place that is seen has the pixel of the cell next to it, if words can place that. -/
theorem landing_of_sight {u v : α} (hempty : c.isEmpty = false)
    (hsight : sight projection point = some (u, v)) :
    let column := min (Scalar.toNat ((u * 0.5 + 0.5) * Scalar.ofNat c.width)) (c.width - 1)
    let row := min (Scalar.toNat ((0.5 - v * 0.5) * Scalar.ofNat c.height)) (c.height - 1)
    c.landing projection point =
      if fitsWord (c.x + column) && fitsWord (c.y + row) then .ok (some (c.x + column, c.y + row))
      else .error .tooLarge := by
  intro column row
  rw [landing_eq, hsight]
  simp only [hempty, Bool.false_eq_true, if_false, measured]
  cases fitsWord (c.x + column) with
  | false => rfl
  | true => cases fitsWord (c.y + row) <;> rfl

theorem landing_eq_none_iff (hempty : c.isEmpty = false) :
    c.landing projection point = .ok none ↔ sight projection point = none := by
  cases hsight : sight projection point with
  | none => simp only [landing_eq, hsight]
  | some place =>
    rw [landing_of_sight hempty hsight]
    split <;> simp

/-- Whatever the coordinates of a point are, it lands in the cell or not at all. -/
theorem contains_of_landing {x y : Nat} (h : c.landing projection point = .ok (some (x, y))) :
    c.Contains x y := by
  cases hsight : sight projection point with
  | none => simp [landing_eq, hsight] at h
  | some place =>
    cases hempty : c.isEmpty with
    | true => simp [landing_eq, hsight, hempty] at h
    | false =>
      obtain ⟨hwidth, hheight⟩ := isEmpty_eq_false.mp hempty
      rw [landing_of_sight hempty hsight] at h
      split at h
      · cases h
        unfold Contains
        omega
      · cases h

/-- A cell with a last pixel that words can place gives a landing to every point. -/
theorem landing_eq_ok (hempty : c.isEmpty = false) (hright : fitsWord (c.x + c.width - 1))
    (hbottom : fitsWord (c.y + c.height - 1)) :
    ∃ place, c.landing projection point = .ok place := by
  obtain ⟨hwidth, hheight⟩ := isEmpty_eq_false.mp hempty
  cases hsight : sight projection point with
  | none => exact ⟨none, by rw [landing_eq, hsight]⟩
  | some place =>
    rw [landing_of_sight hempty hsight, fitsWord_of_le (by omega) hright,
      fitsWord_of_le (by omega) hbottom]
    exact ⟨_, rfl⟩

theorem landing_of_within (hfits : Fits width height) (hempty : c.isEmpty = false)
    (hwithin : c.Within width height) (projection : Mat4 α) (point : Vec3 α) :
    ∃ place, c.landing projection point = .ok place :=
  landing_eq_ok hempty (fitsWord_of_le (Nat.le_trans (Nat.sub_le _ 1) hwithin.right)
    hfits.width_word)
    (fitsWord_of_le (Nat.le_trans (Nat.sub_le _ 1) hwithin.bottom) hfits.height_word)

end Cell

end SphereCloud
