import SphereCloud.Proofs.View.Cells

/-!
The cells of a grid as tiles of a picture: no pixel is in two of them, and the pixels that are in
none are at the right and at the bottom.
-/

namespace SphereCloud.Cell

variable {width height rowCount columnCount row column px py : Nat}

def HasPixel (width height rowCount columnCount row column px py : Nat) : Prop :=
  (row < rowCount ∧ column < columnCount) ∧
    ∃ c, ofGrid width height rowCount columnCount row column = .ok c ∧ c.Contains px py

/-- In the equal parts of a length each place is in the part that the division gives. -/
theorem mem_part_of_lt {d k p : Nat} (h : p < k * d) :
    p / d < k ∧ p / d * d ≤ p ∧ p < p / d * d + d := by
  have hd : 0 < d := Nat.pos_of_lt_mul_left h
  exact ⟨(Nat.div_lt_iff_lt_mul hd).mpr h, Nat.div_mul_le_self p d, Nat.lt_div_mul_add hd⟩

theorem lt_of_mem_part {d k i p : Nat} (hi : i < k) (hp : p < i * d + d) : p < k * d := by
  calc p < (i + 1) * d := by rwa [Nat.succ_mul]
    _ ≤ k * d := Nat.mul_le_mul_right d hi

/-- A pixel is in a cell as far as the cells reach, and then its row and its column are
quotients. -/
theorem hasPixel_iff (hwidth : fitsWord width) (hheight : fitsWord height) :
    HasPixel width height rowCount columnCount row column px py ↔
      (px < columnCount * (width / columnCount) ∧ py < rowCount * (height / rowCount)) ∧
        row = py / (height / rowCount) ∧ column = px / (width / columnCount) := by
  constructor
  · rintro ⟨⟨hrow, hcolumn⟩, c, hc, hcontains⟩
    rw [ofGrid_eq_ok hwidth hheight hrow hcolumn] at hc
    cases hc
    have hplace := place_of_contains hcontains
    obtain ⟨⟨-, hright⟩, -, hbottom⟩ := hcontains
    exact ⟨⟨lt_of_mem_part hcolumn hright, lt_of_mem_part hrow hbottom⟩, hplace⟩
  · rintro ⟨⟨hx, hy⟩, rfl, rfl⟩
    obtain ⟨hcolumn, hleft, hright⟩ := mem_part_of_lt hx
    obtain ⟨hrow, htop, hbottom⟩ := mem_part_of_lt hy
    have hcell := ofGrid_eq_ok hwidth hheight hrow hcolumn
    exact ⟨⟨hrow, hcolumn⟩, _, hcell, ⟨hleft, hright⟩, htop, hbottom⟩

/-- The cells of a grid divide a picture of any size.

They have one size and are within the picture. A pixel that they reach to is in exactly one of them,
in the row and the column that the divisions by this size give; the others are in none. These form a
strip at the right, which has fewer columns than the grid, and a strip at the bottom, which has
fewer rows. -/
theorem grid_divides_picture (hwidth : fitsWord width) (hheight : fitsWord height)
    (hrows : 0 < rowCount) (hcolumns : 0 < columnCount) :
    (∀ row < rowCount, ∀ column < columnCount, ∃ c,
      ofGrid width height rowCount columnCount row column = .ok c ∧
        c.width = width / columnCount ∧ c.height = height / rowCount ∧ c.Within width height) ∧
    (∀ px < columnCount * (width / columnCount), ∀ py < rowCount * (height / rowCount),
      ∀ row column, HasPixel width height rowCount columnCount row column px py ↔
        row = py / (height / rowCount) ∧ column = px / (width / columnCount)) ∧
    (∀ px py, columnCount * (width / columnCount) ≤ px ∨ rowCount * (height / rowCount) ≤ py →
      ∀ row column, ¬HasPixel width height rowCount columnCount row column px py) ∧
    (columnCount * (width / columnCount) ≤ width ∧
      width < columnCount * (width / columnCount) + columnCount) ∧
    rowCount * (height / rowCount) ≤ height ∧
      height < rowCount * (height / rowCount) + rowCount := by
  refine ⟨?_, ?_, ?_, ⟨Nat.mul_div_le _ _, Nat.lt_mul_div_succ width hcolumns⟩, Nat.mul_div_le _ _,
    Nat.lt_mul_div_succ height hrows⟩
  · intro row hrow column hcolumn
    exact ⟨_, ofGrid_eq_ok hwidth hheight hrow hcolumn, rfl, rfl, within_inGrid hrow hcolumn⟩
  · intro px hx py hy row column
    rw [hasPixel_iff hwidth hheight, and_iff_right ⟨hx, hy⟩]
  · intro px py hbeyond row column hpixel
    obtain ⟨⟨hx, hy⟩, -⟩ := (hasPixel_iff hwidth hheight).mp hpixel
    omega

/-- Seven rows are too many for a picture of six: no pixel of it is in a cell. Two rows take all of
them, and three columns take nine of the ten. -/
theorem grid_divides_picture_ten_by_six :
    (fitsWord 10 ∧ fitsWord 6 ∧ 0 < 7 ∧ 0 < 2 ∧ 0 < 3) ∧
      (∀ row column px py, ¬HasPixel 10 6 7 3 row column px py) ∧
      (∀ row column, HasPixel 10 6 2 3 row column 8 2 ↔ row = 0 ∧ column = 2) ∧
      ∀ row column, ¬HasPixel 10 6 2 3 row column 9 2 := by
  have hwidth : fitsWord 10 := by decide
  have hheight : fitsWord 6 := by decide
  obtain ⟨-, -, hnone, -⟩ :=
    grid_divides_picture hwidth hheight (by decide : 0 < 7) (by decide : 0 < 3)
  obtain ⟨-, htiles, hstrip, -⟩ :=
    grid_divides_picture hwidth hheight (by decide : 0 < 2) (by decide : 0 < 3)
  refine ⟨⟨hwidth, hheight, by decide, by decide, by decide⟩, ?_, ?_, ?_⟩
  · exact fun row column px py => hnone px py (.inr (Nat.zero_le py)) row column
  · exact htiles 8 (by decide) 2 (by decide)
  · exact hstrip 9 2 (.inl (by decide))

end SphereCloud.Cell
