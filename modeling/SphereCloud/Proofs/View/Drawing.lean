import Mathlib.Data.List.Basic
import SphereCloud.Proofs.Cloud.Labels
import SphereCloud.Proofs.View.Cells
import SphereCloud.View.Viewer

/-!
The image that a viewer draws: dots over the rims of cells over the background.
-/

namespace SphereCloud

/-- What a point leaves in a cell. -/
structure Dot where
  cell : Cell
  x : Nat
  y : Nat
  color : UInt32
  deriving DecidableEq, Repr

namespace Dot

/-- Whether a pixel is one of the four of a dot, and in its cell. -/
def Covers (d : Dot) (px py : Nat) : Prop :=
  (px = d.x ∨ px = d.x + 1) ∧ (py = d.y ∨ py = d.y + 1) ∧ d.cell.Contains px py

instance (d : Dot) (px py : Nat) : Decidable (d.Covers px py) :=
  inferInstanceAs (Decidable (_ ∧ _))

def lay (image : Image) (d : Dot) : Image := fun px py =>
  if d.Covers px py then d.color else image px py

def topmost (dots : List Dot) (px py : Nat) : Option Dot :=
  (dots.filter fun d => d.Covers px py).getLast?

theorem topmost_append (dots more : List Dot) (px py : Nat) :
    topmost (dots ++ more) px py = (topmost more px py).or (topmost dots px py) := by
  rw [topmost, List.filter_append, List.getLast?_append]
  rfl

theorem topmost_eq_none {dots : List Dot} {px py : Nat} :
    topmost dots px py = none ↔ ∀ d ∈ dots, ¬d.Covers px py := by
  rw [topmost, List.getLast?_eq_none_iff, List.filter_eq_nil_iff]
  simp

/-- Dots laid one over the other show the topmost one. -/
theorem foldl_lay (dots : List Dot) (image : Image) (px py : Nat) :
    dots.foldl lay image px py = ((topmost dots px py).map (·.color)).getD (image px py) := by
  induction dots generalizing image with
  | nil => rfl
  | cons d dots ih =>
    rw [List.foldl_cons, ih, ← List.singleton_append, topmost_append]
    cases topmost dots px py with
    | some top => rfl
    | none =>
      by_cases hd : d.Covers px py
      · simp [topmost, lay, hd]
      · simp [topmost, lay, hd]

end Dot

/-- An image with the rim of a cell on top. -/
def Cell.lay (image : Image) (c : Cell) : Image := fun px py =>
  if c.OnRim px py then borderColor else image px py

theorem Cell.foldl_lay (cells : List Cell) (image : Image) (px py : Nat) :
    cells.foldl lay image px py =
      if ∃ c ∈ cells, c.OnRim px py then borderColor else image px py := by
  induction cells generalizing image with
  | nil => simp
  | cons c cells ih =>
    rw [List.foldl_cons, ih]
    by_cases hc : c.OnRim px py
    · simp [lay, hc]
    · simp [lay, hc]

namespace Viewer

theorem mem_gridPlaces {rowCount columnCount : Nat} {place : Nat × Nat} :
    place ∈ gridPlaces rowCount columnCount ↔ place.1 < rowCount ∧ place.2 < columnCount := by
  obtain ⟨row, column⟩ := place
  simp [gridPlaces]

def cellAt (v : Viewer) (width height : Nat) (place : Nat × Nat) : Cell :=
  Cell.inGrid width height v.layout.rowCount v.layout.columnCount place.1 place.2

def cells (v : Viewer) (width height : Nat) : List Cell :=
  (gridPlaces v.layout.rowCount v.layout.columnCount).map (v.cellAt width height)

/-- The cell of a label, if it has one with pixels. -/
def cell? (v : Viewer) (width height : Nat) (label : String) : Option Cell :=
  ((v.layout.idxOf? label).map (v.cellAt width height)).filter (!·.isEmpty)

/-- The color of a position, dimmed if the angle between it and the camera is obtuse. -/
def tint (v : Viewer) (color : UInt32) (position : Vec3 Float) : UInt32 :=
  if Scalar.lt ((single position).dot v.camera.position) 0.0 then pixelOf color dimming
  else pixelOf color 1.0

def dot? (v : Viewer) (cell : Cell) (color : UInt32) (position : Vec3 Float) : Option Dot :=
  match cell.landing (v.camera.worldToClip (Scalar.ofNat cell.width / Scalar.ofNat cell.height))
    (single position) with
  | .ok (some (x, y)) => some ⟨cell, x, y, v.tint color position⟩
  | _ => none

def dotsOf (v : Viewer) (width height : Nat) (cloud : Cloud Float) : List Dot :=
  match v.cell? width height cloud.label with
  | none => []
  | some cell => cloud.positions.filterMap (v.dot? cell cloud.color)

def dots (v : Viewer) (width height : Nat) : List Dot :=
  v.clouds.flatMap (v.dotsOf width height)

/-- The image that a viewer draws: the topmost dots, the rims of cells, and the background. -/
def image (v : Viewer) (width height : Nat) : Image := fun px py =>
  match Dot.topmost (v.dots width height) px py with
  | some d => d.color
  | none =>
    if ∃ c ∈ v.cells width height, c.OnRim px py then borderColor else backgroundColor

theorem image_eq_foldl (v : Viewer) (width height px py : Nat) :
    v.image width height px py =
      (v.dots width height).foldl Dot.lay
        ((v.cells width height).foldl Cell.lay fun _ _ => backgroundColor) px py := by
  rw [Dot.foldl_lay, Cell.foldl_lay, image]
  cases Dot.topmost (v.dots width height) px py with
  | none => rfl
  | some d => rfl

variable {v : Viewer} {width height : Nat}

theorem cell?_eq_some {label : String} {cell : Cell} :
    v.cell? width height label = some cell ↔
      (∃ place, v.layout.idxOf? label = some place ∧ v.cellAt width height place = cell) ∧
        cell.isEmpty = false := by
  rw [cell?, Option.filter_eq_some_iff, Option.map_eq_some_iff, Bool.not_eq_true']

theorem within_cellAt {row column : Nat} (hrow : row < v.layout.rowCount)
    (hcolumn : column < v.layout.columnCount) :
    (v.cellAt width height (row, column)).Within width height :=
  Cell.within_inGrid hrow hcolumn

theorem ofGrid_eq_cellAt {row column : Nat} (hfits : Fits width height)
    (hrow : row < v.layout.rowCount) (hcolumn : column < v.layout.columnCount) :
    Cell.ofGrid width height v.layout.rowCount v.layout.columnCount row column =
      .ok (v.cellAt width height (row, column)) :=
  Cell.ofGrid_eq_ok hfits.width_word hfits.height_word hrow hcolumn

/-- Dots of a cloud are in its cell. -/
theorem cell_of_mem_dotsOf {cloud : Cloud Float} {d : Dot} (h : d ∈ v.dotsOf width height cloud) :
    v.cell? width height cloud.label = some d.cell := by
  rw [dotsOf] at h
  cases hcell : v.cell? width height cloud.label with
  | none => simp [hcell] at h
  | some cell =>
    simp only [hcell, List.mem_filterMap] at h
    obtain ⟨position, -, hdot⟩ := h
    rw [dot?] at hdot
    split at hdot
    · cases hdot
      rfl
    · cases hdot

variable {pixels : Pixels} {image : Image}

theorem drawBorders_shows (v : Viewer) (hfits : Fits width height)
    (h : pixels.Shows width height image) :
    ∃ out, drawBorders width height v.layout.rowCount v.layout.columnCount pixels = .ok out ∧
      out.Shows width height ((v.cells width height).foldl Cell.lay image) := by
  rw [cells, List.foldl_map]
  refine h.foldlM fun place hplace pixels image hshows => ?_
  obtain ⟨row, column⟩ := place
  obtain ⟨hrow, hcolumn⟩ := mem_gridPlaces.mp hplace
  obtain ⟨places, hborder, htraces⟩ := Cell.border_eq_ok hfits (within_cellAt hrow hcolumn)
  simp only [ofGrid_eq_cellAt hfits hrow hcolumn, ok_bind, hshows.size_eq, hborder]
  exact hshows.paint borderColor htraces

/-- Drawing a point lays its dot over the image, if there is one. -/
theorem drawPoint_shows (v : Viewer) (hfits : Fits width height) {cell : Cell}
    (hempty : cell.isEmpty = false) (hwithin : cell.Within width height) (color : UInt32)
    (position : Vec3 Float) (h : pixels.Shows width height image) :
    ∃ out, (Look.ofCamera v.camera cell color).drawPoint width pixels position = .ok out ∧
      out.Shows width height ((v.dot? cell color position).toList.foldl Dot.lay image) := by
  obtain ⟨place, hplace⟩ := Cell.landing_of_within hfits hempty hwithin
    (v.camera.worldToClip (Scalar.ofNat cell.width / Scalar.ofNat cell.height)) (single position)
  rw [Look.drawPoint, dot?]
  simp only [Look.ofCamera, hplace, ok_bind]
  cases place with
  | none => exact ⟨pixels, rfl, h⟩
  | some place =>
    obtain ⟨x, y⟩ := place
    obtain ⟨places, hdot, htraces⟩ :=
      Cell.dot_eq_ok hfits hwithin (Cell.contains_of_landing hplace)
    simp only [hdot, ok_bind]
    exact h.paint _ htraces

theorem drawInCell_shows (v : Viewer) (hfits : Fits width height) (cloud : Cloud Float)
    (h : pixels.Shows width height image) :
    ∃ out, v.drawInCell width height pixels cloud = .ok out ∧
      out.Shows width height ((v.dotsOf width height cloud).foldl Dot.lay image) := by
  rw [drawInCell, dotsOf, cell?]
  cases hplace : v.layout.idxOf? cloud.label with
  | none => exact ⟨pixels, rfl, h⟩
  | some place =>
    obtain ⟨row, column⟩ := place
    obtain ⟨hrow, hcolumn⟩ := Layout.idxOf?_lt hplace
    simp only [ofGrid_eq_cellAt hfits hrow hcolumn, ok_bind, Option.map_some]
    cases hempty : (v.cellAt width height (row, column)).isEmpty with
    | true =>
      rw [Option.filter_some_neg (by simp [hempty])]
      exact ⟨pixels, rfl, h⟩
    | false =>
      rw [Option.filter_some_pos (by simp [hempty])]
      simp only [List.filterMap_eq_flatMap_toList, List.foldl_flatMap]
      exact h.foldlM fun position _ _ _ hshows =>
        v.drawPoint_shows hfits hempty (within_cellAt hrow hcolumn) cloud.color position hshows

/-- In a grid without rows or without columns there is no cell, and no dot. -/
theorem image_of_no_cells (hnone : v.layout.rowCount = 0 ∨ v.layout.columnCount = 0)
    (px py : Nat) : v.image width height px py = backgroundColor := by
  have hcells : v.cells width height = [] := by
    refine List.eq_nil_iff_forall_not_mem.mpr fun cell hcell => ?_
    obtain ⟨place, hplace, -⟩ := List.mem_map.mp hcell
    have hgrid := mem_gridPlaces.mp hplace
    omega
  have hdots : v.dots width height = [] := by
    refine List.eq_nil_iff_forall_not_mem.mpr fun d hd => ?_
    obtain ⟨cloud, -, hd⟩ := List.mem_flatMap.mp hd
    obtain ⟨⟨place, hplace, -⟩, -⟩ := cell?_eq_some.mp (cell_of_mem_dotsOf hd)
    have hgrid := Layout.idxOf?_lt hplace
    omega
  simp [image, hcells, hdots, Dot.topmost]

/-- Drawing succeeds whatever the pixels were, and shows the image of the viewer. -/
theorem draw_shows (v : Viewer) (hfits : Fits width height) (hsize : pixels.size = width * height) :
    ∃ out, v.draw width height pixels = .ok out ∧
      out.Shows width height (v.image width height) := by
  have hclean := Pixels.Shows.fill hsize backgroundColor
  rw [draw]
  split
  case isTrue hnone =>
    exact ⟨_, rfl, hclean.congr fun px _ py _ => (image_of_no_cells hnone px py).symm⟩
  case isFalse =>
    obtain ⟨bordered, hborders, hground⟩ := v.drawBorders_shows hfits hclean
    have hstep (cloud : Cloud Float) (_ : cloud ∈ v.clouds) {pixels : Pixels} {image : Image}
        (hshows : pixels.Shows width height image) := v.drawInCell_shows hfits cloud hshows
    obtain ⟨out, hout, hshows⟩ := hground.foldlM hstep
    rw [hborders, ok_bind]
    rw [← List.foldl_flatMap, ← dots] at hshows
    exact ⟨out, hout, hshows.congr fun px _ py _ => (v.image_eq_foldl width height px py).symm⟩

end Viewer

end SphereCloud
