import Mathlib.Data.Prod.Lex
import Mathlib.Order.Bounds.Basic
import SphereCloud.Proofs.Cloud.Labels

/-!
The view of a label in any layout, with rows of different lengths and with labels in several views:
of all places that have the label it is the first one, row by row.
-/

namespace SphereCloud.Layout

def labelAt? (l : Layout) (row column : Nat) : Option String :=
  l.rows[row]?.bind (·[column]?)

/-- The places of a label, in the order of reading: a row in front of the next one. -/
def placesOf (l : Layout) (label : String) : Set (ℕ ×ₗ ℕ) :=
  {place | l.labelAt? (ofLex place).1 (ofLex place).2 = some label}

variable {l : Layout} {label : String} {row column : Nat}

theorem labelAt?_eq_some :
    l.labelAt? row column = some label ↔
      ∃ labels, l.rows[row]? = some labels ∧ labels[column]? = some label :=
  Option.bind_eq_some_iff

theorem labelAt?_of_idxOf? (h : l.idxOf? label = some (row, column)) :
    l.labelAt? row column = some label := by
  obtain ⟨⟨labels, hlabels, hcolumn⟩, -⟩ := idxOf?_eq_some.mp h
  obtain ⟨hlt, hlabel, -⟩ := List.idxOf?_eq_some_iff.mp hcolumn
  exact labelAt?_eq_some.mpr ⟨labels, hlabels, List.getElem?_eq_some_iff.mpr ⟨hlt, hlabel⟩⟩

/-- A label is in no row above its view, and in the row of the view in no column before it. -/
theorem le_of_labelAt? {row' column' : Nat} (h : l.idxOf? label = some (row, column))
    (h' : l.labelAt? row' column' = some label) : row < row' ∨ row = row' ∧ column ≤ column' := by
  obtain ⟨⟨labels, hlabels, hcolumn⟩, hbefore⟩ := idxOf?_eq_some.mp h
  obtain ⟨labels', hlabels', hlabel⟩ := labelAt?_eq_some.mp h'
  rcases Nat.lt_trichotomy row row' with hlt | rfl | hgt
  · exact .inl hlt
  · obtain rfl : labels = labels' := Option.some.inj (hlabels.symm.trans hlabels')
    obtain ⟨_, _, hmiss⟩ := List.idxOf?_eq_some_iff.mp hcolumn
    refine .inr ⟨rfl, Nat.le_of_not_lt fun hless => ?_⟩
    obtain ⟨_, hfound⟩ := List.getElem?_eq_some_iff.mp hlabel
    exact hmiss column' hless hfound
  · have hrow : labels' ∈ l.rows.take row :=
      List.mem_of_getElem? (by rwa [List.getElem?_take_of_lt hgt])
    exact absurd (List.mem_of_getElem? hlabel) (hbefore labels' hrow)

theorem isLeast_of_idxOf? (h : l.idxOf? label = some (row, column)) :
    IsLeast (l.placesOf label) (toLex (row, column)) :=
  ⟨labelAt?_of_idxOf? h, fun _ hplace => Prod.Lex.toLex_le_toLex.mpr (le_of_labelAt? h hplace)⟩

/-- A label that is somewhere has a view. -/
theorem exists_idxOf?_of_labelAt? (h : l.labelAt? row column = some label) :
    ∃ place, l.idxOf? label = some place := by
  obtain ⟨labels, hlabels, hlabel⟩ := labelAt?_eq_some.mp h
  refine Option.ne_none_iff_exists'.mp fun hnone => ?_
  exact idxOf?_eq_none.mp hnone labels (List.mem_of_getElem? hlabels) (List.mem_of_getElem? hlabel)

theorem idxOf?_eq_some_iff_isLeast :
    l.idxOf? label = some (row, column) ↔ IsLeast (l.placesOf label) (toLex (row, column)) := by
  refine ⟨isLeast_of_idxOf?, fun hleast => ?_⟩
  obtain ⟨⟨row', column'⟩, h⟩ := exists_idxOf?_of_labelAt? hleast.1
  have hsame : toLex (row', column') = toLex (row, column) := (isLeast_of_idxOf? h).unique hleast
  rw [h, toLex_inj.mp hsame]

/-- A label is looked for row by row, in layouts of any shape.

It has no view if no row has it. Otherwise its view is the first place that has it, and this is
within the grid, whose width is the length of the longest row. No other label has this view. -/
theorem view_is_first_place (l : Layout) (label : String) :
    (l.idxOf? label = none ↔ ∀ labels ∈ l.rows, label ∉ labels) ∧
    (∀ row column, l.idxOf? label = some (row, column) ↔
      IsLeast (l.placesOf label) (toLex (row, column))) ∧
    (∀ row column, l.idxOf? label = some (row, column) →
      row < l.rowCount ∧ column < l.columnCount) ∧
    (∀ k, l.columnCount ≤ k ↔ ∀ labels ∈ l.rows, labels.length ≤ k) ∧
    ∀ other place, l.idxOf? label = some place → l.idxOf? other = some place → label = other :=
  ⟨idxOf?_eq_none, fun _ _ => idxOf?_eq_some_iff_isLeast, fun _ _ => idxOf?_lt,
    fun _ => columnCount_le_iff, fun _ _ => idxOf?_inj⟩

/-- A row without labels in front, and a label that is in two rows and twice in the first of
them. -/
theorem view_is_first_place_ragged :
    let l : Layout := ⟨[[], ["a"], ["c", "b", "b"], ["b", "c"]], true⟩
    l.idxOf? "b" = some (2, 1) ∧ IsLeast (l.placesOf "b") (toLex (2, 1)) ∧
      (2 < l.rowCount ∧ 1 < l.columnCount) ∧ ¬l.columnCount ≤ 2 ∧ l.idxOf? "d" = none := by
  intro l
  have hfound : l.idxOf? "b" = some (2, 1) := by decide
  obtain ⟨-, hleast, hlt, hwidth, -⟩ := view_is_first_place l "b"
  obtain ⟨hnone, -⟩ := view_is_first_place l "d"
  refine ⟨hfound, (hleast 2 1).mp hfound, hlt 2 1 hfound, ?_, hnone.mpr (by decide)⟩
  rw [hwidth]
  decide

end SphereCloud.Layout
