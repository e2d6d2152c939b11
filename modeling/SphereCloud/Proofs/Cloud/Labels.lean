import SphereCloud.Cloud.Layout

/-!
A label tells the method and the count that a cloud was made with. A layout shows it in the first
row that has it, and there in the first column.
-/

namespace SphereCloud

/-- The digits of a number can be read back. -/
theorem repr_inj {m n : Nat} : m.repr = n.repr ↔ m = n := by
  constructor
  · intro h
    have hread := congrArg (fun text : String => Nat.ofDigitChars 10 text.toList 0) h
    simpa using hread
  · rintro rfl
    rfl

namespace Method

/-- No name with something behind it begins with another name. -/
theorem name_append_ne {m k : Method} (h : m ≠ k) (s t : String) : m.name ++ s ≠ k.name ++ t := by
  intro heq
  have hhead := congrArg (fun text : String => text.toList.head?) heq
  cases m <;> cases k <;> simp [name] at h hhead

@[simp] theorem label_inj {m k : Method} {n l : UInt64} :
    m.label n = k.label l ↔ m = k ∧ n = l := by
  constructor
  · intro h
    have hmethod : m = k := by
      by_cases heq : m = k
      · exact heq
      · simp only [label, String.append_assoc] at h
        exact absurd h (name_append_ne heq _ _)
    subst hmethod
    have hcount : n.toNat.repr = l.toNat.repr := (String.append_right_inj _).mp h
    exact ⟨rfl, UInt64.toNat_inj.mp (repr_inj.mp hcount)⟩
  · rintro ⟨rfl, rfl⟩
    rfl

end Method

namespace Layout

/-- No row with a number has a place for a label if and only if none has the label. -/
theorem forall_zipIdx_eq_none {rows : List (List String)} {label : String} :
    (∀ row ∈ rows.zipIdx, (row.1.idxOf? label).map (row.2, ·) = none) ↔
      ∀ labels ∈ rows, label ∉ labels := by
  simp only [Option.map_eq_none_iff, List.idxOf?_eq_none_iff]
  constructor
  · intro h labels hlabels
    obtain ⟨i, hi, rfl⟩ := List.mem_iff_getElem.mp hlabels
    exact h (rows[i], i) (List.mem_zipIdx_iff_getElem?.mpr (List.getElem?_eq_getElem hi))
  · intro h row hrow
    exact h row.1 (List.fst_mem_of_mem_zipIdx hrow)

theorem idxOf?_eq_some {l : Layout} {label : String} {r c : Nat} :
    l.idxOf? label = some (r, c) ↔
      (∃ labels, l.rows[r]? = some labels ∧ labels.idxOf? label = some c) ∧
        ∀ labels ∈ l.rows.take r, label ∉ labels := by
  rw [idxOf?, List.findSome?_eq_some_iff]
  constructor
  · rintro ⟨front, ⟨labels, row⟩, back, hsplit, hfound, hnone⟩
    obtain ⟨c', hc', hplace⟩ := Option.map_eq_some_iff.mp hfound
    obtain ⟨before, rest, hrows, rfl, hrest⟩ := List.zipIdx_eq_append_iff.mp hsplit
    cases rest with
    | nil => simp at hrest
    | cons first rest =>
      simp only [List.zipIdx_cons, List.cons.injEq, Prod.mk.injEq, Nat.zero_add] at hrest hplace
      obtain ⟨⟨rfl, rfl⟩, -⟩ := hrest
      obtain ⟨rfl, rfl⟩ := hplace
      refine ⟨⟨labels, by simp [hrows], hc'⟩, ?_⟩
      rw [hrows, List.take_left]
      exact forall_zipIdx_eq_none.mp hnone
  · rintro ⟨⟨labels, hlabels, hc⟩, hbefore⟩
    obtain ⟨hr, rfl⟩ := List.getElem?_eq_some_iff.mp hlabels
    have hrows : l.rows = l.rows.take r ++ l.rows[r] :: l.rows.drop (r + 1) := by simp
    have hlength : (l.rows.take r).length = r := by simp [Nat.le_of_lt hr]
    refine ⟨(l.rows.take r).zipIdx, (l.rows[r], r), (l.rows.drop (r + 1)).zipIdx (r + 1),
      ?_, ?_, forall_zipIdx_eq_none.mpr hbefore⟩
    · calc l.rows.zipIdx
          = (l.rows.take r ++ l.rows[r] :: l.rows.drop (r + 1)).zipIdx := congrArg List.zipIdx hrows
        _ = _ := by rw [List.zipIdx_append, List.zipIdx_cons, hlength, Nat.zero_add]
    · simp [hc]

theorem idxOf?_eq_none {l : Layout} {label : String} :
    l.idxOf? label = none ↔ ∀ labels ∈ l.rows, label ∉ labels := by
  rw [idxOf?, List.findSome?_eq_none_iff]
  exact forall_zipIdx_eq_none

/-- The number of columns is the length of the longest row. -/
theorem columnCount_le_iff {l : Layout} {k : Nat} :
    l.columnCount ≤ k ↔ ∀ labels ∈ l.rows, labels.length ≤ k := by
  unfold columnCount
  induction l.rows with
  | nil => simp
  | cons row rows ih => rw [List.foldr_cons, Nat.max_le, ih, List.forall_mem_cons]

theorem length_le_columnCount {l : Layout} {labels : List String} (h : labels ∈ l.rows) :
    labels.length ≤ l.columnCount :=
  columnCount_le_iff.mp (Nat.le_refl _) labels h

/-- A label that is shown is shown within the grid. -/
theorem idxOf?_lt {l : Layout} {label : String} {r c : Nat} (h : l.idxOf? label = some (r, c)) :
    r < l.rowCount ∧ c < l.columnCount := by
  obtain ⟨⟨labels, hlabels, hc⟩, -⟩ := idxOf?_eq_some.mp h
  obtain ⟨hr, rfl⟩ := List.getElem?_eq_some_iff.mp hlabels
  obtain ⟨hlt, -⟩ := List.idxOf?_eq_some_iff.mp hc
  exact ⟨hr, Nat.lt_of_lt_of_le hlt (length_le_columnCount (List.getElem_mem hr))⟩

/-- Two labels do not share a view. -/
theorem idxOf?_inj {l : Layout} {label other : String} {place : Nat × Nat}
    (h : l.idxOf? label = some place) (ho : l.idxOf? other = some place) : label = other := by
  obtain ⟨⟨labels, hlabels, hc⟩, -⟩ := idxOf?_eq_some.mp h
  obtain ⟨⟨labels', hlabels', hc'⟩, -⟩ := idxOf?_eq_some.mp ho
  obtain rfl : labels = labels' := Option.some.inj (hlabels.symm.trans hlabels')
  obtain ⟨_, hlabel, -⟩ := List.idxOf?_eq_some_iff.mp hc
  obtain ⟨_, hother, -⟩ := List.idxOf?_eq_some_iff.mp hc'
  exact hlabel.symm.trans hother

end Layout

end SphereCloud
