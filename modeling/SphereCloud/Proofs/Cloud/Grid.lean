import Mathlib.Data.Fintype.EquivFin
import Mathlib.Data.Fintype.Prod
import Mathlib.Data.List.Basic
import SphereCloud.Cloud.Receiver
import SphereCloud.Proofs.Basic
import SphereCloud.Proofs.Cloud.Labels

/-!
A grid shows the labels of its counts and methods and no others, each where its count and its method
stand.
-/

namespace SphereCloud.Layout

/-- A place in a list of labels of one count is a place in the list of methods. -/
theorem idxOf?_map_label {methods : List Method} {m : Method} (h : m ∈ methods) (n : UInt64) :
    (methods.map (·.label n)).idxOf? (m.label n) = some (methods.idxOf m) := by
  induction methods with
  | nil => cases h
  | cons k methods ih =>
    rw [List.map_cons, List.idxOf?_cons, List.idxOf_cons]
    by_cases hk : k = m
    · simp [hk]
    · have hm : m ∈ methods := (List.mem_cons.mp h).resolve_left fun heq => hk heq.symm
      simp [beq_false_of_ne hk, hk, ih hm]

theorem idxOf?_grid_label {counts : List UInt64} {methods : List Method} {n : UInt64} {m : Method}
    (hn : n ∈ counts) (hm : m ∈ methods) :
    (grid counts methods).idxOf? (m.label n) =
      some (counts.eraseDups.idxOf n, methods.idxOf m) := by
  have hn' : n ∈ counts.eraseDups := List.mem_eraseDups.mpr hn
  refine idxOf?_eq_some.mpr ⟨⟨methods.map (·.label n), ?_, idxOf?_map_label hm n⟩, ?_⟩
  · simp [grid, List.getElem?_idxOf hn']
  · intro labels hlabels hmem
    simp only [grid, ← List.map_take] at hlabels
    obtain ⟨l, hl, rfl⟩ := List.mem_map.mp hlabels
    obtain ⟨k, -, hlabel⟩ := List.mem_map.mp hmem
    obtain rfl : l = n := (Method.label_inj.mp hlabel).2
    exact absurd ((List.mem_take_iff_idxOf_lt hn').mp hl) (Nat.lt_irrefl _)

/-- Every label in a grid is that of a count and a method. -/
theorem exists_of_mem_grid {counts : List UInt64} {methods : List Method} {labels : List String}
    {label : String} (h : labels ∈ (grid counts methods).rows) (hlabel : label ∈ labels) :
    ∃ n ∈ counts, ∃ m ∈ methods, label = m.label n := by
  obtain ⟨n, hn, rfl⟩ := List.mem_map.mp h
  obtain ⟨m, hm, rfl⟩ := List.mem_map.mp hlabel
  exact ⟨n, List.mem_eraseDups.mp hn, m, hm, rfl⟩

theorem idxOf?_grid_eq_none {counts : List UInt64} {methods : List Method} {label : String} :
    (grid counts methods).idxOf? label = none ↔
      ∀ n ∈ counts, ∀ m ∈ methods, label ≠ m.label n := by
  constructor
  · rintro h n hn m hm rfl
    rw [idxOf?_grid_label hn hm] at h
    cases h
  · intro h
    refine idxOf?_eq_none.mpr fun labels hlabels hlabel => ?_
    obtain ⟨n, hn, m, hm, heq⟩ := exists_of_mem_grid hlabels hlabel
    exact h n hn m hm heq

theorem idxOf?_grid_eq_some {counts : List UInt64} {methods : List Method} {label : String}
    {r c : Nat} : (grid counts methods).idxOf? label = some (r, c) ↔
      ∃ n ∈ counts, ∃ m ∈ methods, label = m.label n ∧ r = counts.eraseDups.idxOf n ∧
        c = methods.idxOf m := by
  constructor
  · intro h
    obtain ⟨⟨labels, hlabels, hc⟩, -⟩ := idxOf?_eq_some.mp h
    obtain ⟨_, hlabel, -⟩ := List.idxOf?_eq_some_iff.mp hc
    obtain ⟨n, hn, m, hm, rfl⟩ := exists_of_mem_grid (List.mem_of_getElem? hlabels)
      (hlabel ▸ List.getElem_mem _)
    rw [idxOf?_grid_label hn hm] at h
    cases h
    exact ⟨n, hn, m, hm, rfl, rfl, rfl⟩
  · rintro ⟨n, hn, m, hm, rfl, rfl, rfl⟩
    exact idxOf?_grid_label hn hm

/-- A grid has a view for each distinct count and each method. -/
theorem viewCount_grid (counts : List UInt64) (methods : List Method) :
    (grid counts methods).rowCount * (grid counts methods).columnCount =
      counts.eraseDups.length * methods.length := by
  have hrows : (grid counts methods).rowCount = counts.eraseDups.length := by
    simp [rowCount, grid]
  have hlength : ∀ labels ∈ (grid counts methods).rows, labels.length = methods.length := by
    intro labels h
    obtain ⟨n, -, rfl⟩ := List.mem_map.mp h
    exact List.length_map _
  rw [hrows]
  cases hcounts : (grid counts methods).rows with
  | nil =>
    have hzero : counts.eraseDups.length = 0 := by rw [← hrows, rowCount, hcounts]; rfl
    rw [hzero, Nat.zero_mul, Nat.zero_mul]
  | cons row rows =>
    have hmem : row ∈ (grid counts methods).rows := hcounts ▸ List.mem_cons_self
    have hle := columnCount_le_iff.mpr fun labels h => (hlength labels h).le
    have hge := length_le_columnCount hmem
    rw [hlength row hmem] at hge
    rw [Nat.le_antisymm hle hge]

/-- Distinct clouds that are all shown, as many as there are views, take one view each. -/
theorem exists_equiv {α : Type} {l : Layout} {clouds : List (Cloud α)}
    (hnodup : (clouds.map (·.label)).Nodup)
    (hshown : ∀ cloud ∈ clouds, l.idxOf? cloud.label ≠ none)
    (hcount : clouds.length = l.rowCount * l.columnCount) :
    ∃ f : Fin clouds.length ≃ Fin l.rowCount × Fin l.columnCount,
      ∀ i, l.idxOf? clouds[i].label = some ((f i).1.val, (f i).2.val) := by
  have hplace (i : Fin clouds.length) : ∃ p : Fin l.rowCount × Fin l.columnCount,
      l.idxOf? clouds[i].label = some (p.1.val, p.2.val) := by
    obtain ⟨⟨r, c⟩, h⟩ := Option.ne_none_iff_exists'.mp (hshown clouds[i] (List.getElem_mem _))
    obtain ⟨hr, hc⟩ := idxOf?_lt h
    exact ⟨(⟨r, hr⟩, ⟨c, hc⟩), h⟩
  choose f hf using hplace
  have hinjective : Function.Injective f := by
    intro i j hij
    have hlabel : clouds[i].label = clouds[j].label := idxOf?_inj (hf i) (hij ▸ hf j)
    have hcloud : clouds[i] = clouds[j] :=
      List.inj_on_of_nodup_map hnodup (List.getElem_mem _) (List.getElem_mem _) hlabel
    exact Fin.ext ((List.Nodup.of_map _ hnodup).getElem_inj_iff.mp hcloud)
  have hbijective : Function.Bijective f :=
    (Fintype.bijective_iff_injective_and_card f).mpr ⟨hinjective, by simp [hcount]⟩
  exact ⟨Equiv.ofBijective f hbijective, hf⟩

end SphereCloud.Layout
