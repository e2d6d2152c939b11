import SphereCloud.Proofs.Cloud.Grid
import SphereCloud.Proofs.View.Keeping

/-!
The layout of a production has exactly the views that its clouds need.
-/

namespace SphereCloud

/-- An archive keeps the clouds as they come. -/
theorem value_deliver_archive {α : Type} (clouds : List (Cloud α)) (a : Archive α) :
    (deliver (clouds.map .cloud) a).value = { a with clouds := a.clouds ++ clouds } := by
  induction clouds generalizing a with
  | nil => simp [deliver]
  | cons cloud clouds ih =>
    simp only [List.map_cons, deliver, Message.announce, Message.send, Logged.value_bind, ih]
    simp [Receiver.takeCloud]

section Production

variable {α : Type} [UniformScalar α] (settings : Settings)

theorem Method.mem_all (m : Method) : m ∈ all := by
  cases m <;> decide

/-- Whatever is made has a view in the layout that is sent. -/
theorem shown_of_yield {entropy : Key} {cloud : Cloud α}
    (h : cloud ∈ (settings.yield entropy).1) :
    (Layout.grid settings.sampleCounts Method.all).idxOf? cloud.label ≠ none := by
  have hlabel := (Streams.labels_clouds_prefix _ _ _).subset (List.mem_map_of_mem h)
  obtain ⟨job, hjob, hlabel⟩ := List.mem_map.mp hlabel
  rw [← hlabel, Layout.idxOf?_grid_label (Settings.mem_sampleCounts_of_mem_jobs hjob)
    (Method.mem_all _)]
  exact Option.some_ne_none _

theorem length_yield_of_ok {entropy : Key} (h : (settings.yield (α := α) entropy).2 = .ok ()) :
    (settings.yield (α := α) entropy).1.length =
      (Layout.grid settings.sampleCounts Method.all).rowCount *
        (Layout.grid settings.sampleCounts Method.all).columnCount := by
  calc (settings.yield (α := α) entropy).1.length
      = settings.jobs.length := Streams.length_of_clouds_ok h
    _ = settings.sampleCounts.eraseDups.length * Method.all.length := by
      rw [settings.length_jobs, Nat.mul_comm]
      rfl
    _ = _ := (Layout.viewCount_grid _ _).symm

end Production

/-- A grid shows exactly the labels of its counts and methods; a production that succeeds has one
cloud for each view of the layout it sent, and never gives a viewer a cloud without a view. -/
theorem views_of_production {α : Type} [UniformScalar α] (counts : List UInt64)
    (methods : List Method) (settings : Settings) (entropy : Key) :
    (∀ label r c, (Layout.grid counts methods).idxOf? label = some (r, c) ↔
      ∃ n ∈ counts, ∃ m ∈ methods, label = m.label n ∧ r = counts.eraseDups.idxOf n ∧
        c = methods.idxOf m) ∧
    (∀ label, (Layout.grid counts methods).idxOf? label = none ↔
      ∀ n ∈ counts, ∀ m ∈ methods, label ≠ m.label n) ∧
    (∀ archive : Archive α,
      (settings.produce entropy Archive.empty).value = (archive, .ok ()) →
        ∃ layout, archive.layouts = [layout] ∧
          ∃ f : Fin archive.clouds.length ≃ Fin layout.rowCount × Fin layout.columnCount,
            ∀ i, layout.idxOf? archive.clouds[i].label = some ((f i).1.val, (f i).2.val)) ∧
    (∀ v : Viewer, ∀ line ∈ (settings.produce entropy v).lines, line.level ≠ .warn) := by
  refine ⟨fun _ _ _ => Layout.idxOf?_grid_eq_some, fun _ => Layout.idxOf?_grid_eq_none, ?_, ?_⟩
  · intro archive h
    rw [produce_eq_deliver, Logged.value_map, Prod.mk.injEq] at h
    obtain ⟨harchive, hok⟩ := h
    simp only [deliver, Message.announce, Message.send, pure_bind, Logged.value_bind,
      value_deliver_archive] at harchive
    subst harchive
    refine ⟨Layout.grid settings.sampleCounts Method.all, rfl, ?_⟩
    exact Layout.exists_equiv
      ((Streams.labels_clouds_prefix _ _ _).sublist.nodup settings.nodup_labels)
      (fun cloud hcloud => shown_of_yield settings hcloud) (length_yield_of_ok settings hok)
  · intro v line hline
    rw [produce_eq_deliver, Logged.lines_map] at hline
    simp only [deliver, Message.announce, Message.send, pure_bind, Logged.lines_bind,
      Viewer.lines_takeLayout, Viewer.value_takeLayout, List.nil_append] at hline
    exact Viewer.level_ne_warn_of_deliver (fun cloud hcloud => shown_of_yield settings hcloud)
      line hline

/-- Two distinct counts fill a grid of six views. -/
theorem views_of_two_counts :
    let settings : Settings := ⟨7, some 5, [2, 1, 2], 0x00FFFFFF⟩
    ∃ archive : Archive Float,
      (settings.produce (Key.ofSeed 0) Archive.empty).value = (archive, .ok ()) ∧
        ∃ layout, archive.layouts = [layout] ∧
          ∃ f : Fin archive.clouds.length ≃ Fin layout.rowCount × Fin layout.columnCount,
            ∀ i, layout.idxOf? archive.clouds[i].label = some ((f i).1.val, (f i).2.val) := by
  intro settings
  have hok : (settings.produce (Key.ofSeed 0) (Archive.empty (α := Float))).value.2 = .ok () := by
    decide +kernel
  refine ⟨(settings.produce (Key.ofSeed 0) Archive.empty).value.1, Prod.ext rfl hok, ?_⟩
  exact (views_of_production [] [] settings (Key.ofSeed 0)).2.2.1 _ (Prod.ext rfl hok)

end SphereCloud
