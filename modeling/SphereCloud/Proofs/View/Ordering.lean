import SphereCloud.Proofs.View.Drawing
import SphereCloud.Proofs.View.Keeping

/-!
A picture does not depend on the order in which clouds came in: every pixel belongs to at most one
of them.
-/

namespace SphereCloud

/-- Where at most one of several groups of dots covers a pixel, their order does not matter. -/
theorem Dot.topmost_flatMap_eq_some {ι : Type} {groups : List ι} {dotsOf : ι → List Dot}
    {px py : Nat}
    (hone : groups.Pairwise fun a b =>
      topmost (dotsOf a) px py = none ∨ topmost (dotsOf b) px py = none) (d : Dot) :
    topmost (groups.flatMap dotsOf) px py = some d ↔
      ∃ group ∈ groups, topmost (dotsOf group) px py = some d := by
  induction groups generalizing d with
  | nil => simp [topmost]
  | cons group groups ih =>
    obtain ⟨hfirst, hrest⟩ := List.pairwise_cons.mp hone
    rw [List.flatMap_cons, topmost_append, List.exists_mem_cons_iff, ← ih hrest]
    cases htop : topmost (groups.flatMap dotsOf) px py with
    | none => simp
    | some top =>
      -- Some later group covers the pixel, so that the first one does not.
      obtain ⟨other, hother, hcovers⟩ := (ih hrest top).mp htop
      have hnone : topmost (dotsOf group) px py = none :=
        (hfirst other hother).resolve_right (by simp [hcovers])
      simp [hnone]

namespace Viewer

/-- The states of a viewer that receives messages and is looked at from any side. -/
inductive Reachable : Viewer → Prop
  | initial : Reachable initial
  | send {v : Viewer} (message : Message Float) : Reachable v → Reachable (message.send v).value
  | look {v : Viewer} (seconds : Float32) (controls : Controls Float32) :
      Reachable v → Reachable { v with camera := v.camera.update seconds controls }

variable {v w : Viewer} {width height px py : Nat}

theorem nodup_labels_keep (h : (v.clouds.map (·.label)).Nodup) (cloud : Cloud Float) :
    ((v.keep cloud).clouds.map (·.label)).Nodup := by
  rw [keep, List.map_append, List.nodup_append]
  refine ⟨(List.filter_sublist.map _).nodup h, List.pairwise_singleton _ _, ?_⟩
  intro label hlabel other hother
  obtain ⟨kept, hkept, rfl⟩ := List.mem_map.mp hlabel
  obtain rfl : other = cloud.label := by simpa using hother
  simpa using (List.mem_filter.mp hkept).2

theorem Reachable.nodup_labels (h : v.Reachable) : (v.clouds.map (·.label)).Nodup := by
  induction h with
  | initial => exact List.nodup_nil
  | send message _ ih =>
    cases message with
    | layout l => exact ih
    | cloud cloud =>
      rw [Message.send, takeCloud_eq]
      exact nodup_labels_keep ih cloud
  | look seconds controls _ ih => exact ih

theorem Reachable.sendAll (h : v.Reachable) (messages : List (Message Float)) :
    (sendAll messages v).value.Reachable := by
  induction messages generalizing v with
  | nil => exact h
  | cons message messages ih => exact ih (h.send message)

/-- Two clouds that cover one pixel have one label: they have the same cell, and no two labels share
one. -/
theorem label_eq_of_topmost {cloud other : Cloud Float} {d e : Dot}
    (hd : Dot.topmost (v.dotsOf width height cloud) px py = some d)
    (he : Dot.topmost (v.dotsOf width height other) px py = some e) :
    cloud.label = other.label := by
  have hplace {c : Cloud Float} {d : Dot}
      (h : Dot.topmost (v.dotsOf width height c) px py = some d) :
      v.layout.idxOf? c.label =
        some (py / (height / v.layout.rowCount), px / (width / v.layout.columnCount)) := by
    obtain ⟨hmem, hcovers⟩ := List.mem_filter.mp (List.mem_of_getLast? h)
    obtain ⟨⟨⟨row, column⟩, hidx, hcell⟩, -⟩ := cell?_eq_some.mp (cell_of_mem_dotsOf hmem)
    have hcontains : d.cell.Contains px py := (of_decide_eq_true hcovers).2.2
    rw [← hcell] at hcontains
    obtain ⟨rfl, rfl⟩ := Cell.place_of_contains hcontains
    exact hidx
  exact Layout.idxOf?_inj (hplace hd) (hplace he)

/-- The topmost dot on a pixel is one of the only cloud that has dots there. -/
theorem topmost_dots_eq_some (hnodup : (v.clouds.map (·.label)).Nodup) (d : Dot) :
    Dot.topmost (v.dots width height) px py = some d ↔
      ∃ cloud ∈ v.clouds, Dot.topmost (v.dotsOf width height cloud) px py = some d := by
  refine Dot.topmost_flatMap_eq_some ((List.pairwise_map.mp hnodup).imp ?_) d
  intro cloud other hne
  cases hcloud : Dot.topmost (v.dotsOf width height cloud) px py with
  | none => exact .inl rfl
  | some d =>
    cases hother : Dot.topmost (v.dotsOf width height other) px py with
    | none => exact .inr rfl
    | some e => exact absurd (label_eq_of_topmost hcloud hother) hne

theorem image_of_perm (hnodup : (v.clouds.map (·.label)).Nodup) {clouds : List (Cloud Float)}
    (hperm : v.clouds.Perm clouds) (width height px py : Nat) :
    v.image width height px py =
      ({ v with clouds := clouds } : Viewer).image width height px py := by
  have hnodup' : (clouds.map (·.label)).Nodup := (hperm.map _).nodup hnodup
  have htop : Dot.topmost (v.dots width height) px py =
      Dot.topmost (({ v with clouds := clouds } : Viewer).dots width height) px py := by
    refine Option.ext fun d => ?_
    rw [topmost_dots_eq_some hnodup, topmost_dots_eq_some hnodup']
    exact exists_congr fun cloud => and_congr_left' hperm.mem_iff
  rw [image, htop]
  rfl

/-- Two viewers with one layout and one camera that keep the same clouds draw the same picture, in
whatever order the clouds came in and whatever the pixels were before. -/
theorem draw_eq_of_perm (hv : v.Reachable) (hlayout : v.layout = w.layout)
    (hcamera : v.camera = w.camera) (hperm : v.clouds.Perm w.clouds) (hfits : Fits width height)
    {before beside : Pixels} (hbefore : before.size = width * height)
    (hbeside : beside.size = width * height) :
    ∃ out, v.draw width height before = .ok out ∧ w.draw width height beside = .ok out ∧
      out.size = width * height := by
  obtain ⟨out, hout, hshows⟩ := v.draw_shows hfits hbefore
  obtain ⟨out', hout', hshows'⟩ := w.draw_shows hfits hbeside
  have hsame : w = { v with clouds := w.clouds } := by rw [hlayout, hcamera]
  have himage : ∀ px < width, ∀ py < height,
      w.image width height px py = v.image width height px py := by
    intro px _ py _
    rw [image_of_perm hv.nodup_labels hperm, ← hsame]
  refine ⟨out, hout, ?_, hshows.size_eq⟩
  rw [hout', hshows.eq (hshows'.congr himage)]

/-- Two neighbours in a ragged layout that has both of their labels twice. -/
theorem draw_eq_of_perm_neighbours :
    let layout : Layout := ⟨[["b", "a"], [], ["a", "c", "b"]], true⟩
    let a : Cloud Float := ⟨"a", [⟨1.0, 0.0, 0.0⟩, ⟨0.0, 0.0, 1.0⟩], 0xFF0000FF⟩
    let b : Cloud Float := ⟨"b", [⟨1.0, 0.0, 0.0⟩, ⟨0.0, 1.0, 0.0⟩], 0x00FFFFFF⟩
    let v : Viewer := (sendAll [.layout layout, .cloud a, .cloud b] initial).value
    let w : Viewer := (sendAll [.cloud b, .cloud a, .layout layout] initial).value
    ∃ out, v.draw 9 6 (Array.replicate 54 0) = .ok out ∧
      w.draw 9 6 (Array.replicate 54 7) = .ok out ∧ out.size = 54 := by
  intro layout a b v w
  have hv : v.Reachable := Reachable.initial.sendAll _
  have hlayout : v.layout = w.layout := rfl
  have hcamera : v.camera = w.camera := rfl
  have hperm : v.clouds.Perm w.clouds := .swap b a []
  have hfits : Fits 9 6 := ⟨by decide, by decide, by decide⟩
  exact draw_eq_of_perm hv hlayout hcamera hperm hfits Array.size_replicate Array.size_replicate

end Viewer

end SphereCloud
