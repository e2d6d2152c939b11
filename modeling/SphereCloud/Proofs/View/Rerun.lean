import SphereCloud.Proofs.Cloud.Views
import SphereCloud.Proofs.View.Drawing

/-!
What a viewer shows of a production does not depend on what it received before.
-/

namespace SphereCloud

section Production

variable {α : Type} [UniformScalar α] (settings : Settings)

theorem Settings.labels_yield_of_ok {entropy : Key}
    (h : (settings.yield (α := α) entropy).2 = .ok ()) :
    (settings.yield (α := α) entropy).1.map (·.label) =
      settings.jobs.map fun job => job.2.label job.1 := by
  refine (Streams.labels_clouds_prefix _ _ _).eq_of_length ?_
  rw [List.length_map, List.length_map]
  exact Streams.length_of_clouds_ok h

/-- All views of the layout that is sent are for labels of jobs. -/
theorem Settings.label_mem_jobs {label : String}
    (h : (Layout.grid settings.sampleCounts Method.all).idxOf? label ≠ none) :
    label ∈ settings.jobs.map fun job => job.2.label job.1 := by
  obtain ⟨⟨r, c⟩, h⟩ := Option.ne_none_iff_exists'.mp h
  obtain ⟨n, hn, m, -, rfl, -⟩ := Layout.idxOf?_grid_eq_some.mp h
  exact List.mem_map.mpr ⟨(n, m), mem_jobs.mpr hn, rfl⟩

theorem Settings.yield_of_seed {seed : UInt64} (h : settings.uniformSeed = some seed)
    (entropy other : Key) :
    settings.yield (α := α) entropy = settings.yield other := by
  rw [yield, yield, h]
  rfl

end Production

namespace Viewer

def shown (v : Viewer) : List (Cloud Float) :=
  v.clouds.filter fun cloud => (v.layout.idxOf? cloud.label).isSome

/-- Drawing passes over the clouds without a view. -/
theorem foldlM_drawInCell_shown (v : Viewer) (width height : Nat) (pixels : Pixels) :
    v.shown.foldlM (v.drawInCell width height) pixels =
      v.clouds.foldlM (v.drawInCell width height) pixels := by
  rw [shown, List.foldlM_filter]
  congr 1
  funext pixels cloud
  cases hplace : v.layout.idxOf? cloud.label with
  | none =>
    rw [drawInCell, hplace]
    rfl
  | some place => rfl

/-- Viewers with one camera draw the same if they have the same layout and show the same clouds. -/
theorem draw_congr {v w : Viewer} (hlayout : v.layout = w.layout) (hcamera : v.camera = w.camera)
    (hshown : v.shown = w.shown) (width height : Nat) (pixels : Pixels) :
    v.draw width height pixels = w.draw width height pixels := by
  have hstep : v.drawInCell width height = w.drawInCell width height := by
    funext pixels cloud
    rw [drawInCell, drawInCell, hlayout, hcamera]
  have hclouds (pixels : Pixels) : v.clouds.foldlM (v.drawInCell width height) pixels =
      w.clouds.foldlM (w.drawInCell width height) pixels := by
    rw [← v.foldlM_drawInCell_shown, ← w.foldlM_drawInCell_shown, hstep, hshown]
  simp only [draw, hlayout, hclouds]

/-- What some clouds leave of others: those without one of their labels. -/
def spared (clouds others : List (Cloud Float)) : List (Cloud Float) :=
  others.filter (·.label ∉ clouds.map (·.label))

theorem spared_cons (cloud : Cloud Float) (clouds others : List (Cloud Float)) :
    spared (cloud :: clouds) others = spared clouds (others.filter (·.label ≠ cloud.label)) := by
  rw [spared, spared, List.filter_filter]
  congr 1
  funext other
  rw [Bool.eq_iff_iff]
  simp [not_or, and_comm]

/-- Clouds with labels of their own come in behind what they leave of the clouds before. -/
theorem value_deliver_clouds {clouds : List (Cloud Float)} (hnodup : (clouds.map (·.label)).Nodup)
    (v : Viewer) :
    (deliver (clouds.map .cloud) v).value =
      { v with clouds := spared clouds v.clouds ++ clouds } := by
  induction clouds generalizing v with
  | nil => simp [deliver, spared]
  | cons cloud clouds ih =>
    rw [List.map_cons, List.nodup_cons] at hnodup
    have hkeep : spared clouds (v.keep cloud).clouds =
        spared (cloud :: clouds) v.clouds ++ [cloud] := by
      rw [spared_cons, keep, spared, spared, List.filter_append, List.filter_cons_of_pos,
        List.filter_nil]
      simpa using hnodup.1
    simp only [List.map_cons, deliver, Message.announce, Message.send, Logged.value_bind,
      takeCloud_eq, ih hnodup.2, hkeep, List.append_assoc, List.singleton_append]
    rfl

theorem value_produce (settings : Settings) (entropy : Key) (v : Viewer) :
    (settings.produce entropy v).value =
      (⟨.grid settings.sampleCounts Method.all,
        spared (settings.yield entropy).1 v.clouds ++ (settings.yield entropy).1, v.camera⟩,
        (settings.yield (α := Float) entropy).2) := by
  have hnodup : ((settings.yield (α := Float) entropy).1.map (·.label)).Nodup :=
    (Streams.labels_clouds_prefix _ _ _).sublist.nodup settings.nodup_labels
  simp only [produce_eq_deliver, Logged.value_map, deliver, Message.announce, Message.send,
    pure_bind, Logged.value_bind, value_takeLayout, value_deliver_clouds hnodup]

/-- After a production that succeeds only its own clouds have a view. -/
theorem shown_produce {settings : Settings} {entropy : Key} {v : Viewer}
    (h : (settings.yield (α := Float) entropy).2 = .ok ()) :
    (settings.produce entropy v).value.1.shown = (settings.yield entropy).1 := by
  rw [value_produce, shown, List.filter_append]
  -- Whatever was kept before has no label of a job, and the layout has views of no other labels.
  have hbefore : (spared (settings.yield entropy).1 v.clouds).filter
      (fun cloud => ((Layout.grid settings.sampleCounts Method.all).idxOf? cloud.label).isSome) =
        [] := by
    refine List.filter_eq_nil_iff.mpr fun cloud hcloud hview => ?_
    have hold := (List.mem_filter.mp hcloud).2
    rw [settings.labels_yield_of_ok h, decide_eq_true_eq] at hold
    exact hold (settings.label_mem_jobs (Option.isSome_iff_ne_none.mp hview))
  have hown : (settings.yield (α := Float) entropy).1.filter
      (fun cloud => ((Layout.grid settings.sampleCounts Method.all).idxOf? cloud.label).isSome) =
        (settings.yield entropy).1 := by
    refine List.filter_eq_self.mpr fun cloud hcloud => ?_
    exact Option.isSome_iff_ne_none.mpr (shown_of_yield settings hcloud)
  rw [hbefore, hown, List.nil_append]

/-- A viewer draws a production that succeeds as if it had received nothing else: as a new viewer
does that gets the same production, from the same side. -/
theorem draw_rerun_eq_fresh (v : Viewer) (settings : Settings) {seed : UInt64}
    (hseed : settings.uniformSeed = some seed) (entropy other : Key)
    (hok : (settings.produce entropy v).value.2 = .ok ()) (camera : Camera Float32)
    (width height : Nat) :
    let rerun : Viewer := { (settings.produce entropy v).value.1 with camera := camera }
    let fresh : Viewer := { (settings.produce other initial).value.1 with camera := camera }
    (settings.produce other initial).value.2 = .ok () ∧
    (settings.produce entropy v).value.1.camera = v.camera ∧
    (∀ pixels, rerun.draw width height pixels = fresh.draw width height pixels) ∧
    (Fits width height → ∀ before beside : Pixels, before.size = width * height →
      beside.size = width * height →
        ∃ out, rerun.draw width height before = .ok out ∧ fresh.draw width height beside = .ok out ∧
          out.size = width * height) := by
  intro rerun fresh
  have hyield : (settings.yield (α := Float) entropy).2 = .ok () := by
    rwa [value_produce] at hok
  have hother : settings.yield (α := Float) other = settings.yield entropy :=
    settings.yield_of_seed hseed other entropy
  have hlayout : rerun.layout = fresh.layout := by
    simp only [rerun, fresh, value_produce]
  have hshown : rerun.shown = fresh.shown := by
    calc rerun.shown
        = (settings.produce entropy v).value.1.shown := rfl
      _ = (settings.yield entropy).1 := shown_produce hyield
      _ = (settings.yield other).1 := by rw [hother]
      _ = (settings.produce other initial).value.1.shown := (shown_produce (hother ▸ hyield)).symm
      _ = fresh.shown := rfl
  have hdraw : ∀ pixels, rerun.draw width height pixels = fresh.draw width height pixels :=
    draw_congr hlayout rfl hshown width height
  refine ⟨?_, ?_, hdraw, fun hfits before beside hbefore hbeside => ?_⟩
  · rw [value_produce, hother, hyield]
  · rw [value_produce]
  · obtain ⟨out, hout, hshows⟩ := rerun.draw_shows hfits hbefore
    obtain ⟨out', hout', hshows'⟩ := rerun.draw_shows hfits hbeside
    refine ⟨out, hout, ?_, hshows.size_eq⟩
    rw [← hdraw, hout', hshows.eq hshows']

/-- Points of other settings are kept, one of them under a label that comes up again. -/
theorem draw_rerun_eq_fresh_stale :
    let settings : Settings := ⟨7, some 5, [2, 1, 2], 0x00FFFFFF⟩
    let old : List (Cloud Float) :=
      [⟨"pcg_1", [⟨0.0, 0.0, 1.0⟩], 0xFF0000FF⟩, ⟨"pcg_4", [⟨1.0, 0.0, 0.0⟩], 0xFF0000FF⟩]
    let v : Viewer := ⟨⟨[["pcg_4"], ["pcg_1"]], true⟩, old, .initial⟩
    let rerun : Viewer := { (settings.produce (Key.ofSeed 0) v).value.1 with camera := .initial }
    let fresh : Viewer :=
      { (settings.produce (Key.ofSeed 1) initial).value.1 with camera := .initial }
    ∃ out, rerun.draw 24 16 (Array.replicate 384 7) = .ok out ∧
      fresh.draw 24 16 (Array.replicate 384 0) = .ok out ∧ out.size = 384 := by
  intro settings old v rerun fresh
  have hok : (settings.produce (Key.ofSeed 0) v).value.2 = .ok () := by decide +kernel
  have hfits : Fits 24 16 := ⟨by decide, by decide, by decide⟩
  have hseed : settings.uniformSeed = some 5 := rfl
  obtain ⟨-, -, -, hdraw⟩ :=
    draw_rerun_eq_fresh v settings hseed (Key.ofSeed 0) (Key.ofSeed 1) hok .initial 24 16
  exact hdraw hfits _ _ Array.size_replicate Array.size_replicate

end Viewer

end SphereCloud
