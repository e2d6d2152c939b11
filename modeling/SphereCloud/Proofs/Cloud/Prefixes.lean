import SphereCloud.Proofs.Cloud.Success
import SphereCloud.Proofs.View.Rerun

/-!
What a production makes depends on the counts without their repeats. Counts that come later change
nothing of what was made before them.
-/

namespace SphereCloud

namespace Archive

variable {α : Type} {archive : Archive α} {label : String}

theorem mem_of_cloud? {cloud : Cloud α} (h : archive.cloud? label = some cloud) :
    cloud ∈ archive.clouds ∧ cloud.label = label := by
  refine ⟨List.mem_of_find?_eq_some h, ?_⟩
  simpa using List.find?_some h

theorem cloud?_eq_none : archive.cloud? label = none ↔ label ∉ archive.clouds.map (·.label) := by
  simp [cloud?, List.find?_eq_none]

end Archive

section Jobs

variable {α : Type} [UniformScalar α]

namespace Streams

/-- With more jobs behind them, jobs give the same clouds. -/
theorem take_clouds_append (color : UInt32) (jobs more : List (UInt64 × Method)) (s : Streams) :
    (clouds (α := α) color (jobs ++ more) s).1.take jobs.length = (clouds color jobs s).1 := by
  induction jobs generalizing s with
  | nil => rfl
  | cons job jobs ih =>
    rw [List.cons_append, clouds, clouds]
    cases s.attempt (α := α) color job with
    | error fault => rfl
    | ok cloud => exact congrArg (cloud :: ·) (ih _)

/-- The radical inverses give the same from any state. -/
theorem attempt_halton (s t : Streams) (color : UInt32) (n : UInt64) :
    s.attempt (α := α) color (n, .halton) = t.attempt color (n, .halton) := rfl

end Streams

namespace Settings

variable {a b : Settings}

theorem jobs_prefix (h : a.sampleCounts.eraseDups <+: b.sampleCounts.eraseDups) :
    a.jobs <+: b.jobs := by
  obtain ⟨more, hmore⟩ := h
  rw [jobs, jobs, ← hmore, List.flatMap_append]
  exact List.prefix_append _ _

/-- All clouds that an archive of a production holds. -/
theorem clouds_produce (settings : Settings) (entropy : Key) :
    (settings.produce entropy (Archive.empty (α := α))).value.1.clouds =
      (settings.yield entropy).1 := by
  rw [produce_eq_deliver, Logged.value_map]
  simp only [deliver, Message.announce, Message.send, pure_bind, Logged.value_bind,
    value_deliver_archive]
  rfl

/-- A label tells the job that its cloud was made by. -/
theorem attempt_of_mem_yield {entropy : Key} {cloud : Cloud α} {m : Method} {n : UInt64}
    (h : cloud ∈ (a.yield entropy).1) (hlabel : cloud.label = m.label n) :
    ∃ s : Streams, s.attempt a.pointColor (n, m) = .ok cloud := by
  obtain ⟨i, hi⟩ := List.mem_iff_getElem?.mp h
  obtain ⟨⟨count, method⟩, -, hattempt⟩ := Streams.attempt_of_clouds hi
  obtain ⟨-, -, -, hjob, -⟩ := Streams.attempt_eq_ok.mp hattempt
  obtain ⟨rfl, rfl⟩ := Method.label_inj.mp (hlabel.symm.trans hjob)
  exact ⟨_, hattempt⟩

/-- Productions in one color have the same radical inverses under one label. -/
theorem eq_of_halton_label (hcolor : a.pointColor = b.pointColor) {k l : Key} {c d : Cloud α}
    {n : UInt64} (hc : c ∈ (a.yield k).1) (hd : d ∈ (b.yield l).1)
    (hlabel : c.label = Method.halton.label n) (hlabel' : d.label = Method.halton.label n) :
    c = d := by
  obtain ⟨s, hs⟩ := attempt_of_mem_yield hc hlabel
  obtain ⟨t, ht⟩ := attempt_of_mem_yield hd hlabel'
  rw [Streams.attempt_halton s t, hcolor, ht] at hs
  exact (Except.ok.inj hs).symm

/-- A production that succeeds has a cloud for every method and count. -/
theorem label_mem_yield (settings : Settings) {entropy : Key}
    (hok : (settings.yield (α := α) entropy).2 = .ok ()) {m : Method} {n : UInt64} :
    m.label n ∈ (settings.yield (α := α) entropy).1.map (·.label) ↔ n ∈ settings.sampleCounts := by
  rw [settings.labels_yield_of_ok hok, List.mem_map]
  constructor
  · rintro ⟨⟨count, method⟩, hjob, hlabel⟩
    obtain ⟨rfl, rfl⟩ := Method.label_inj.mp hlabel
    exact mem_jobs.mp hjob
  · intro hn
    exact ⟨(n, m), mem_jobs.mpr hn, rfl⟩

end Settings

end Jobs

namespace Settings

/-- What an archive of a production has under a label of the radical inverses does not depend on the
counts. -/
theorem eq_of_cloud?_halton {a b : Settings} (hcolor : a.pointColor = b.pointColor) {k l : Key}
    {c d : Cloud Float} {n : UInt64}
    (hc : (a.produce k Archive.empty).value.1.cloud? (Method.halton.label n) = some c)
    (hd : (b.produce l Archive.empty).value.1.cloud? (Method.halton.label n) = some d) : c = d := by
  obtain ⟨hc, hlabel⟩ := Archive.mem_of_cloud? hc
  obtain ⟨hd, hlabel'⟩ := Archive.mem_of_cloud? hd
  rw [clouds_produce] at hc hd
  exact eq_of_halton_label hcolor hc hd hlabel hlabel'

theorem cloud?_produce_eq_none {settings : Settings} {entropy : Key}
    (hfits : ∀ n ∈ settings.sampleCounts, fitsSamples n.toNat = true) (m : Method) (n : UInt64) :
    (settings.produce entropy (Archive.empty (α := Float))).value.1.cloud? (m.label n) = none ↔
      n ∉ settings.sampleCounts := by
  have hok : (settings.yield (α := Float) entropy).2 = .ok () :=
    clouds_eq_ok allPairs_double _ (fun job hjob => hfits job.1 (mem_sampleCounts_of_mem_jobs hjob))
      _
  rw [Archive.cloud?_eq_none, clouds_produce, settings.label_mem_yield hok]

end Settings

/-- Productions with equal seeds and color. Where their counts without repeats agree, every receiver
is told the same, and where those of one begin those of the other, its clouds are the first clouds
of the other. Where their counts come in another order, the radical inverses under a label stay the
same, and none is lost if all samples can be kept. -/
theorem produce_by_distinct_counts {a b : Settings} {seed : UInt64} (hpcg : a.pcgSeed = b.pcgSeed)
    (ha : a.uniformSeed = some seed) (hb : b.uniformSeed = some seed)
    (hcolor : a.pointColor = b.pointColor) (k l : Key) :
    let archive (settings : Settings) (entropy : Key) : Archive Float :=
      (settings.produce entropy Archive.empty).value.1
    (a.sampleCounts.eraseDups = b.sampleCounts.eraseDups →
      ∀ (σ : Type) [Receiver σ Float] (state : σ), a.produce k state = b.produce l state) ∧
    (a.sampleCounts.eraseDups <+: b.sampleCounts.eraseDups →
      (archive a k).clouds = (archive b l).clouds.take (3 * a.sampleCounts.eraseDups.length)) ∧
    (a.sampleCounts.Perm b.sampleCounts → ∀ n : UInt64,
      (∀ c d, (archive a k).cloud? (Method.halton.label n) = some c →
        (archive b l).cloud? (Method.halton.label n) = some d → c = d) ∧
      ((∀ m ∈ a.sampleCounts, fitsSamples m.toNat = true) →
        (archive a k).cloud? (Method.halton.label n) =
          (archive b l).cloud? (Method.halton.label n))) := by
  intro archive
  have hstart : Streams.ofSeeds a.pcgSeed a.uniformSeed k =
      Streams.ofSeeds b.pcgSeed b.uniformSeed l := by
    rw [hpcg, ha, hb]
    rfl
  refine ⟨fun hcounts σ _ state => ?_, fun hcounts => ?_, fun hperm n => ?_⟩
  · have hjobs : a.jobs = b.jobs := by rw [Settings.jobs, Settings.jobs, hcounts]
    have hgrid : Layout.grid a.sampleCounts Method.all = Layout.grid b.sampleCounts Method.all := by
      rw [Layout.grid, Layout.grid, hcounts]
    rw [Settings.produce, Settings.produce, hstart, hjobs, hgrid, hcolor]
  · obtain ⟨more, hmore⟩ := Settings.jobs_prefix hcounts
    rw [Settings.clouds_produce, Settings.clouds_produce, ← a.length_jobs, Settings.yield,
      Settings.yield, hstart, hcolor, ← hmore, Streams.take_clouds_append]
  · have hsame (c d : Cloud Float) (hc : (archive a k).cloud? (Method.halton.label n) = some c)
        (hd : (archive b l).cloud? (Method.halton.label n) = some d) : c = d :=
      Settings.eq_of_cloud?_halton hcolor hc hd
    refine ⟨hsame, fun hfits => ?_⟩
    have hfits' : ∀ m ∈ b.sampleCounts, fitsSamples m.toNat = true :=
      fun m hm => hfits m (hperm.mem_iff.mpr hm)
    have hnone : (archive a k).cloud? (Method.halton.label n) = none ↔
        (archive b l).cloud? (Method.halton.label n) = none := by
      rw [Settings.cloud?_produce_eq_none hfits, Settings.cloud?_produce_eq_none hfits',
        hperm.mem_iff]
    cases hc : (archive a k).cloud? (Method.halton.label n) with
    | none => rw [hnone.mp hc]
    | some c =>
      obtain ⟨d, hd⟩ := Option.ne_none_iff_exists'.mp
        (mt hnone.mpr (by rw [hc]; exact Option.some_ne_none c))
      rw [hd, hsame c d hc hd]

/-- A repeated count makes what it makes alone. Another count behind it changes nothing, and in
another order the radical inverses are the same. -/
theorem produce_by_distinct_counts_repeated :
    let settings (counts : List UInt64) : Settings := ⟨7, some 5, counts, 0x00FFFFFF⟩
    let archive (counts : List UInt64) : Archive Float :=
      ((settings counts).produce (Key.ofSeed 0) Archive.empty).value.1
    let twice : List UInt64 := [2, 2]
    let three : List UInt64 := [2, 1, 2]
    (twice.eraseDups = [2].eraseDups ∧
      (settings twice).produce (Key.ofSeed 0) Viewer.initial =
        (settings [2]).produce (Key.ofSeed 1) Viewer.initial) ∧
      (twice.eraseDups <+: three.eraseDups ∧
        (archive twice).clouds = (archive three).clouds.take 3) ∧
      three.Perm [1, 2, 2] ∧ (∀ n ∈ three, fitsSamples n.toNat = true) ∧
      (archive three).cloud? (Method.halton.label 2) =
        (archive [1, 2, 2]).cloud? (Method.halton.label 2) := by
  intro settings archive twice three
  have hsame : twice.eraseDups = [2].eraseDups := by decide
  have hfront : twice.eraseDups <+: three.eraseDups := by decide
  have hperm : three.Perm [1, 2, 2] := by decide
  have hfits : ∀ n ∈ three, fitsSamples n.toNat = true := by
    simp [three, fitsSamples, fitsMemory]
  have hall (a b : List UInt64) := produce_by_distinct_counts (a := settings a) (b := settings b)
    rfl rfl rfl rfl (Key.ofSeed 0)
  obtain ⟨hproduce, -⟩ := hall twice [2] (Key.ofSeed 1)
  obtain ⟨-, hclouds, -⟩ := hall twice three (Key.ofSeed 0)
  obtain ⟨-, -, horder⟩ := hall three [1, 2, 2] (Key.ofSeed 0)
  exact ⟨⟨hsame, hproduce hsame Viewer Viewer.initial⟩, ⟨hfront, hclouds hfront⟩, hperm, hfits,
    (horder hperm 2).2 hfits⟩

end SphereCloud
