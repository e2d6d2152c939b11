import SphereCloud.Proofs.Settings.Records
import SphereCloud.Settings.Basic

/-!
Settings are read from a text, and loaded from a file, as they were written.
-/

namespace SphereCloud.Settings

open RecordText

theorem isBlank_of_mem_indent {level : Nat} : ∀ c ∈ indent level, isBlank c := by
  intro c hc
  obtain rfl : c = ' ' := (List.mem_replicate.mp hc).2
  decide

theorem isBlank_of_mem_newline : ∀ c ∈ ['\n'], isBlank c :=
  List.forall_mem_singleton.mpr (by decide)

/-- Entries one a line, and one level deeper than the bracket that closes them. -/
def deeper (level : Nat) : Spacing where
  lead := ['\n']
  before := indent (level + 1)
  after := ['\n']
  last := indent level
  trailing := true
  blank_lead := isBlank_of_mem_newline
  blank_before := isBlank_of_mem_indent
  blank_after := isBlank_of_mem_newline
  blank_last := isBlank_of_mem_indent

def countsSpacing : List UInt64 → Spacing
  | [] => inLine
  | _ :: _ => deeper 1

def fields (c : Settings) : List Field :=
  [.pcgSeed (.ofNat c.pcgSeed.toNat),
    .uniformSeed (c.uniformSeed.map fun n => .ofNat n.toNat),
    .sampleCounts (countsSpacing c.sampleCounts) (c.sampleCounts.map fun n => .ofNat n.toNat),
    .pointColor (.ofNat c.pointColor.toNat)]

theorem optional_eq_seedText (seed : Option UInt64) :
    optional seed = Field.seedText (seed.map fun n => .ofNat n.toNat) := by
  cases seed with
  | none => rfl
  | some n => rfl

theorem counts_eq_countsText (ns : List UInt64) :
    counts ns = Field.countsText (countsSpacing ns) (ns.map fun n => .ofNat n.toNat) := by
  cases ns with
  | nil => rfl
  | cons n ns =>
    have htrailing : (deeper 1).trailing := rfl
    rw [Field.countsText, countsSpacing, Spacing.inside, Spacing.series_eq_flatMap _ _ htrailing]
    simp [counts, deeper, number, Numeral.ofNat, List.flatMap_map]

theorem written_eq_recordOf (c : Settings) : c.written = recordOf (deeper 0) c.fields := by
  have htrailing : (deeper 0).trailing := rfl
  rw [written, optional_eq_seedText, counts_eq_countsText, recordOf, Spacing.inside,
    Spacing.series_eq_flatMap _ _ htrailing]
  simp [fields, field, Field.text, Field.name, Field.value, deeper, indent, number, Numeral.ofNat]

example : String.ofList (default : Settings).written =
    "(\n    pcg_seed: 123,\n    uniform_seed: None,\n    sample_counts: [\n        1024,\n" ++
      "        2048,\n    ],\n    point_color: 16777215,\n)" := by
  decide +kernel

theorem nodup_names_fields (c : Settings) : (c.fields.map Field.name).Nodup :=
  (by decide : ["pcg_seed", "uniform_seed", "sample_counts", "point_color"].Nodup)

theorem fits_of_mem_fields (c : Settings) : ∀ f ∈ c.fields, f.Fits := by
  have hword (n : UInt64) : (Numeral.ofNat n.toNat).value < UInt64.size := by
    rw [Numeral.value_ofNat]
    exact n.toNat_lt
  have hshort (n : UInt32) : (Numeral.ofNat n.toNat).value < UInt32.size := by
    rw [Numeral.value_ofNat]
    exact n.toNat_lt
  have hseed : ∀ n ∈ c.uniformSeed.map fun n => Numeral.ofNat n.toNat, n.value < UInt64.size := by
    intro n hn
    obtain ⟨seed, -, rfl⟩ := Option.map_eq_some_iff.mp hn
    exact hword seed
  have hcounts : ∀ n ∈ c.sampleCounts.map fun n => Numeral.ofNat n.toNat, n.value < UInt64.size :=
    List.forall_mem_map.mpr fun n _ => hword n
  rw [fields]
  simp only [List.forall_mem_cons, List.not_mem_nil, false_imp_iff, implies_true, and_true]
  exact ⟨hshort c.pcgSeed, hseed, hcounts, hshort c.pointColor⟩

theorem complete_fields (c : Settings) : (c.fields.foldl Given.put .none).complete = c := by
  simp [fields, Given.put, Given.complete, Function.comp_def]

/-- Settings are read as they were written. -/
theorem read_written (c : Settings) : read c.written = .ok c := by
  have hgiven : c.fields.foldlM Given.add .none = .ok (c.fields.foldl Given.put .none) :=
    Given.foldlM_add_none.mpr ⟨⟨c.nodup_names_fields, c.fits_of_mem_fields⟩, rfl⟩
  rw [written_eq_recordOf, read_recordOf, hgiven]
  exact congrArg Except.ok c.complete_fields

def saved (c : Settings) : FileState :=
  fileOf c.written

theorem save_eq_saved (c : Settings) {state : FileState} (h : state ≠ .directory) :
    c.save state = .ok c.saved := by
  cases state with
  | absent => rfl
  | directory => exact absurd rfl h
  | file bytes => rfl

/-- Saved settings are loaded. -/
theorem load_saved (c : Settings) : load c.saved = .ok c := by
  rw [saved, load_fileOf, read_written]
  rfl

theorem saved_injective : Function.Injective saved := by
  intro c d h
  have hload := d.load_saved
  rw [← h, load_saved] at hload
  exact Except.ok.inj hload

/-- What is saved outside a directory is a file from which the same settings are loaded, to which no
others are saved, and which does not change when they are saved again. -/
theorem save_round_trip (c : Settings) {state : FileState} (h : state ≠ .directory) :
    ∃ bytes, c.save state = .ok (.file bytes) ∧ load (.file bytes) = .ok c ∧
      (∀ d : Settings, d ≠ c → ∀ place, d.save place ≠ .ok (.file bytes)) ∧
      ∀ loaded, load (.file bytes) = .ok loaded →
        ∀ place, place ≠ .directory → loaded.save place = .ok (.file bytes) := by
  refine ⟨_, c.save_eq_saved h, c.load_saved, fun d hne place hsame => ?_,
    fun loaded hloaded place hplace => ?_⟩
  · have hplace : place ≠ .directory := by
      rintro rfl
      cases hsame
    rw [save_eq_saved d hplace] at hsame
    exact hne (saved_injective (Except.ok.inj hsame))
  · obtain rfl : c = loaded := Except.ok.inj (c.load_saved.symm.trans hloaded)
    exact c.save_eq_saved hplace

theorem save_round_trip_greatest :
    ∃ bytes, save ⟨4294967295, some 18446744073709551615, [], 0⟩ .absent = .ok (.file bytes) ∧
      load (.file bytes) = .ok ⟨4294967295, some 18446744073709551615, [], 0⟩ := by
  have h : FileState.absent ≠ .directory := nofun
  obtain ⟨bytes, hsave, hload, -, -⟩ :=
    save_round_trip ⟨4294967295, some 18446744073709551615, [], 0⟩ h
  exact ⟨bytes, hsave, hload⟩

end SphereCloud.Settings
