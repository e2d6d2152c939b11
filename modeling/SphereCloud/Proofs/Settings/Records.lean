import SphereCloud.Proofs.Settings.Fields
import SphereCloud.Settings.File

/-!
Records of any of the fields in any order: when one is accepted, and which settings it gives.
-/

namespace SphereCloud.Settings

open RecordText

namespace Given

theorem add_eq_ok {g next : Given} {f : Field} :
    g.add f = .ok next ↔ ¬g.gives f ∧ f.Fits ∧ g.put f = next := by
  unfold add
  split
  · simp [*]
  · split
    · simp [*]
    · simp [*]

/-- Fields are accepted exactly if all of them are new and fit. -/
theorem foldlM_add_eq_ok {fields : List Field} {g last : Given} :
    fields.foldlM add g = .ok last ↔
      ((fields.map Field.name).Nodup ∧ ∀ f ∈ fields, ¬g.gives f ∧ f.Fits) ∧
        fields.foldl put g = last := by
  induction fields generalizing g with
  | nil => simp [pure, Except.pure]
  | cons f fields ih =>
    rw [List.foldlM_cons, List.map_cons, List.nodup_cons, List.forall_mem_cons, List.foldl_cons,
      bind_eq_ok]
    constructor
    · rintro ⟨next, hadd, hrest⟩
      obtain ⟨hnew, hfits, rfl⟩ := add_eq_ok.mp hadd
      obtain ⟨⟨hnames, hall⟩, hlast⟩ := ih.mp hrest
      refine ⟨⟨⟨fun hmem => ?_, hnames⟩, ⟨hnew, hfits⟩,
        fun e he => ⟨fun hgives => ?_, (hall e he).2⟩⟩, hlast⟩
      · obtain ⟨e, he, hname⟩ := List.mem_map.mp hmem
        exact (hall e he).1 (gives_put.mpr (.inr hname))
      · exact (hall e he).1 (gives_put.mpr (.inl hgives))
    · rintro ⟨⟨⟨hname, hnames⟩, ⟨hnew, hfits⟩, hall⟩, hlast⟩
      refine ⟨g.put f, add_eq_ok.mpr ⟨hnew, hfits, rfl⟩,
        ih.mpr ⟨⟨hnames, fun e he => ⟨fun hgives => ?_, (hall e he).2⟩⟩, hlast⟩⟩
      rcases gives_put.mp hgives with hgives | hsame
      · exact (hall e he).1 hgives
      · exact hname (hsame ▸ List.mem_map_of_mem he)

theorem foldlM_add_none {fields : List Field} {last : Given} :
    fields.foldlM add none = .ok last ↔
      ((fields.map Field.name).Nodup ∧ ∀ f ∈ fields, f.Fits) ∧ fields.foldl put none = last := by
  simp [foldlM_add_eq_ok, gives_none]

/-- The first field that is not accepted decides. -/
theorem foldlM_add_of_first {front back : List Field} {f : Field} {fault : Fault}
    (hnames : (front.map Field.name).Nodup) (hfits : ∀ e ∈ front, e.Fits)
    (hadd : (front.foldl put none).add f = .error fault) :
    (front ++ f :: back).foldlM add none = .error fault := by
  have hfront : front.foldlM add none = .ok (front.foldl put none) :=
    foldlM_add_none.mpr ⟨⟨hnames, hfits⟩, rfl⟩
  rw [List.foldlM_append, hfront, ok_bind, List.foldlM_cons, hadd, error_bind]

end Given

/-- Whether the settings have the numbers that are written for a field. -/
def Has (c : Settings) : Field → Prop
  | .pcgSeed n => c.pcgSeed.toNat = n.value
  | .uniformSeed seed => c.uniformSeed.map UInt64.toNat = seed.map Numeral.value
  | .sampleCounts _ ns => c.sampleCounts.map UInt64.toNat = ns.map Numeral.value
  | .pointColor n => c.pointColor.toNat = n.value

instance (c : Settings) : DecidablePred c.Has
  | .pcgSeed n => inferInstanceAs (Decidable (c.pcgSeed.toNat = n.value))
  | .uniformSeed seed =>
    inferInstanceAs (Decidable (c.uniformSeed.map UInt64.toNat = seed.map Numeral.value))
  | .sampleCounts _ ns =>
    inferInstanceAs (Decidable (c.sampleCounts.map UInt64.toNat = ns.map Numeral.value))
  | .pointColor n => inferInstanceAs (Decidable (c.pointColor.toNat = n.value))

theorem has_put_self {g : Given} {f : Field} (hfits : f.Fits) : (g.put f).complete.Has f := by
  cases f with
  | pcgSeed n => exact UInt32.toNat_ofNat_of_lt' hfits
  | uniformSeed seed =>
    cases seed with
    | none => rfl
    | some n => exact congrArg some (UInt64.toNat_ofNat_of_lt' (hfits n rfl))
  | sampleCounts spacing ns =>
    have hwords : (ns.map fun n => UInt64.ofNat n.value).map UInt64.toNat =
        ns.map Numeral.value := by
      rw [List.map_map]
      exact List.map_congr_left fun n hn => UInt64.toNat_ofNat_of_lt' (hfits n hn)
    exact hwords
  | pointColor n => exact UInt32.toNat_ofNat_of_lt' hfits

theorem has_put_of_ne {g : Given} {f other : Field} (hname : f.name ≠ other.name) :
    (g.put other).complete.Has f ↔ g.complete.Has f := by
  cases other <;> cases f <;> first | exact Iff.rfl | exact absurd rfl hname

theorem has_foldl_put_of_not_mem {fields : List Field} {f : Field}
    (hname : f.name ∉ fields.map Field.name) {g : Given} :
    (fields.foldl Given.put g).complete.Has f ↔ g.complete.Has f := by
  induction fields generalizing g with
  | nil => exact Iff.rfl
  | cons other fields ih =>
    rw [List.map_cons, List.mem_cons, not_or] at hname
    rw [List.foldl_cons, ih hname.2, has_put_of_ne hname.1]

theorem has_foldl_put_of_mem {fields : List Field} (hnames : (fields.map Field.name).Nodup)
    {f : Field} (hf : f ∈ fields) (hfits : f.Fits) {g : Given} :
    (fields.foldl Given.put g).complete.Has f := by
  obtain ⟨front, back, rfl⟩ := List.append_of_mem hf
  have hbehind : f.name ∉ back.map Field.name := by
    rw [List.map_append, List.map_cons] at hnames
    exact (List.nodup_cons.mp (List.nodup_append.mp hnames).2.1).1
  rw [List.foldl_append, List.foldl_cons, has_foldl_put_of_not_mem hbehind]
  exact has_put_self hfits

def inLine : Spacing where
  lead := []
  before := []
  after := [' ']
  last := []
  trailing := false
  blank_lead := List.forall_mem_nil _
  blank_before := List.forall_mem_nil _
  blank_after := List.forall_mem_singleton.mpr (by decide)
  blank_last := List.forall_mem_nil _

def recordOf (spacing : Spacing) (fields : List Field) : Source :=
  '(' :: (spacing.inside Field.text fields ++ [')'])

theorem readHeader_recordOf (spacing : Spacing) (fields : List Field) :
    readHeader (recordOf spacing fields) = .ok (Extensions.none, recordOf spacing fields) := by
  have hopen : skipBlank (recordOf spacing fields) = .ok (recordOf spacing fields) :=
    skipBlank_of_opensToken (by decide) _
  rw [readHeader, hopen, ok_bind]
  rfl

/-- Reading a record comes to giving its fields one by one. -/
theorem read_recordOf (spacing : Spacing) (fields : List Field) :
    read (recordOf spacing fields) = (fields.foldlM Given.add .none).map Given.complete := by
  have hname : readRecordName .none (recordOf spacing fields) = .ok (recordOf spacing fields) := rfl
  have hopen : skipBlank (recordOf spacing fields) = .ok (recordOf spacing fields) :=
    skipBlank_of_opensToken (by decide) _
  have hentries :
      readEntries ')' (readField .none) .none (spacing.inside Field.text fields ++ [')']) =
        (fields.foldlM Given.add .none).map (·, [')']) :=
    Spacing.readEntries_inside isCloser_parenthesis (fun f _ => f.opensEntry_text)
      fun g f _ r hr => readField_text .none g f hr
  rw [read, readHeader_recordOf, ok_bind]
  simp only [hname, hopen, ok_bind]
  rw [recordOf]
  simp only [hentries]
  cases fields.foldlM Given.add .none with
  | error fault => rfl
  | ok g => rfl

theorem fromUTF8?_toUTF8 (text : String) : String.fromUTF8? text.toUTF8 = some text := by
  rw [String.fromUTF8?, String.toUTF8_eq_toByteArray, dif_pos text.isValidUTF8]
  rfl

def fileOf (text : Source) : FileState :=
  .file (String.ofList text).toUTF8

theorem load_fileOf (text : Source) :
    load (fileOf text) = (read text).mapError .malformed := by
  have htext : (fileOf text).text = .ok (String.ofList text) := by
    rw [fileOf, FileState.text, fromUTF8?_toUTF8]
  simp only [load, htext, String.toList_ofList]
  cases read text with
  | error fault => rfl
  | ok c => rfl

theorem load_recordOf_eq_ok {spacing : Spacing} {fields : List Field} {c : Settings} :
    load (fileOf (recordOf spacing fields)) = .ok c ↔
      ((fields.map Field.name).Nodup ∧ ∀ f ∈ fields, f.Fits) ∧
        (fields.foldl Given.put .none).complete = c := by
  rw [load_fileOf, read_recordOf]
  cases h : fields.foldlM Given.add .none with
  | error fault =>
    refine iff_of_false nofun fun ⟨haccepted, _⟩ => ?_
    rw [Given.foldlM_add_none.mpr ⟨haccepted, rfl⟩] at h
    cases h
  | ok g =>
    obtain ⟨haccepted, rfl⟩ := Given.foldlM_add_none.mp h
    rw [and_iff_right haccepted]
    exact ⟨Except.ok.inj, congrArg Except.ok⟩

theorem load_recordOf_of_first {spacing : Spacing} {front back : List Field} {f : Field}
    {fault : Fault} (hnames : (front.map Field.name).Nodup) (hfits : ∀ e ∈ front, e.Fits)
    (hadd : (front.foldl Given.put .none).add f = .error fault) :
    load (fileOf (recordOf spacing (front ++ f :: back))) = .error (.malformed fault) := by
  rw [load_fileOf, read_recordOf, Given.foldlM_add_of_first hnames hfits hadd]
  rfl

/-- A record of any of the fields in any order is loaded exactly if no field is given twice and all
fit, and then the fields given replace the defaults and the others keep them. Otherwise the first
field that was given before or does not fit is what is wrong with the file. -/
theorem load_record (spacing : Spacing) (fields : List Field) :
    let loaded := load (fileOf (recordOf spacing fields))
    ((∃ c, loaded = .ok c) ↔ (fields.map Field.name).Nodup ∧ ∀ f ∈ fields, f.Fits) ∧
      (∀ c, loaded = .ok c → (∀ f ∈ fields, c.Has f) ∧
        ∀ f : Field, f.name ∉ fields.map Field.name → (c.Has f ↔ (default : Settings).Has f)) ∧
      ∀ front f back, fields = front ++ f :: back →
        (front.map Field.name).Nodup → (∀ e ∈ front, e.Fits) →
          (f.name ∈ front.map Field.name →
            loaded = .error (.malformed (.repeatedField recordName f.name))) ∧
          (f.name ∉ front.map Field.name → ¬f.Fits →
            loaded = .error (.malformed .outOfBounds)) := by
  intro loaded
  refine ⟨⟨fun ⟨c, hc⟩ => (load_recordOf_eq_ok.mp hc).1, fun h => ?_⟩, fun c hc => ?_, ?_⟩
  · exact ⟨_, load_recordOf_eq_ok.mpr ⟨h, rfl⟩⟩
  · obtain ⟨⟨hnames, hfits⟩, rfl⟩ := load_recordOf_eq_ok.mp hc
    exact ⟨fun f hf => has_foldl_put_of_mem hnames hf (hfits f hf),
      fun f hname => has_foldl_put_of_not_mem hname⟩
  · rintro front f back rfl hnames hfits
    have hgives : (front.foldl Given.put .none).gives f ↔ f.name ∈ front.map Field.name := by
      simp [Given.gives_foldl_put, Given.gives_none]
    refine ⟨fun hmem => load_recordOf_of_first hnames hfits ?_,
      fun hnew hfault => load_recordOf_of_first hnames hfits ?_⟩
    · exact if_pos (hgives.mpr hmem)
    · rw [Given.add, if_neg (mt hgives.mp hnew), if_neg hfault]

theorem load_record_in_line :
    (∃ c, load (fileOf "(sample_counts: [8])".toList) = .ok c ∧
      c.sampleCounts.map UInt64.toNat = [8] ∧ c.pointColor.toNat = 0x00FFFFFF) ∧
    load (fileOf "(point_color: 4294967296, pcg_seed: 1)".toList) =
      .error (.malformed .outOfBounds) ∧
    load (fileOf "(pcg_seed: 1, uniform_seed: None, pcg_seed: 4294967296)".toList) =
      .error (.malformed (.repeatedField "Config" "pcg_seed")) := by
  have hcounts : "(sample_counts: [8])".toList =
      recordOf inLine [.sampleCounts inLine [.ofNat 8]] := by decide +kernel
  have hcolor : "(point_color: 4294967296, pcg_seed: 1)".toList =
      recordOf inLine ([] ++ .pointColor (.ofNat 4294967296) :: [.pcgSeed (.ofNat 1)]) := by
    decide +kernel
  have hrepeated : "(pcg_seed: 1, uniform_seed: None, pcg_seed: 4294967296)".toList =
      recordOf inLine
        ([.pcgSeed (.ofNat 1), .uniformSeed none] ++ .pcgSeed (.ofNat 4294967296) :: []) := by
    decide +kernel
  refine ⟨?_, ?_, ?_⟩
  · rw [hcounts]
    obtain ⟨haccepted, hvalues, -⟩ := load_record inLine [.sampleCounts inLine [.ofNat 8]]
    obtain ⟨c, hc⟩ := haccepted.mpr ⟨by decide, by decide⟩
    obtain ⟨hgiven, hkept⟩ := hvalues c hc
    refine ⟨c, hc, hgiven _ List.mem_cons_self, ?_⟩
    exact (hkept (.pointColor (.ofNat 0x00FFFFFF)) (by decide)).mpr (by decide)
  · rw [hcolor]
    exact ((load_record inLine _).2.2 _ _ _ rfl (by decide) (by decide)).2 (by decide) (by decide)
  · rw [hrepeated]
    exact ((load_record inLine _).2.2 _ _ _ rfl (by decide) (by decide)).1 (by decide)

end SphereCloud.Settings
