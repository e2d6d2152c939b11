import SphereCloud.Proofs.RecordText.Entries
import SphereCloud.Settings.Reader

/-!
The fields that a text can give, with numbers of any size: how one is written, and what reading it
comes to.
-/

namespace SphereCloud.Settings

open RecordText

/-- A field as a text gives it. -/
inductive Field where
  | pcgSeed (n : Numeral)
  | uniformSeed (seed : Option Numeral)
  | sampleCounts (spacing : Spacing) (ns : List Numeral)
  | pointColor (n : Numeral)

namespace Field

def name : Field → String
  | .pcgSeed _ => "pcg_seed"
  | .uniformSeed _ => "uniform_seed"
  | .sampleCounts _ _ => "sample_counts"
  | .pointColor _ => "point_color"

def seedText : Option Numeral → List Char
  | none => "None".toList
  | some n => "Some(".toList ++ n.digits ++ [')']

@[simp] theorem seedText_none : seedText none = "None".toList := rfl

@[simp] theorem seedText_some (n : Numeral) :
    seedText (some n) = "Some(".toList ++ n.digits ++ [')'] :=
  rfl

def countsText (spacing : Spacing) (ns : List Numeral) : List Char :=
  '[' :: spacing.inside Numeral.digits ns ++ [']']

def value : Field → List Char
  | .pcgSeed n => n.digits
  | .uniformSeed seed => seedText seed
  | .sampleCounts spacing ns => countsText spacing ns
  | .pointColor n => n.digits

def text (f : Field) : List Char :=
  f.name.toList ++ ':' :: ' ' :: f.value

/-- Whether the field can have the numbers that are written for it. -/
def Fits : Field → Prop
  | .pcgSeed n => n.value < UInt32.size
  | .uniformSeed seed => ∀ n ∈ seed, n.value < UInt64.size
  | .sampleCounts _ ns => ∀ n ∈ ns, n.value < UInt64.size
  | .pointColor n => n.value < UInt32.size

instance : DecidablePred Fits
  | .pcgSeed n => inferInstanceAs (Decidable (n.value < UInt32.size))
  | .uniformSeed seed => inferInstanceAs (Decidable (∀ n ∈ seed, n.value < UInt64.size))
  | .sampleCounts _ ns => inferInstanceAs (Decidable (∀ n ∈ ns, n.value < UInt64.size))
  | .pointColor n => inferInstanceAs (Decidable (n.value < UInt32.size))

theorem isPlainName_name (f : Field) : isPlainName f.name := by
  cases f with
  | pcgSeed n => exact (by decide : isPlainName "pcg_seed")
  | uniformSeed seed => exact (by decide : isPlainName "uniform_seed")
  | sampleCounts spacing ns => exact (by decide : isPlainName "sample_counts")
  | pointColor n => exact (by decide : isPlainName "point_color")

theorem opensEntry_text (f : Field) : OpensEntry ')' f.text := by
  obtain ⟨c, r, hname, hc⟩ : ∃ c r, f.name.toList = c :: r ∧ opensToken c ∧ c ≠ ')' := by
    cases f with
    | pcgSeed n => exact ⟨'p', _, String.toList_ofList, by decide⟩
    | uniformSeed seed => exact ⟨'u', _, String.toList_ofList, by decide⟩
    | sampleCounts spacing ns => exact ⟨'s', _, String.toList_ofList, by decide⟩
    | pointColor n => exact ⟨'p', _, String.toList_ofList, by decide⟩
  exact ⟨c, r ++ ':' :: ' ' :: f.value, by rw [text, hname, List.cons_append], hc⟩

theorem opensEntry_value (f : Field) : OpensEntry ')' f.value := by
  cases f with
  | pcgSeed n => exact n.opensEntry_digits (by decide)
  | uniformSeed seed =>
    cases seed with
    | none => exact ⟨'N', _, rfl, by decide⟩
    | some n => exact ⟨'S', _, rfl, by decide⟩
  | sampleCounts spacing ns => exact ⟨'[', _, rfl, by decide⟩
  | pointColor n => exact n.opensEntry_digits (by decide)

end Field

namespace Given

def put (g : Given) : Field → Given
  | .pcgSeed n => { g with pcgSeed := some (UInt32.ofNat n.value) }
  | .uniformSeed seed => { g with uniformSeed := some (seed.map fun n => UInt64.ofNat n.value) }
  | .sampleCounts _ ns => { g with sampleCounts := some (ns.map fun n => UInt64.ofNat n.value) }
  | .pointColor n => { g with pointColor := some (UInt32.ofNat n.value) }

def gives (g : Given) : Field → Bool
  | .pcgSeed _ => g.pcgSeed.isSome
  | .uniformSeed _ => g.uniformSeed.isSome
  | .sampleCounts _ _ => g.sampleCounts.isSome
  | .pointColor _ => g.pointColor.isSome

/-- One more field is given unless it was given before or cannot have its numbers. -/
def add (g : Given) (f : Field) : Except Fault Given :=
  if g.gives f then .error (.repeatedField recordName f.name)
  else if f.Fits then .ok (g.put f)
  else .error .outOfBounds

theorem gives_put {g : Given} {f other : Field} :
    (g.put other).gives f ↔ g.gives f ∨ f.name = other.name := by
  cases other <;> cases f <;> simp [put, gives, Field.name]

theorem gives_foldl_put {fields : List Field} {f : Field} {g : Given} :
    (fields.foldl put g).gives f ↔ g.gives f ∨ f.name ∈ fields.map Field.name := by
  induction fields generalizing g with
  | nil => simp
  | cons other fields ih =>
    rw [List.foldl_cons, ih, gives_put, List.map_cons, List.mem_cons, or_assoc]

theorem gives_none (f : Field) : none.gives f = false := by
  cases f <;> rfl

end Given

theorem readWord32_numeral (n : Numeral) {s : Source} (hs : endsWord s) :
    readWord32 (n.digits ++ s) =
      if n.value < UInt32.size then .ok (UInt32.ofNat n.value, s) else .error .outOfBounds := by
  have hreach : IntKind.u32.reach = UInt32.size := rfl
  rw [readWord32, readInt_numeral rfl n hs, hreach]
  split
  · rw [ok_bind]
    simp only [Int.toNat_natCast]
    rfl
  · exact error_bind _ _

theorem readWord64_numeral (n : Numeral) {s : Source} (hs : endsWord s) :
    readWord64 (n.digits ++ s) =
      if n.value < UInt64.size then .ok (UInt64.ofNat n.value, s) else .error .outOfBounds := by
  have hreach : IntKind.u64.reach = UInt64.size := rfl
  rw [readWord64, readInt_numeral rfl n hs, hreach]
  split
  · rw [ok_bind]
    simp only [Int.toNat_natCast]
    rfl
  · exact error_bind _ _

theorem readOptional_seedText (ext : Extensions) (seed : Option Numeral) {s : Source}
    (hs : endsWord s) :
    readOptional ext (Field.seedText seed ++ s) =
      if ∀ n ∈ seed, n.value < UInt64.size then .ok (seed.map fun n => UInt64.ofNat n.value, s)
      else .error .outOfBounds := by
  cases seed with
  | none =>
    have hfits : ∀ n ∈ (none : Option Numeral), n.value < UInt64.size := nofun
    rw [if_pos hfits, Field.seedText_none, readOptional, afterWord?_append "None" hs]
    rfl
  | some n =>
    have htext : Field.seedText (some n) ++ s = "Some".toList ++ '(' :: (n.digits ++ ')' :: s) := by
      simp
    have hnone : afterWord? "None" ("Some".toList ++ '(' :: (n.digits ++ ')' :: s)) = none :=
      afterWord?_of_ne rfl (by decide)
    have hsome : afterWord? "Some" ("Some".toList ++ '(' :: (n.digits ++ ')' :: s)) =
        some ('(' :: (n.digits ++ ')' :: s)) := afterWord?_append "Some" rfl
    have hopen : skipBlank ('(' :: (n.digits ++ ')' :: s)) = .ok ('(' :: (n.digits ++ ')' :: s)) :=
      skipBlank_of_opensToken (by decide) _
    have hblank : skipBlank (n.digits ++ ')' :: s) = .ok (n.digits ++ ')' :: s) :=
      (n.opensEntry_digits (by decide : ')'.isDigit = false)).skipBlank_append _
    have hclose : comma (')' :: s) = .ok (false, ')' :: s) :=
      comma_of_ne (by decide) (by decide) s
    have hend : endsWord (')' :: s) := rfl
    rw [htext, readOptional]
    simp only [hnone, hsome, hopen, hblank, readWord64_numeral n hend, ok_bind, Option.mem_some_iff,
      forall_eq']
    split
    · simp only [ok_bind, hclose]
      rfl
    · rfl

def addCount (counts : List UInt64) (n : Numeral) : Except Fault (List UInt64) :=
  if n.value < UInt64.size then .ok (counts ++ [UInt64.ofNat n.value]) else .error .outOfBounds

theorem readCount_numeral (counts : List UInt64) (n : Numeral) {s : Source} (hs : endsWord s) :
    readCount counts (n.digits ++ s) = (addCount counts n).map (·, s) := by
  rw [readCount, readWord64_numeral n hs, addCount]
  split
  · rfl
  · rfl

theorem foldlM_addCount (ns : List Numeral) :
    ns.foldlM addCount [] =
      if ∀ n ∈ ns, n.value < UInt64.size then .ok (ns.map fun n => UInt64.ofNat n.value)
      else .error .outOfBounds := by
  have hlist : ns.foldl (fun counts n => counts ++ [UInt64.ofNat n.value]) [] =
      ns.map fun n => UInt64.ofNat n.value := by
    rw [List.foldl_append_eq_append, List.nil_append, ← List.flatMap_def, ← List.map_eq_flatMap]
  rw [← hlist]
  exact foldlM_ite _ _ ns []

theorem readCounts_countsText (spacing : Spacing) (ns : List Numeral) (s : Source) :
    readCounts (Field.countsText spacing ns ++ s) =
      if ∀ n ∈ ns, n.value < UInt64.size then .ok (ns.map fun n => UInt64.ofNat n.value, s)
      else .error .outOfBounds := by
  have hopen : ∀ n ∈ ns, OpensEntry ']' n.digits := fun n _ => n.opensEntry_digits (by decide)
  have hread : readEntries ']' readCount [] (spacing.inside Numeral.digits ns ++ ']' :: s) =
      (ns.foldlM addCount []).map (·, ']' :: s) :=
    Spacing.readEntries_inside isCloser_bracket hopen fun counts n _ r hr =>
      readCount_numeral counts n hr
  rw [Field.countsText, List.cons_append, List.cons_append, List.append_assoc,
    List.singleton_append, readCounts, hread, foldlM_addCount]
  split
  · rfl
  · rfl

theorem newField_value {α : Type} (name : String) (given : Option α) (f : Field) (s : Source) :
    newField name given (':' :: ' ' :: (f.value ++ s)) =
      if given.isSome then .error (.repeatedField recordName name) else .ok (f.value ++ s) := by
  have hblank : skipBlank (' ' :: (f.value ++ s)) = .ok (f.value ++ s) := by
    rw [skipBlank_cons (by decide), f.opensEntry_value.skipBlank_append]
  rw [newField, expectColon_cons hblank]

/-- What becomes of a field whose value is read to `v` if it fits. -/
theorem newField_bind {γ : Type} (name : String) (given : Option γ) (f : Field) {s : Source}
    {reader : Source → Except Fault (γ × Source)} {v : γ} (place : γ → Given)
    (hread : reader (f.value ++ s) = if f.Fits then .ok (v, s) else .error .outOfBounds) :
    (do
      let (x, r) ← reader (← newField name given (':' :: ' ' :: (f.value ++ s)))
      return (place x, r)) =
      (if given.isSome then .error (.repeatedField recordName name)
        else if f.Fits then .ok (place v)
        else .error .outOfBounds : Except Fault Given).map (·, s) := by
  rw [newField_value]
  split
  · rfl
  · rw [ok_bind, hread]
    split
    · rfl
    · rfl

/-- What reading a field comes to. -/
theorem readField_text (ext : Extensions) (g : Given) (f : Field) {s : Source} (hs : endsWord s) :
    readField ext g (f.text ++ s) = (g.add f).map (·, s) := by
  have hname : readName (f.name.toList ++ (':' :: ' ' :: (f.value ++ s))) = .ok (f.name, _) :=
    readName_append f.isPlainName_name rfl
  rw [Field.text, List.append_assoc, List.cons_append, List.cons_append, readField, hname, ok_bind]
  cases f with
  | pcgSeed n =>
    exact newField_bind "pcg_seed" g.pcgSeed (.pcgSeed n) (fun v => { g with pcgSeed := some v })
      (readWord32_numeral n hs)
  | uniformSeed seed =>
    exact newField_bind "uniform_seed" g.uniformSeed (.uniformSeed seed)
      (fun v => { g with uniformSeed := some v }) (readOptional_seedText ext seed hs)
  | sampleCounts spacing ns =>
    exact newField_bind "sample_counts" g.sampleCounts (.sampleCounts spacing ns)
      (fun v => { g with sampleCounts := some v }) (readCounts_countsText spacing ns s)
  | pointColor n =>
    exact newField_bind "point_color" g.pointColor (.pointColor n)
      (fun v => { g with pointColor := some v }) (readWord32_numeral n hs)

end SphereCloud.Settings
