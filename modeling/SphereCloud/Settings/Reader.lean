import SphereCloud.Settings.Basic
import SphereCloud.RecordText.Value

/-!
Reading the settings: a record with any of the four fields in any order, none of them twice. A field
that is not given has its default; fields of other names are passed over.
-/

namespace SphereCloud.Settings

open RecordText

def recordName : String := "Config"

structure Given where
  pcgSeed : Option UInt32
  uniformSeed : Option (Option UInt64)
  sampleCounts : Option (List UInt64)
  pointColor : Option UInt32

def Given.none : Given := ⟨.none, .none, .none, .none⟩

/-- The settings in which the given fields replace the defaults. -/
def Given.complete (g : Given) : Settings where
  pcgSeed := g.pcgSeed.getD (default : Settings).pcgSeed
  uniformSeed := g.uniformSeed.getD (default : Settings).uniformSeed
  sampleCounts := g.sampleCounts.getD (default : Settings).sampleCounts
  pointColor := g.pointColor.getD (default : Settings).pointColor

def readWord32 (s : Source) : Except Fault (UInt32 × Source) := do
  let (n, s) ← readInt .u32 s
  return (UInt32.ofNat n.toNat, s)

def readWord64 (s : Source) : Except Fault (UInt64 × Source) := do
  let (n, s) ← readInt .u64 s
  return (UInt64.ofNat n.toNat, s)

/-- Reads a number that may stand without `Some` if the extension allows it. -/
def readBare (ext : Extensions) (s : Source) : Except Fault (Option UInt64 × Source) :=
  if ext.bareOption then do
    let (n, r) ← readWord64 s
    return (some n, r)
  else .error .noOption

/-- Reads `None`, a number in `Some` or, where that may be left out, a bare number. -/
def readOptional (ext : Extensions) (s : Source) :
    Except Fault (Option UInt64 × Source) :=
  match afterWord? "None" s, afterWord? "Some" s with
  | some r, _ => .ok (.none, r)
  | .none, .none => readBare ext s
  | .none, some r => do
    match ← skipBlank r with
    | '(' :: r =>
      let (n, r) ← readWord64 (← skipBlank r)
      match ← comma r with
      | (_, ')' :: r) => return (some n, r)
      | _ => throw .noOptionEnd
    | r => readBare ext r

def readCount (counts : List UInt64) (s : Source) : Except Fault (List UInt64 × Source) := do
  let (n, s) ← readWord64 s
  return (counts ++ [n], s)

def readCounts : Source → Except Fault (List UInt64 × Source)
  | '[' :: r => do
    let (counts, r) ← readEntries ']' readCount [] r
    return (counts, r.drop 1)
  | _ => .error .noListStart

/-- Refuses a field that was given before, and reads the colon behind a new one. -/
def newField {α : Type} (name : String) (given : Option α) (s : Source) :
    Except Fault Source :=
  if given.isSome then .error (.repeatedField recordName name) else expectColon s

def readField (ext : Extensions) (g : Given) (s : Source) :
    Except Fault (Given × Source) := do
  let (name, s) ← readName s
  match name with
  | "pcg_seed" =>
    let (n, s) ← readWord32 (← newField name g.pcgSeed s)
    return ({ g with pcgSeed := some n }, s)
  | "uniform_seed" =>
    let (n, s) ← readOptional ext (← newField name g.uniformSeed s)
    return ({ g with uniformSeed := some n }, s)
  | "sample_counts" =>
    let (ns, s) ← readCounts (← newField name g.sampleCounts s)
    return ({ g with sampleCounts := some ns }, s)
  | "point_color" =>
    let (n, s) ← readWord32 (← newField name g.pointColor s)
    return ({ g with pointColor := some n }, s)
  | _ => return (g, ← skipValue ext (nestingLimit - 2) false (← expectColon s))

def readRecordName (ext : Extensions) (s : Source) : Except Fault Source :=
  if s.head?.any Text.isNameChar then
    match readName s with
    | .error _ => .error (.noRecordStart recordName)
    | .ok (name, r) => if name = recordName then .ok r else .error (.misnamed recordName name)
  else if ext.explicitNames then .error (.unnamed recordName)
  else .ok s

def read (text : Source) : Except Fault Settings := do
  let (ext, s) ← readHeader text
  let s ← readRecordName ext s
  match ← skipBlank s with
  | '(' :: s =>
    let (given, s) ← readEntries ')' (readField ext) .none s
    expectEnd (s.drop 1)
    return given.complete
  | _ => throw (.noRecordStart recordName)

end SphereCloud.Settings
