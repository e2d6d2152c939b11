import SphereCloud.RecordText.Header

/-!
The ways of sampling that are compared, and which points are shown where: rows of labels.
-/

namespace SphereCloud

inductive Method where
  /-- Fractions from the hash chain. -/
  | pcg
  /-- Uniform numbers from the key stream. -/
  | random
  /-- Radical inverses in base two and three. -/
  | halton
  deriving DecidableEq, Repr

namespace Method

/-- All methods, in the order of their columns. -/
def all : List Method := [pcg, random, halton]

/-- All methods, in the order in which their points are made. -/
def productionOrder : List Method := [halton, pcg, random]

def name : Method → String
  | pcg => "pcg"
  | random => "random"
  | halton => "halton"

def label (m : Method) (count : UInt64) : String :=
  m.name ++ "_" ++ toString count.toNat

def written : Method → String
  | pcg => "Pcg"
  | random => "Random"
  | halton => "Halton"

open RecordText

def read (text : Source) : Except Fault Method := do
  let (_, s) ← readHeader text
  let (name, s) ← readName s
  match all.find? (·.written = name) with
  | some m =>
    expectEnd s
    return m
  | none =>
    throw (.unknownChoice "SamplingMethod" name "`Pcg`, `Random`, or `Halton`")

end Method

structure Layout where
  rows : List (List String)
  /-- Whether the panels at the side start out collapsed. -/
  panelsCollapsed : Bool
  deriving DecidableEq, Repr

namespace Layout

def empty : Layout := ⟨[], true⟩

/-- A row for each count, where it occurs first, and a column for each method. -/
def grid (counts : List UInt64) (methods : List Method) : Layout where
  rows := counts.eraseDups.map fun n => methods.map (·.label n)
  panelsCollapsed := true

def rowCount (l : Layout) : Nat :=
  l.rows.length

/-- The length of the longest row. -/
def columnCount (l : Layout) : Nat :=
  l.rows.foldr (fun row n => max row.length n) 0

/-- The row and the column of the first view with the label. -/
def idxOf? (l : Layout) (label : String) : Option (Nat × Nat) :=
  l.rows.zipIdx.findSome? fun (labels, row) => (labels.idxOf? label).map (row, ·)

end Layout

end SphereCloud
