/-!
Doubles as decimal text: the fewest digits that read back as the same double, written without an
exponent. The search walks decimal grids from coarse to fine and stops at the first one that has a
point among the reals that round to the double.
-/

namespace SphereCloud.Decimal

open Float.Model (UnpackedFloat)
open Float.Model.UnpackedFloat (Sign)

/-- The reals that round to one double, as multiples of `2 ^ exponent`: between `low` and `high`,
with `value` the double itself. The ends belong to it if `closed`. -/
structure Cell where
  low : Nat
  value : Nat
  high : Nat
  closed : Bool
  exponent : Int

/-- The double `m * 2 ^ e` reaches half a step to both sides; below a power of two the step is half
as wide. -/
def Cell.ofDouble (m : Nat) (e : Int) : Cell where
  low := if m = 4503599627370496 ∧ -1074 < e then 4 * m - 1 else 4 * m - 2
  value := 4 * m
  high := 4 * m + 2
  closed := m % 2 = 0
  exponent := e - 2

/-- The point of the grid of multiples of `10 ^ place` that lies in the cell, if there is one: of
two the nearer, and of two equally near the larger. -/
def Cell.onGrid? (cell : Cell) (place : Int) : Option Nat :=
  let scale := Nat.pow 10 (-place).toNat <<< cell.exponent.toNat
  let unit := Nat.pow 10 place.toNat <<< (-cell.exponent).toNat
  let holds (n : Nat) : Bool :=
    (cell.low * scale < n * unit && n * unit < cell.high * scale) ||
      (cell.closed && (n * unit == cell.low * scale || n * unit == cell.high * scale))
  let below := cell.value * scale / unit
  match holds below, holds (below + 1) with
  | true, true =>
    some (if 2 * cell.value * scale < (2 * below + 1) * unit then below else below + 1)
  | true, false => some below
  | false, true => some (below + 1)
  | false, false => none

/-- Searches `n` grids from the one of `10 ^ place` on. -/
def Cell.search (cell : Cell) : Nat → Int → Nat × Int
  | 0, place => (0, place)
  | n + 1, place =>
    match cell.onGrid? place with
    | some digits => (digits, place)
    | none => cell.search n (place - 1)

/-- No double reaches `10 ^ 309`, and none needs a place finer than `10 ^ -400`. -/
def Cell.shortest (cell : Cell) : Nat × Int :=
  cell.search 710 309

/-- The decimal `digits * 10 ^ place` without an exponent. -/
def positional (digits : Nat) (place : Int) : List Char :=
  match place with
  | .ofNat k => Nat.toDigits 10 digits ++ List.replicate k '0'
  | .negSucc k =>
    let written := Nat.toDigits 10 digits
    let padded := List.replicate (k + 2 - written.length) '0' ++ written
    padded.take (padded.length - (k + 1)) ++ '.' :: padded.drop (padded.length - (k + 1))

private def signed (s : Sign) (text : List Char) : List Char :=
  match s with
  | .positive => text
  | .negative => '-' :: text

/-- The text of a double, with the shortest digits that read back and no exponent. -/
def ofDouble (x : Float) : String :=
  String.ofList <|
    match x.toModel.unpack with
    | .notANumber => ['N', 'a', 'N']
    | .infinity s => signed s ['i', 'n', 'f']
    | .zero s => signed s ['0']
    | .finite s m e _ =>
      let (digits, place) := (Cell.ofDouble m e).shortest
      signed s (positional digits place)

end SphereCloud.Decimal
