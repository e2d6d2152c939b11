import SphereCloud.Sphere

/-!
Two sequences of fractions. One is pseudo-random: words from a hash that is fed its own output,
where the whole state is one word, which is also the last word drawn. The other has low discrepancy:
the digits of a count in reverse order behind the point.
-/

namespace SphereCloud

/-- Mixes the bits of a word: an affine step, a shift by an amount that the top bits choose, and a
multiplication. -/
def mix (word : UInt32) : UInt32 :=
  let s := word * 747796405 + 2891336453
  let t := ((s >>> ((s >>> 28) + 4)) ^^^ s) * 277803737
  (t >>> 22) ^^^ t

structure HashChain where
  state : UInt32
  deriving DecidableEq, Repr

namespace HashChain

def next (g : HashChain) : HashChain :=
  ⟨mix g.state⟩

def skip : Nat → HashChain → HashChain
  | 0, g => g
  | n + 1, g => skip n g.next

/-- The word last drawn as a fraction of `2 ^ 32`, so that it is below one. -/
def fraction {α : Type} [Scalar α] (g : HashChain) : α :=
  Scalar.ofNat g.state.toNat / Scalar.ofNat 4294967296

def pairs {α : Type} [Scalar α] : Nat → HashChain → List (α × α) × HashChain
  | 0, g => ([], g)
  | n + 1, g =>
    let first := g.next
    let second := first.next
    let (rest, last) := pairs n second
    ((first.fraction, second.fraction) :: rest, last)

end HashChain

/-- Adds the digits of `n` in the base to `acc`, the lowest one at the place behind `place`. -/
def reverseDigits {α : Type} [Scalar α] (base : Nat) (two_le : 2 ≤ base) (place acc : α) (n : Nat) :
    α :=
  if h : n = 0 then acc
  else
    have : n / base < n := Nat.div_lt_self (Nat.pos_of_ne_zero h) two_le
    let place := place / Scalar.ofNat base
    reverseDigits base two_le place (acc + place * Scalar.ofNat (n % base)) (n / base)
termination_by n

/-- The digits of `n` in the base behind the point, the lowest first. -/
def radicalInverse {α : Type} [Scalar α] (base : Nat) (two_le : 2 ≤ base) (n : Nat) : α :=
  reverseDigits base two_le 1.0 0.0 n

inductive BaseFault where
  | divisionByZero
  | endless
  deriving DecidableEq, Repr

/-- The number at an index of the sequence, which begins with the inverse of one. -/
def haltonTerm {α : Type} [Scalar α] (index : UInt64) (base : UInt32) : Except BaseFault α :=
  if two_le : 2 ≤ base.toNat then .ok (radicalInverse base.toNat two_le (index.toNat + 1))
  else if base = 0 then .error .divisionByZero
  else .error .endless

def haltonTerms {α : Type} [Scalar α] (n : Nat) (base : UInt32) :
    Except (SampleFault α) (List α) :=
  if two_le : 2 ≤ base.toNat then
    if fitsSamples n then
      .ok ((List.range n).map fun i => radicalInverse base.toNat two_le (i + 1))
    else .error (.tooMany n)
  else .error (.degenerateBase base)

end SphereCloud
