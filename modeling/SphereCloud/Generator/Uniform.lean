import SphereCloud.Generator.KeyStream
import SphereCloud.Sphere
import SphereCloud.Numbers

/-!
Uniform numbers from a half-open range. A stream is a key and how many words of its stream were
used; each number takes one word.
-/

namespace SphereCloud

class UniformScalar (α : Type) extends Scalar α where
  /-- The width that fractions below one are stretched to, so that none of them reaches `hi` when
  `lo` is added. -/
  stretch (lo hi : α) : α

def greatestFraction : Float :=
  Float.ofBits 0x3FEFFFFFFFFFFFFE

/-- Steps down from the double with these bits until the greatest fraction of it stays below
`hi`. -/
def shrinkStretch (lo hi : Float) (bits : UInt64) : Float :=
  let width := Float.ofBits bits
  if h : bits = 0 then width
  else if hi ≤ width * greatestFraction + lo then shrinkStretch lo hi (bits - 1)
  else width
termination_by bits.toNat
decreasing_by
  have : bits.toNat ≠ 0 := fun h0 => h (UInt64.toNat_inj.mp (by simpa using h0))
  have : (bits - 1).toNat = bits.toNat - 1 :=
    UInt64.toNat_sub_of_le _ _ (by rw [UInt64.le_iff_toNat_le]; simp; omega)
  omega

instance : UniformScalar Float where
  stretch lo hi := shrinkStretch lo hi (hi - lo).toBits

structure UniformStream where
  key : Key
  used : Nat
  deriving DecidableEq, Repr

namespace UniformStream

/-- The stream of a seed; without a seed, that of a key from elsewhere. -/
def ofSeed? (seed : Option UInt64) (entropy : Key) : UniformStream :=
  ⟨(seed.map Key.ofSeed).getD entropy, 0⟩

variable {α : Type} [UniformScalar α]

/-- Whether numbers can be drawn from the range: it is not empty, and its width is a number. -/
def accepts (lo hi : α) : Bool :=
  Scalar.isFinite lo && Scalar.isFinite hi && !Scalar.le hi lo && Scalar.isFinite (hi - lo)

/-- The number of the range that a word stands for. Its top 52 bits count. -/
def sample (lo stretch : α) (word : UInt64) : α :=
  Scalar.ofNat (word >>> 12).toNat / Scalar.ofNat 4503599627370496 * stretch + lo

/-- Draws `n` numbers from `lo` to below `hi`. What is refused uses no word. -/
def draw (stream : UniformStream) (n : Nat) (lo hi : α) :
    Except (SampleFault α) (List α) × UniformStream :=
  if accepts lo hi then
    if fitsSamples n then
      let stretch := UniformScalar.stretch lo hi
      (.ok ((List.range n).map fun i => sample lo stretch (stream.key.word (stream.used + i))),
        { stream with used := stream.used + n })
    else (.error (.tooMany n), stream)
  else (.error (.emptyRange lo hi), stream)

end UniformStream

end SphereCloud
