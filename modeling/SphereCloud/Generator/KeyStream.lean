/-!
A stream of random words that any word can be asked of: the ChaCha block function with twelve
rounds, run over a counter of blocks.
-/

namespace SphereCloud

structure Row where
  a : UInt32
  b : UInt32
  c : UInt32
  d : UInt32
  deriving DecidableEq, Repr

namespace Row

@[inline] def map (f : UInt32 → UInt32) (r : Row) : Row :=
  ⟨f r.a, f r.b, f r.c, f r.d⟩

@[inline] def zip (f : UInt32 → UInt32 → UInt32) (r s : Row) : Row :=
  ⟨f r.a s.a, f r.b s.b, f r.c s.c, f r.d s.d⟩

/-- Moves every word one place to the left. -/
@[inline] def turn (r : Row) : Row :=
  ⟨r.b, r.c, r.d, r.a⟩

end Row

@[inline] def rotateLeft (n x : UInt32) : UInt32 :=
  (x <<< n) ||| (x >>> (32 - n))

structure Block where
  top : Row
  upper : Row
  lower : Row
  bottom : Row
  deriving DecidableEq, Repr

namespace Block

def mixColumns (m : Block) : Block :=
  let top := m.top.zip (· + ·) m.upper
  let bottom := (m.bottom.zip (· ^^^ ·) top).map (rotateLeft 16)
  let lower := m.lower.zip (· + ·) bottom
  let upper := (m.upper.zip (· ^^^ ·) lower).map (rotateLeft 12)
  let top := top.zip (· + ·) upper
  let bottom := (bottom.zip (· ^^^ ·) top).map (rotateLeft 8)
  let lower := lower.zip (· + ·) bottom
  let upper := (upper.zip (· ^^^ ·) lower).map (rotateLeft 7)
  ⟨top, upper, lower, bottom⟩

/-- A round over the columns and one over the diagonals. -/
def doubleRound (m : Block) : Block :=
  let m := m.mixColumns
  let m := mixColumns ⟨m.top, m.upper.turn, m.lower.turn.turn, m.bottom.turn.turn.turn⟩
  ⟨m.top, m.upper.turn.turn.turn, m.lower.turn.turn, m.bottom.turn⟩

def add (m n : Block) : Block :=
  ⟨m.top.zip (· + ·) n.top, m.upper.zip (· + ·) n.upper, m.lower.zip (· + ·) n.lower,
    m.bottom.zip (· + ·) n.bottom⟩

/-- The block scrambled by twelve rounds and added to itself. -/
def scramble (m : Block) : Block :=
  (Nat.repeat doubleRound 6 m).add m

/-- Two neighbouring words as one, the left one low. -/
private def join (low high : UInt32) : UInt64 :=
  low.toUInt64 ||| (high.toUInt64 <<< 32)

def words (m : Block) : List UInt64 :=
  [m.top, m.upper, m.lower, m.bottom].flatMap fun r => [join r.a r.b, join r.c r.d]

end Block

structure Key where
  upper : Row
  lower : Row
  deriving DecidableEq, Repr

namespace Key

/-- One step of the generator that stretches a short seed. -/
private def seedStep (s : UInt64) : UInt64 :=
  s * 6364136223846793005 + 11634580027462260723

private def seedWord (s : UInt64) : UInt32 :=
  let x := (((s >>> 18) ^^^ s) >>> 27).toUInt32
  let turn := (s >>> 59).toUInt32
  (x >>> turn) ||| (x <<< ((32 - turn) % 32))

private def seedRow (s : UInt64) : Row × UInt64 :=
  let s1 := seedStep s
  let s2 := seedStep s1
  let s3 := seedStep s2
  let s4 := seedStep s3
  (⟨seedWord s1, seedWord s2, seedWord s3, seedWord s4⟩, s4)

def ofSeed (seed : UInt64) : Key :=
  let (upper, s) := seedRow seed
  ⟨upper, (seedRow s).1⟩

/-- The key in 32 bytes, the low byte of each word first; bytes that are missing count as zero. -/
def ofBytes (bytes : ByteArray) : Key :=
  let byte (i : Nat) : UInt32 := (bytes[i]?.getD 0).toUInt32
  let word (i : Nat) : UInt32 :=
    byte (4 * i) ||| (byte (4 * i + 1) <<< 8) ||| (byte (4 * i + 2) <<< 16) |||
      (byte (4 * i + 3) <<< 24)
  ⟨⟨word 0, word 1, word 2, word 3⟩, ⟨word 4, word 5, word 6, word 7⟩⟩

def block (key : Key) (number : UInt64) : Block :=
  Block.scramble
    ⟨⟨0x61707865, 0x3320646e, 0x79622d32, 0x6b206574⟩, key.upper, key.lower,
      ⟨number.toUInt32, (number >>> 32).toUInt32, 0, 0⟩⟩

def word (key : Key) (number : Nat) : UInt64 :=
  ((key.block (UInt64.ofNat (number / 8))).words[number % 8]?).getD 0

end Key

end SphereCloud
