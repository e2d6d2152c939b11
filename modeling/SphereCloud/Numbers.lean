/-!
The numbers of the program: what a machine of 64 bits can count and keep in memory, and the scalars
that formulas are evaluated in. A formula is written once over `Scalar`; the program runs it in
double or single precision, where every operation rounds on its own to nearest even, and a theorem
may read it in an exact field.
-/

namespace SphereCloud

def fitsWord (n : Nat) : Bool :=
  n < 18446744073709551616

/-- Whether a list of `n` items of equal size can be kept: a list takes less than half of the bytes
that a word can count. -/
def fitsMemory (itemBytes n : Nat) : Bool :=
  itemBytes * n < 9223372036854775808

/-- Numbers with the four operations, decimal literals, an order test and the elementary
functions. -/
class Scalar (α : Type) extends Add α, Sub α, Mul α, Div α, Neg α, OfScientific α where
  /-- The number that counts `n` units. -/
  ofNat (n : Nat) : α
  /-- A full turn in radians. -/
  tau : α
  sqrt : α → α
  sin : α → α
  cos : α → α
  abs : α → α
  lt : α → α → Bool
  le : α → α → Bool
  isFinite : α → Bool
  /-- The remainder of a division whose quotient is cut toward zero. -/
  rem : α → α → α
  /-- The whole part, kept within 64 bits; zero below one and for what is no number. -/
  toNat : α → Nat

namespace Scalar

variable {α : Type} [Scalar α]

/-- Keeps a number between two bounds. What compares with neither bound is left as it is. -/
@[inline] def clamp (x lo hi : α) : α :=
  let raised := if lt x lo then lo else x
  if lt hi raised then hi else raised

/-- Shifts a number by whole periods so that it is not negative. -/
@[inline] def wrap (x period : α) : α :=
  let r := rem x period
  if lt r 0.0 then r + abs period else r

end Scalar

namespace Binary

open Float.Model (Format UnpackedFloat)
open Float.Model.UnpackedFloat (Sign)

/-- The single nearest to a double, ties to the even mantissa; what is too large becomes
infinite. -/
def toSingle (x : Float) : Float32 :=
  .ofModel <| .pack <|
    match x.toModel.unpack with
    | .finite s m e _ => UnpackedFloat.round .binary32 s m e
    | special => special

/-- The remainder of `x` by `y`, with the sign of `x`. It is a multiple of the smaller of the two
last places and below `y`, so that rounding leaves it as it is. -/
def remainder (format : Format) (x y : UnpackedFloat) : UnpackedFloat :=
  match x, y with
  | .notANumber, _ | _, .notANumber | .infinity _, _ | _, .zero _ => .notANumber
  | .zero s, _ => .zero s
  | .finite .., .infinity _ => x
  | .finite s m e _, .finite _ n f _ =>
    let place := min e f
    match (m <<< (e - place).toNat) % (n <<< (f - place).toNat) with
    | 0 => .zero s
    | r + 1 => UnpackedFloat.round format s (r + 1) place

def remainderDouble (x y : Float) : Float :=
  .ofModel (.pack (remainder .binary64 x.toModel.unpack y.toModel.unpack))

def remainderSingle (x y : Float32) : Float32 :=
  .ofModel (.pack (remainder .binary32 x.toModel.unpack y.toModel.unpack))

/-- The whole number nearest to `m * 2 ^ e`, a half upward. -/
def nearestWhole (m : Nat) (e : Int) : Nat :=
  match e with
  | .ofNat k => m <<< k
  | .negSucc k => (m + (1 <<< k)) >>> (k + 1)

/-- The byte nearest to a single, a half upward. Below zero and for what is no number it is zero,
above 255 it is 255. -/
def nearestByte (x : Float32) : UInt8 :=
  match x.toModel.unpack with
  | .finite .positive m e _ => UInt8.ofNat (min 255 (nearestWhole m e))
  | .infinity .positive => 255
  | _ => 0

end Binary

instance : Scalar Float where
  ofNat n := n.toUInt64.toFloat
  tau := Float.ofBits 0x401921FB54442D18
  sqrt := Float.sqrt
  sin := Float.sin
  cos := Float.cos
  abs := Float.abs
  lt := Float.lt
  le := Float.le
  isFinite := Float.isFinite
  rem := Binary.remainderDouble
  toNat x := x.toUInt64.toNat

instance : Scalar Float32 where
  ofNat n := n.toUInt64.toFloat32
  tau := Float32.ofBits 0x40C90FDB
  sqrt := Float32.sqrt
  sin := Float32.sin
  cos := Float32.cos
  abs := Float32.abs
  lt := Float32.lt
  le := Float32.le
  isFinite := Float32.isFinite
  rem := Binary.remainderSingle
  toNat x := x.toUInt64.toNat

end SphereCloud
