import SphereCloud.Cloud.Production
import SphereCloud.Proofs.Basic

/-!
Which draws of a generator each sample is made of, and what a call for samples gives in terms of
them.
-/

namespace SphereCloud

variable {α : Type}

namespace Cylindrical

def ofPairs (pairs : List (α × α)) : Cylindrical α :=
  ⟨pairs.map (·.1), pairs.map (·.2), by rw [List.length_map, List.length_map]⟩

@[simp] theorem toList_ofPairs (pairs : List (α × α)) : (ofPairs pairs).toList = pairs := by
  rw [toList, ofPairs, List.zip_map', List.map_id']

@[simp] theorem length_ofPairs (pairs : List (α × α)) : (ofPairs pairs).length = pairs.length :=
  List.length_map _

theorem ofLists?_map {β : Type} (f g : β → α) (l : List β) :
    ofLists? (l.map f) (l.map g) = .ok (ofPairs (l.map fun b => (f b, g b))) := by
  rw [ofLists?, dif_pos (by rw [List.length_map, List.length_map])]
  simp [ofPairs]

end Cylindrical

namespace HashChain

theorem skip_zero (g : HashChain) : skip 0 g = g := rfl

/-- Stated without the chain: with it, equality by definition would have to run the hash. -/
theorem skip_succ_eq (n : Nat) : skip (n + 1) = fun g => skip n g.next := rfl

theorem skip_succ (n : Nat) (g : HashChain) : skip (n + 1) g = skip n g.next :=
  congrFun (skip_succ_eq n) g

theorem skip_add (m n : Nat) (g : HashChain) : skip (m + n) g = skip n (skip m g) := by
  induction m generalizing g with
  | zero => rw [Nat.zero_add, skip_zero]
  | succ m ih => rw [Nat.succ_add, skip_succ, skip_succ, ih]

variable [Scalar α]

/-- The pair with the given number: its height from one draw, its angle from the next. -/
def pairAt (g : HashChain) (k : Nat) : α × α :=
  (Cylindrical.heightOf (g.skip (2 * k + 1)).fraction,
    Cylindrical.angleOf (g.skip (2 * k + 2)).fraction)

theorem pairAt_skip (g : HashChain) (n k : Nat) :
    (g.skip (2 * n)).pairAt k = g.pairAt (α := α) (n + k) := by
  rw [pairAt, pairAt, ← skip_add, ← skip_add, Nat.mul_add, Nat.add_assoc, Nat.add_assoc]

theorem pairs_eq (n : Nat) (g : HashChain) :
    pairs (α := α) n g =
      ((List.range n).map fun k => ((g.skip (2 * k + 1)).fraction, (g.skip (2 * k + 2)).fraction),
        g.skip (2 * n)) := by
  induction n generalizing g with
  | zero => rw [pairs, Nat.mul_zero, skip_zero, List.range_zero, List.map_nil]
  | succ n ih =>
    have hplace (k : Nat) : g.next.next.skip k = g.skip (k + 2) := by rw [skip_succ, skip_succ]
    have hfirst : g.next = g.skip 1 := by rw [skip_succ, skip_zero]
    have hsecond : g.next.next = g.skip 2 := by rw [skip_succ, skip_succ, skip_zero]
    simp only [pairs, ih, hplace, List.range_succ_eq_map, List.map_cons, List.map_map,
      Function.comp_def, Nat.succ_eq_add_one, Nat.mul_add, Nat.mul_one, Nat.mul_zero, Nat.zero_add,
      Nat.add_right_comm]
    rw [hsecond, hfirst]

end HashChain

section Halton

variable [Scalar α]

/-- The pair with the given number. The radical inverses start at one. -/
def haltonPair (k : Nat) : α × α :=
  (Cylindrical.heightOf (radicalInverse 2 (by decide) (k + 1)),
    Cylindrical.angleOf (radicalInverse 3 (by decide) (k + 1)))

theorem take_map_range {β : Type} (f : Nat → β) {m n : Nat} (h : m ≤ n) :
    ((List.range n).map f).take m = (List.range m).map f := by
  rw [← List.map_take, List.take_range, Nat.min_eq_left h]

theorem haltonTerms_eq {base : UInt32} (two_le : 2 ≤ base.toNat) (n : Nat) :
    haltonTerms (α := α) n base =
      if fitsSamples n then
        .ok ((List.range n).map fun k => radicalInverse base.toNat two_le (k + 1))
      else .error (.tooMany n) := by
  rw [haltonTerms, dif_pos two_le]

end Halton

/-- Numbers in which both ranges of the uniform samples can be drawn from. -/
class HasSampleRanges (α : Type) [UniformScalar α] : Prop where
  accepts_height : UniformStream.accepts (-1.0 : α) 1.0 = true
  accepts_angle : UniformStream.accepts (0.0 : α) Scalar.tau = true

instance : HasSampleRanges Float where
  accepts_height := rfl
  accepts_angle := rfl

variable [UniformScalar α]

namespace UniformStream

def heightAt (stream : UniformStream) (word : Nat) : α :=
  sample (-1.0) (UniformScalar.stretch (-1.0) 1.0) (stream.key.word word)

def angleAt (stream : UniformStream) (word : Nat) : α :=
  sample 0.0 (UniformScalar.stretch 0.0 Scalar.tau) (stream.key.word word)

/-- The next pairs: all heights, and then all angles. -/
def pairsAhead (stream : UniformStream) (n : Nat) : Cylindrical α where
  heights := (List.range' stream.used n).map stream.heightAt
  angles := (List.range' (stream.used + n) n).map stream.angleAt
  length_eq := by rw [List.length_map, List.length_map, List.length_range', List.length_range']

theorem toNat_shiftRight_lt (word : UInt64) : (word >>> 12).toNat < 4503599627370496 := by
  have := word.toNat_lt
  rw [UInt64.toNat_shiftRight]
  simp [Nat.shiftRight_eq_div_pow]
  omega

theorem draw_eq (stream : UniformStream) (n : Nat) {lo hi : α} (h : accepts lo hi = true) :
    stream.draw n lo hi =
      if fitsSamples n then
        (.ok ((List.range' stream.used n).map fun i =>
          sample lo (UniformScalar.stretch lo hi) (stream.key.word i)),
          { stream with used := stream.used + n })
      else (.error (.tooMany n), stream) := by
  rw [draw, if_pos h, List.range'_eq_map_range, List.map_map]
  rfl

end UniformStream

namespace Streams

def samples (s : Streams) (method : Method) (n : Nat) : Cylindrical α :=
  match method with
  | .pcg => .ofPairs ((List.range n).map s.chain.pairAt)
  | .random => s.uniform.pairsAhead n
  | .halton => .ofPairs ((List.range n).map haltonPair)

theorem length_samples (s : Streams) (method : Method) (n : Nat) :
    (s.samples (α := α) method n).length = n := by
  cases method with
  | pcg => simp [samples]
  | random => simp [samples, UniformStream.pairsAhead, Cylindrical.length]
  | halton => simp [samples]

def advance (s : Streams) (method : Method) (n : Nat) : Streams :=
  match method with
  | .pcg => { s with chain := s.chain.skip (2 * n) }
  | .random => { s with uniform := { s.uniform with used := s.uniform.used + 2 * n } }
  | .halton => s

theorem pcgPairs_eq (chain : HashChain) (n : Nat) :
    pcgPairs (α := α) chain n =
      if fitsSamples n then
        (.ok (.ofPairs ((List.range n).map chain.pairAt)), chain.skip (2 * n))
      else (.error (.tooMany n), chain) := by
  rw [pcgPairs]
  split
  case isTrue =>
    simp only [HashChain.pairs_eq, Cylindrical.ofUnit?, List.map_map, Cylindrical.ofLists?_map]
    rfl
  case isFalse => rfl

theorem uniformPairs_eq [HasSampleRanges α] (stream : UniformStream) (n : Nat) :
    uniformPairs (α := α) stream n =
      if fitsSamples n then
        (.ok (stream.pairsAhead n), { stream with used := stream.used + 2 * n })
      else (.error (.tooMany n), stream) := by
  rw [uniformPairs, UniformStream.draw_eq _ _ HasSampleRanges.accepts_height]
  by_cases hfits : fitsSamples n
  · simp only [UniformStream.draw_eq _ _ HasSampleRanges.accepts_angle, hfits, if_true]
    rw [Cylindrical.ofLists?, dif_pos (by simp), Nat.two_mul, ← Nat.add_assoc]
    rfl
  · simp only [hfits, Bool.false_eq_true, if_false]

theorem haltonPairs_eq (n : Nat) :
    haltonPairs (α := α) n =
      if fitsSamples n then .ok (.ofPairs ((List.range n).map haltonPair))
      else .error (.tooMany n) := by
  rw [haltonPairs, haltonTerms_eq (show 2 ≤ heightBase.toNat by decide),
    haltonTerms_eq (show 2 ≤ angleBase.toNat by decide)]
  split
  case isTrue =>
    simp only [ok_bind, Cylindrical.ofUnit?, List.map_map, Cylindrical.ofLists?_map]
    rfl
  case isFalse => rfl

/-- A call gives all it is asked for and moves on behind it, unless no memory can hold that much. -/
theorem draw_eq [HasSampleRanges α] (s : Streams) (method : Method) (n : Nat) :
    s.draw (α := α) method n =
      if fitsSamples n then (.ok (s.samples method n), s.advance method n)
      else (.error (.tooMany n), s) := by
  by_cases hfits : fitsSamples n
  · cases method with
    | pcg => simp only [draw, pcgPairs_eq, hfits, if_true, samples, advance]
    | random => simp only [draw, uniformPairs_eq, hfits, if_true, samples, advance]
    | halton => simp only [draw, haltonPairs_eq, hfits, if_true, samples, advance]
  · cases method with
    | pcg => simp only [draw, pcgPairs_eq, hfits, Bool.false_eq_true, if_false]
    | random => simp only [draw, uniformPairs_eq, hfits, Bool.false_eq_true, if_false]
    | halton => simp only [draw, haltonPairs_eq, hfits, Bool.false_eq_true, if_false]

end Streams

end SphereCloud
