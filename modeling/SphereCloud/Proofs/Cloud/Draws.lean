import SphereCloud.Cloud.Production
import SphereCloud.Proofs.Basic
import SphereCloud.Sphere

/-!
Every method that gives pairs gives as many as were asked for, and the projection keeps their
number.
-/

namespace SphereCloud

variable {α : Type}

namespace Cylindrical

theorem length_of_ofLists? {heights angles : List α} {pairs : Cylindrical α}
    (h : ofLists? heights angles = .ok pairs) : pairs.length = heights.length := by
  unfold ofLists? at h
  split at h
  · cases h
    rfl
  · cases h

end Cylindrical

section Projection

variable [Scalar α]

theorem length_of_projectFrom {index : Nat} {pairs : List (α × α)} {points : List (Vec3 α)}
    (h : projectFrom index pairs = .ok points) : points.length = pairs.length := by
  induction pairs generalizing index points with
  | nil =>
    cases h
    rfl
  | cons pair pairs ih =>
    obtain ⟨point, -, h⟩ := bind_eq_ok.mp h
    obtain ⟨rest, hrest, h⟩ := bind_eq_ok.mp h
    cases h
    rw [List.length_cons, List.length_cons, ih hrest]

theorem Cylindrical.length_of_project {pairs : Cylindrical α} {points : List (Vec3 α)}
    (h : pairs.project = .ok points) : points.length = pairs.length := by
  rw [length_of_projectFrom h, Cylindrical.length_toList]

end Projection

theorem HashChain.length_pairs [Scalar α] (n : Nat) (g : HashChain) :
    (pairs (α := α) n g).1.length = n := by
  induction n generalizing g with
  | zero => rfl
  | succ n ih => simp [pairs, ih]

theorem length_of_haltonTerms [Scalar α] {n : Nat} {base : UInt32} {terms : List α}
    (h : haltonTerms n base = .ok terms) : terms.length = n := by
  unfold haltonTerms at h
  split at h
  · split at h
    · cases h
      simp
    · cases h
  · cases h

variable [UniformScalar α]

theorem UniformStream.length_of_draw {stream : UniformStream} {n : Nat} {lo hi : α}
    {values : List α} (h : (stream.draw n lo hi).1 = .ok values) : values.length = n := by
  unfold draw at h
  split at h
  · split at h
    · cases h
      simp
    · cases h
  · cases h

namespace Streams

theorem length_of_pcgPairs {chain : HashChain} {n : Nat} {pairs : Cylindrical α}
    (h : (pcgPairs chain n).1 = .ok pairs) : pairs.length = n := by
  unfold pcgPairs at h
  split at h
  · rw [Cylindrical.length_of_ofLists? h, List.length_map, List.length_map,
      HashChain.length_pairs]
  · cases h

theorem length_of_uniformPairs {stream : UniformStream} {n : Nat} {pairs : Cylindrical α}
    (h : (uniformPairs stream n).1 = .ok pairs) : pairs.length = n := by
  unfold uniformPairs at h
  split at h
  · cases h
  next heights _ hheights =>
    split at h
    · cases h
    · rw [Cylindrical.length_of_ofLists? h]
      exact UniformStream.length_of_draw (congrArg Prod.fst hheights)

theorem length_of_haltonPairs {n : Nat} {pairs : Cylindrical α}
    (h : haltonPairs n = .ok pairs) : pairs.length = n := by
  obtain ⟨heights, hheights, h⟩ := bind_eq_ok.mp h
  obtain ⟨angles, -, h⟩ := bind_eq_ok.mp h
  rw [Cylindrical.length_of_ofLists? h, List.length_map, length_of_haltonTerms hheights]

/-- A draw that succeeds makes exactly the pairs asked for. -/
theorem length_of_draw {s : Streams} {method : Method} {n : Nat} {pairs : Cylindrical α}
    (h : (s.draw method n).1 = .ok pairs) : pairs.length = n := by
  cases method with
  | pcg => exact length_of_pcgPairs h
  | random => exact length_of_uniformPairs h
  | halton => exact length_of_haltonPairs h

end Streams

end SphereCloud
