import SphereCloud.Proofs.Generator.RoundedRange
import SphereCloud.Proofs.Cloud.Draws

/-!
Samples and their points: samples are as many heights as angles, and either all of them have a point
or the first one that has none is reported.
-/

namespace SphereCloud

namespace Cylindrical

variable {α : Type}

theorem ofLists?_eq_ok {heights angles : List α} (h : heights.length = angles.length) :
    ofLists? heights angles = .ok ⟨heights, angles, h⟩ :=
  dif_pos h

theorem ofLists?_eq_error {heights angles : List α} (h : heights.length ≠ angles.length) :
    ofLists? heights angles = .error (.unequalLengths heights.length angles.length) :=
  dif_neg h

def HasPair (pairs : Cylindrical α) (i : ℕ) (z t : α) : Prop :=
  pairs.heights[i]? = some z ∧ pairs.angles[i]? = some t

theorem getElem?_toList {pairs : Cylindrical α} {i : ℕ} {z t : α} :
    pairs.toList[i]? = some (z, t) ↔ pairs.HasPair i z t := by
  rw [toList, List.getElem?_zip_eq_some, HasPair]

theorem forall_mem_toList {pairs : Cylindrical α} {P : α → α → Prop} :
    (∀ p ∈ pairs.toList, P p.1 p.2) ↔ ∀ i z t, pairs.HasPair i z t → P z t := by
  constructor
  · intro h i z t hpair
    exact h (z, t) (List.mem_of_getElem? (getElem?_toList.mpr hpair))
  · rintro h ⟨z, t⟩ hp
    obtain ⟨i, hi⟩ := List.mem_iff_getElem?.mp hp
    exact h i z t (getElem?_toList.mp hi)

end Cylindrical

section Projection

variable {α : Type} [Scalar α]

theorem projectFrom_eq_ok {pairs : List (α × α)} (h : ∀ p ∈ pairs, onSphere p.1 p.2 = true)
    (index : ℕ) : projectFrom index pairs = .ok (pairs.map fun p => pointAt p.1 p.2) := by
  induction pairs generalizing index with
  | nil => rfl
  | cons pair pairs ih =>
    obtain ⟨hpair, hpairs⟩ := List.forall_mem_cons.mp h
    rw [projectFrom, projectPair, if_pos hpair, ok_bind, ih hpairs]
    rfl

/-- The fault is that of the first pair without a point. -/
theorem exists_projectFrom_eq_error {pairs : List (α × α)}
    (h : ¬ ∀ p ∈ pairs, onSphere p.1 p.2 = true) (index : ℕ) :
    ∃ i z t, pairs[i]? = some (z, t) ∧ onSphere z t = false ∧
      (∀ p ∈ pairs.take i, onSphere p.1 p.2 = true) ∧
      projectFrom index pairs = .error (.offSphere (index + i) z) := by
  induction pairs generalizing index with
  | nil => exact absurd (by simp) h
  | cons pair pairs ih =>
    obtain ⟨z, t⟩ := pair
    rw [projectFrom, projectPair]
    by_cases hpair : onSphere z t = true
    · have hpairs : ¬ ∀ p ∈ pairs, onSphere p.1 p.2 = true :=
        fun hpairs => h (List.forall_mem_cons.mpr ⟨hpair, hpairs⟩)
      obtain ⟨i, w, s, hi, hw, hfirst, herror⟩ := ih hpairs (index + 1)
      refine ⟨i + 1, w, s, hi, hw, List.forall_mem_cons.mpr ⟨hpair, hfirst⟩, ?_⟩
      rw [if_pos hpair, ok_bind, herror, Nat.add_right_comm, Nat.add_assoc]
      rfl
    · exact ⟨0, z, t, rfl, by simpa using hpair, by simp, by rw [if_neg hpair]; rfl⟩

end Projection

section Doubles

open BinaryScalar (Within)

/-- The heights that have points are the numbers from -1 to 1, at any angle that is finite. -/
theorem onSphere_iff {z t : Float} :
    onSphere z t = true ↔ Within (-1) 1 z ∧ Scalar.isFinite t = true := by
  constructor
  · intro h
    obtain ⟨hz, ht⟩ := (Bool.and_eq_true _ _).mp h
    have hfinite := BinaryScalar.isFinite_of_abs_le Double.real_one.1 hz
    obtain ⟨habs, habs_real⟩ := BinaryScalar.real_abs hfinite
    rw [BinaryScalar.le_iff_real habs Double.real_one.1, habs_real, Double.real_one.2, abs_le] at hz
    exact ⟨⟨hfinite, hz.1, hz.2⟩, ht⟩
  · rintro ⟨hz, ht⟩
    exact Double.onSphere_of_within hz ht

/-- Heights and angles are paired if they are equally many, and refused with their two lengths if
not. If every height is a number from -1 to 1 and every angle finite, each pair has its point, which
lies just at its height; if not, the fault tells the first pair for which this fails. -/
theorem project_all_or_nothing :
    (∀ heights angles : List Float,
      (heights.length = angles.length → ∃ pairs, Cylindrical.ofLists? heights angles = .ok pairs ∧
        pairs.heights = heights ∧ pairs.angles = angles) ∧
      (heights.length ≠ angles.length → Cylindrical.ofLists? heights angles =
        .error (.unequalLengths heights.length angles.length))) ∧
    (∀ u v : List Float,
      (u.length = v.length → ∃ pairs, Cylindrical.ofUnit? u v = .ok pairs ∧
        pairs.heights = u.map Cylindrical.heightOf ∧ pairs.angles = v.map Cylindrical.angleOf) ∧
      (u.length ≠ v.length → Cylindrical.ofUnit? u v =
        .error (.unequalLengths u.length v.length))) ∧
    ∀ pairs : Cylindrical Float,
      ((∀ i z t, pairs.HasPair i z t → Within (-1) 1 z ∧ Scalar.isFinite t = true) →
        ∃ points, pairs.project = .ok points ∧ points.length = pairs.length ∧
          ∀ i z t, pairs.HasPair i z t →
            ∃ point, points[i]? = some point ∧ projectOne z t = .ok point ∧ point.z = z) ∧
      ((¬ ∀ i z t, pairs.HasPair i z t → Within (-1) 1 z ∧ Scalar.isFinite t = true) →
        ∃ i z t, pairs.HasPair i z t ∧ ¬ (Within (-1) 1 z ∧ Scalar.isFinite t = true) ∧
          (∀ j < i, ∀ w s, pairs.HasPair j w s → Within (-1) 1 w ∧ Scalar.isFinite s = true) ∧
          pairs.project = .error (.offSphere i z)) := by
  refine ⟨fun heights angles => ⟨fun h => ?_, fun h => ?_⟩, fun u v => ⟨fun h => ?_, fun h => ?_⟩,
    fun pairs => ?_⟩
  · exact ⟨_, Cylindrical.ofLists?_eq_ok h, rfl, rfl⟩
  · exact Cylindrical.ofLists?_eq_error h
  · have hlength : (u.map Cylindrical.heightOf).length = (v.map Cylindrical.angleOf).length := by
      rw [List.length_map, List.length_map, h]
    exact ⟨_, Cylindrical.ofLists?_eq_ok hlength, rfl, rfl⟩
  · have hlength : (u.map Cylindrical.heightOf).length ≠ (v.map Cylindrical.angleOf).length := by
      rwa [List.length_map, List.length_map]
    rw [Cylindrical.ofUnit?, Cylindrical.ofLists?_eq_error hlength, List.length_map,
      List.length_map]
  · simp only [← onSphere_iff]
    rw [← Cylindrical.forall_mem_toList (P := fun z t => onSphere z t = true)]
    refine ⟨fun h => ⟨_, projectFrom_eq_ok h 0, ?_, fun i z t hpair => ?_⟩, fun h => ?_⟩
    · rw [List.length_map, Cylindrical.length_toList]
    · have hi := Cylindrical.getElem?_toList.mpr hpair
      refine ⟨pointAt z t, ?_, if_pos (h (z, t) (List.mem_of_getElem? hi)), rfl⟩
      rw [List.getElem?_map, hi, Option.map_some]
    · obtain ⟨i, z, t, hi, hoff, hfirst, herror⟩ := exists_projectFrom_eq_error h 0
      refine ⟨i, z, t, Cylindrical.getElem?_toList.mp hi,
        by rw [hoff]; exact Bool.false_ne_true, ?_, ?_⟩
      · intro j hj w s hpair
        refine hfirst (w, s) (List.mem_of_getElem? (i := j) ?_)
        rw [List.getElem?_take_of_lt hj, Cylindrical.getElem?_toList.mpr hpair]
      · rw [Cylindrical.project, herror, Nat.zero_add]

/-- Of three heights the last two are off the sphere, and the first of these is reported. -/
theorem project_all_or_nothing_second :
    let pairs : Cylindrical Float := ⟨[0.5, 1.5, -2.0], [0.0, 0.0, 0.0], rfl⟩
    (¬ ∀ i z t, pairs.HasPair i z t → Within (-1) 1 z ∧ Scalar.isFinite t = true) ∧
      pairs.project = .error (.offSphere 1 1.5) := by
  intro pairs
  have hsecond : ¬ (Within (-1) 1 (1.5 : Float) ∧ Scalar.isFinite (0.0 : Float) = true) := by
    rw [← onSphere_iff]
    decide
  have hfirst : Within (-1) 1 (0.5 : Float) ∧ Scalar.isFinite (0.0 : Float) = true :=
    onSphere_iff.mp (by decide)
  have hoff : ¬ ∀ i z t, pairs.HasPair i z t → Within (-1) 1 z ∧ Scalar.isFinite t = true :=
    fun h => hsecond (h 1 _ _ ⟨rfl, rfl⟩)
  obtain ⟨i, z, t, ⟨hz, ht⟩, hbad, hbefore, herror⟩ := (project_all_or_nothing.2.2 pairs).2 hoff
  obtain hi | rfl | hi := Nat.lt_trichotomy i 1
  · obtain rfl : i = 0 := by omega
    obtain rfl : 0.5 = z := Option.some.inj hz
    obtain rfl : 0.0 = t := Option.some.inj ht
    exact absurd hfirst hbad
  · obtain rfl : 1.5 = z := Option.some.inj hz
    exact ⟨hoff, herror⟩
  · exact absurd (hbefore 1 hi _ _ ⟨rfl, rfl⟩) hsecond

end Doubles

end SphereCloud
