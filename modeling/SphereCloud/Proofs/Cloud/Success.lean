import SphereCloud.Proofs.Generator.Digits
import SphereCloud.Proofs.Cloud.Delivery
import SphereCloud.Proofs.Sphere.Points

/-!
A production does not fail unless there are more samples than a memory can hold. Read in the real
numbers, no height of a sample reaches one, and no angle a full turn.
-/

namespace SphereCloud

def InRange (z t : ℝ) : Prop :=
  (-1 ≤ z ∧ z < 1) ∧ 0 ≤ t ∧ t < Scalar.tau

theorem accepts_real {lo hi : ℝ} (h : lo < hi) : UniformStream.accepts lo hi = true := by
  have hle : Scalar.le hi lo = false := decide_eq_false h.not_ge
  rw [UniformStream.accepts, hle]
  rfl

instance : HasSampleRanges ℝ where
  accepts_height := accepts_real (by norm_num)
  accepts_angle := accepts_real (by rw [zero_literal]; exact tau_pos)

theorem inRange_of_unit {u v : ℝ} (hu : 0 ≤ u ∧ u < 1) (hv : 0 ≤ v ∧ v < 1) :
    InRange (Cylindrical.heightOf u) (Cylindrical.angleOf v) := by
  have hheight : Cylindrical.heightOf u = 2 * u - 1 := by
    rw [Cylindrical.heightOf]
    norm_num
  rw [hheight, Cylindrical.angleOf]
  have hpos := tau_pos
  refine ⟨⟨by linarith, by linarith⟩, mul_nonneg hpos.le hv.1, ?_⟩
  nlinarith

theorem fraction_mem_Ico (g : HashChain) : 0 ≤ (g.fraction : ℝ) ∧ (g.fraction : ℝ) < 1 := by
  rw [HashChain.fraction, ofNat_real, ofNat_real]
  refine ⟨by positivity, ?_⟩
  rw [div_lt_one (by norm_num)]
  exact_mod_cast g.state.toNat_lt

theorem sample_mem_Ico {lo hi : ℝ} (h : lo < hi) (word : UInt64) :
    lo ≤ UniformStream.sample lo (UniformScalar.stretch lo hi) word ∧
      UniformStream.sample lo (UniformScalar.stretch lo hi) word < hi := by
  have hnonneg : (0 : ℝ) ≤ (word >>> 12).toNat / (4503599627370496 : ℕ) := by positivity
  have hlt : ((word >>> 12).toNat : ℝ) / (4503599627370496 : ℕ) < 1 := by
    rw [div_lt_one (by norm_num)]
    exact_mod_cast UniformStream.toNat_shiftRight_lt word
  rw [UniformStream.sample, ofNat_real, ofNat_real]
  change _ ≤ _ * (hi - lo) + lo ∧ _ * (hi - lo) + lo < hi
  constructor <;> nlinarith

section Projection

variable {α : Type} [Scalar α]

theorem exists_projectFrom {pairs : List (α × α)} (h : ∀ p ∈ pairs, onSphere p.1 p.2 = true)
    (index : ℕ) : ∃ points, projectFrom index pairs = .ok points :=
  ⟨_, projectFrom_eq_ok h index⟩

end Projection

theorem lt_of_fitsSamples {n : ℕ} (h : fitsSamples n = true) : n < 2 ^ 60 := by
  have h := of_decide_eq_true h
  omega

variable {α : Type} [UniformScalar α]

/-- What holds of every pair that any of the methods makes. -/
structure AllPairs (P : α → α → Prop) : Prop where
  chain : ∀ g h : HashChain, P (Cylindrical.heightOf g.fraction) (Cylindrical.angleOf h.fraction)
  uniform : ∀ v w : UInt64,
    P (UniformStream.sample (-1.0) (UniformScalar.stretch (-1.0) 1.0) v)
      (UniformStream.sample 0.0 (UniformScalar.stretch 0.0 Scalar.tau) w)
  halton : ∀ k < 2 ^ 60, P (haltonPair k).1 (haltonPair k).2

theorem AllPairs.of_mem_samples {P : α → α → Prop} (h : AllPairs P) (s : Streams) (method : Method)
    {n : ℕ} (hn : fitsSamples n = true) {p : α × α} (hp : p ∈ (s.samples method n).toList) :
    P p.1 p.2 := by
  cases method with
  | pcg =>
    rw [Streams.samples, Cylindrical.toList_ofPairs] at hp
    obtain ⟨k, -, rfl⟩ := List.mem_map.mp hp
    exact h.chain _ _
  | random =>
    obtain ⟨hheight, hangle⟩ := List.of_mem_zip hp
    obtain ⟨v, -, hv⟩ := List.mem_map.mp hheight
    obtain ⟨w, -, hw⟩ := List.mem_map.mp hangle
    rw [← hv, ← hw]
    exact h.uniform _ _
  | halton =>
    rw [Streams.samples, Cylindrical.toList_ofPairs] at hp
    obtain ⟨k, hk, rfl⟩ := List.mem_map.mp hp
    exact h.halton k ((List.mem_range.mp hk).trans (lt_of_fitsSamples hn))

theorem allPairs_double : AllPairs fun z t : Float => onSphere z t = true where
  chain g h := Double.onSphere_of_unit (Double.within_fraction g)
    ((Double.within_fraction h).mono le_rfl (by norm_num))
  uniform v w := Double.onSphere_of_within (Double.within_sample_height v)
    (Double.isFinite_sample_angle w)
  halton _ hk := Double.onSphere_haltonPair hk

theorem allPairs_real : AllPairs InRange where
  chain g h := inRange_of_unit (fraction_mem_Ico g) (fraction_mem_Ico h)
  uniform v w := by
    have hheight := sample_mem_Ico (show (-1.0 : ℝ) < 1.0 by norm_num) v
    have hangle :=
      sample_mem_Ico (show (0.0 : ℝ) < Scalar.tau by rw [zero_literal]; exact tau_pos) w
    exact ⟨⟨hheight.1.trans_eq' (by norm_num), hheight.2.trans_eq (by norm_num)⟩,
      hangle.1.trans_eq' zero_literal, hangle.2⟩
  halton k _ := inRange_of_unit (radicalInverse_mem_Ico _ _) (radicalInverse_mem_Ico _ _)

theorem onSphere_of_inRange {z t : ℝ} (h : InRange z t) : onSphere z t = true := by
  have hle : |z| ≤ 1.0 :=
    abs_le.mpr ⟨h.1.1.trans_eq' (by norm_num), h.1.2.le.trans_eq (by norm_num)⟩
  rw [onSphere, Bool.and_eq_true]
  exact ⟨decide_eq_true hle, rfl⟩

section Jobs

variable [HasSampleRanges α] (h : AllPairs fun z t : α => onSphere z t = true)
include h

/-- A job for samples that can be kept gives a cloud. -/
theorem exists_attempt (s : Streams) (color : UInt32) {job : UInt64 × Method}
    (hfits : fitsSamples job.1.toNat = true) :
    ∃ cloud, s.attempt (α := α) color job = .ok cloud := by
  obtain ⟨points, hpoints⟩ := exists_projectFrom (fun p => h.of_mem_samples s job.2 hfits) 0
  refine ⟨⟨job.2.label job.1, points, color⟩, Streams.attempt_eq_ok.mpr
    ⟨s.samples job.2 job.1.toNat, ?_, hpoints, rfl, rfl⟩⟩
  rw [Streams.draw_eq, if_pos hfits]

theorem clouds_eq_ok (color : UInt32) {jobs : List (UInt64 × Method)}
    (hjobs : ∀ job ∈ jobs, fitsSamples job.1.toNat = true) (s : Streams) :
    (Streams.clouds (α := α) color jobs s).2 = .ok () := by
  induction jobs generalizing s with
  | nil => rfl
  | cons job jobs ih =>
    obtain ⟨hjob, hjobs⟩ := List.forall_mem_cons.mp hjobs
    obtain ⟨cloud, hcloud⟩ := exists_attempt h s color hjob
    rw [Streams.clouds, hcloud]
    exact ih hjobs _

end Jobs

/-- A production whose samples can be kept succeeds, whoever receives it. Without rounding all pairs
that any method makes are in the ranges of heights and angles, as many as were asked for, and only
the want of memory is a fault. -/
theorem produce_succeeds {settings : Settings}
    (h : ∀ n ∈ settings.sampleCounts, fitsSamples n.toNat = true) :
    (∀ (entropy : Key) (σ : Type) [Receiver σ Float] (state : σ),
      (settings.produce entropy state).value.2 = .ok ()) ∧
    ∀ (s : Streams) (method : Method) (n : ℕ),
      if fitsSamples n then
        ∃ pairs : Cylindrical ℝ, (s.draw method n).1 = .ok pairs ∧ pairs.length = n ∧
          (∀ z t, (z, t) ∈ pairs.toList → (-1 ≤ z ∧ z < 1) ∧ 0 ≤ t ∧ t < 2 * Real.pi) ∧
          ∃ points, pairs.project = .ok points
      else (s.draw (α := ℝ) method n).1 = .error (.tooMany n) := by
  refine ⟨fun entropy σ _ state => ?_, fun s method n => ?_⟩
  · rw [produce_eq_deliver]
    exact clouds_eq_ok allPairs_double settings.pointColor
      (fun job hjob => h job.1 (Settings.mem_sampleCounts_of_mem_jobs hjob)) _
  · rw [Streams.draw_eq]
    split
    case isFalse => rfl
    case isTrue hfits =>
      have hrange {p : ℝ × ℝ} := allPairs_real.of_mem_samples s method hfits (p := p)
      exact ⟨_, rfl, Streams.length_samples s method n, fun z t hp => hrange hp,
        exists_projectFrom (fun p hp => onSphere_of_inRange (hrange hp)) 0⟩

theorem produce_succeeds_default :
    (∀ n ∈ (default : Settings).sampleCounts, fitsSamples n.toNat = true) ∧
    (((default : Settings).produce (Key.ofSeed 5) (Archive.empty (α := Float))).value.2 = .ok () ∧
      ∃ pairs : Cylindrical ℝ,
        ((Streams.ofSeeds 123 none (Key.ofSeed 5)).draw .random 2048).1 = .ok pairs ∧
        pairs.length = 2048) := by
  have hfits : ∀ n ∈ (default : Settings).sampleCounts, fitsSamples n.toNat = true := by
    intro n hn
    obtain rfl | rfl : n = 1024 ∨ n = 2048 := by simpa [default] using hn
    · decide
    · decide
  obtain ⟨hproduce, hdraw⟩ := produce_succeeds hfits
  obtain ⟨pairs, hpairs, hlength, -⟩ := hdraw (Streams.ofSeeds 123 none (Key.ofSeed 5)) .random 2048
  exact ⟨hfits, hproduce _ _ _, pairs, hpairs, hlength⟩

end SphereCloud
