import Mathlib.Algebra.Ring.Nat
import SphereCloud.Proofs.Cloud.Delivery
import SphereCloud.Proofs.Generator.Places

/-!
The methods do not disturb each other: what the jobs of one method give depends on these jobs alone,
and each method goes on in its own stream where its last job ended.
-/

namespace SphereCloud

/-- What the samples of some jobs add up to, of which each gives as many as it is asked for. A job
that no memory can hold gives none. -/
def Method.amount (m : Method) (jobs : List (UInt64 × Method)) : Nat :=
  ((jobs.filter fun job => job.2 = m ∧ fitsSamples job.1.toNat).map (·.1.toNat)).sum

theorem Method.amount_cons (m : Method) (job : UInt64 × Method) (jobs : List (UInt64 × Method)) :
    m.amount (job :: jobs) =
      (if job.2 = m ∧ fitsSamples job.1.toNat then job.1.toNat else 0) + m.amount jobs := by
  rw [amount, List.filter_cons]
  by_cases h : job.2 = m ∧ fitsSamples job.1.toNat
  · simp [h, amount]
  · simp [h, amount]

namespace Streams

variable {α : Type} [UniformScalar α]

/-- The jobs with what they give when they are done one after the other. -/
def outcomes (s : Streams) :
    List (UInt64 × Method) → List ((UInt64 × Method) × Except (SampleFault α) (Cylindrical α))
  | [] => []
  | job :: jobs => (job, (s.draw job.2 job.1.toNat).1) :: (s.after α [job]).outcomes jobs

def joined (outcomes : List ((UInt64 × Method) × Except (SampleFault α) (Cylindrical α))) :
    List (α × α) :=
  outcomes.flatMap fun outcome =>
    match outcome.2 with
    | .ok pairs => pairs.toList
    | .error _ => []

/-- Whether a method finds the same in two states of the streams. -/
def Agree : Method → Streams → Streams → Prop
  | .pcg, s, t => s.chain = t.chain
  | .random, s, t => s.uniform = t.uniform
  | .halton, _, _ => True

theorem Agree.trans {m : Method} {s t u : Streams} (h : Agree m s t) (h' : Agree m t u) :
    Agree m s u := by
  cases m with
  | pcg => exact Eq.trans h h'
  | random => exact Eq.trans h h'
  | halton => trivial

theorem Agree.draw {m : Method} {s t : Streams} (h : Agree m s t) (n : Nat) :
    (s.draw (α := α) m n).1 = (t.draw m n).1 ∧
      Agree m (s.draw (α := α) m n).2 (t.draw (α := α) m n).2 := by
  cases m with
  | pcg =>
    have hchain : s.chain = t.chain := h
    simp only [Streams.draw, Agree, hchain, and_self]
  | random =>
    have huniform : s.uniform = t.uniform := h
    simp only [Streams.draw, Agree, huniform, and_self]
  | halton => exact ⟨rfl, trivial⟩

theorem agree_draw_of_ne {m k : Method} (h : k ≠ m) (s : Streams) (n : Nat) :
    Agree m (s.draw (α := α) k n).2 s := by
  cases m with
  | halton => trivial
  | pcg =>
    cases k with
    | pcg => exact absurd rfl h
    | random => rfl
    | halton => rfl
  | random =>
    cases k with
    | pcg => rfl
    | random => exact absurd rfl h
    | halton => rfl

theorem after_singleton (s : Streams) (job : UInt64 × Method) :
    s.after α [job] = (s.draw (α := α) job.2 job.1.toNat).2 := rfl

theorem after_cons (s : Streams) (job : UInt64 × Method) (jobs : List (UInt64 × Method)) :
    s.after α (job :: jobs) = (s.after α [job]).after α jobs := rfl

/-- The jobs of a method give what they would give alone, also from another state in which the
method finds the same. -/
theorem Agree.outcomes_filter {m : Method} {s t : Streams} (h : Agree m s t)
    (jobs : List (UInt64 × Method)) :
    (s.outcomes (α := α) jobs).filter (·.1.2 = m) = t.outcomes (jobs.filter (·.2 = m)) := by
  induction jobs generalizing s t with
  | nil => rfl
  | cons job jobs ih =>
    rw [outcomes]
    by_cases hm : job.2 = m
    · subst hm
      obtain ⟨hresult, hnext⟩ := h.draw (α := α) job.1.toNat
      have hafter : Agree job.2 (s.after α [job]) (t.after α [job]) := hnext
      rw [List.filter_cons_of_pos (by simp), List.filter_cons_of_pos (by simp), outcomes, hresult,
        ih hafter]
    · -- The job drops out on the right. On the left it moves only what `m` does not look at.
      have hsame : Agree m (s.after α [job]) t := (agree_draw_of_ne hm s _).trans h
      rw [List.filter_cons_of_neg (by simpa using hm), List.filter_cons_of_neg (by simpa using hm),
        ih hsame]

theorem getElem?_outcomes (s : Streams) (jobs : List (UInt64 × Method)) (i : Nat) :
    (s.outcomes (α := α) jobs)[i]? =
      jobs[i]?.map fun job => (job, ((s.after α (jobs.take i)).draw job.2 job.1.toNat).1) := by
  induction jobs generalizing s i with
  | nil => rfl
  | cons job jobs ih =>
    cases i with
    | zero => rfl
    | succ i =>
      rw [outcomes, List.getElem?_cons_succ, ih, List.getElem?_cons_succ, List.take_succ_cons]
      rfl

variable [HasSampleRanges α]

/-- Where each stream is when some jobs have drawn from it. -/
theorem after_eq (s : Streams) (jobs : List (UInt64 × Method)) :
    s.after α jobs =
      ⟨s.chain.skip (2 * Method.pcg.amount jobs),
        { s.uniform with used := s.uniform.used + 2 * Method.random.amount jobs }⟩ := by
  induction jobs generalizing s with
  | nil => rfl
  | cons job jobs ih =>
    obtain ⟨count, method⟩ := job
    rw [after_cons, ih, after_singleton, draw_eq, Method.amount_cons, Method.amount_cons]
    by_cases hfits : fitsSamples count.toNat
    · cases method with
      | pcg => simp [hfits, advance, HashChain.skip_add, Nat.mul_add]
      | random => simp [hfits, advance, Nat.mul_add, Nat.add_assoc]
      | halton => simp [hfits, advance]
    · simp [hfits]

/-- The pairs of the hash chain come one after the other, however they are asked for. -/
theorem joined_pcg (s : Streams) {jobs : List (UInt64 × Method)} (h : ∀ job ∈ jobs, job.2 = .pcg) :
    joined (s.outcomes jobs) =
      (List.range (Method.pcg.amount jobs)).map (s.chain.pairAt (α := α)) := by
  induction jobs generalizing s with
  | nil => rfl
  | cons job jobs ih =>
    obtain ⟨hjob, hjobs⟩ := List.forall_mem_cons.mp h
    obtain ⟨count, method⟩ := job
    obtain rfl : method = .pcg := hjob
    rw [outcomes, joined, List.flatMap_cons, ← joined, ih _ hjobs, after_singleton, draw_eq,
      Method.amount_cons]
    by_cases hfits : fitsSamples count.toNat
    · -- The later jobs start two draws further for each pair of this one.
      have hplace (k : Nat) : (s.chain.skip (2 * count.toNat)).pairAt (α := α) k =
          s.chain.pairAt (count.toNat + k) := HashChain.pairAt_skip _ _ _
      simp [hfits, samples, advance, List.range_add, Function.comp_def, hplace]
    · simp [hfits]

/-- Jobs of the radical inverses give the same pairs always, and of fewer pairs the first ones. -/
theorem draw_halton_take (s t : Streams) {m n : Nat} (hle : n ≤ m) {pairs : Cylindrical α}
    (h : (s.draw .halton m).1 = .ok pairs) :
    ∃ first, (t.draw .halton n).1 = .ok first ∧ first.toList = pairs.toList.take n := by
  rw [draw_eq] at h ⊢
  by_cases hm : fitsSamples m
  · have hn : fitsSamples n := by
      simp only [fitsSamples, fitsMemory, decide_eq_true_eq] at hm ⊢
      omega
    rw [if_pos hm] at h
    rw [if_pos hn]
    cases h
    refine ⟨_, rfl, ?_⟩
    simp [samples, take_map_range _ hle]
  · rw [if_neg hm] at h
    cases h

/-- Whatever jobs come in whatever order: every job gives as many pairs as it is asked for, unless
no memory can hold them.

What the hash chain gives does not depend on other jobs nor on the key stream; it is one sequence,
each pair made of the next two words, and a single job for all of it gives the same. The radical
inverses give the same from any state. What the key stream gives does not depend on other jobs nor
on the hash chain; a job for `n` pairs behind jobs for `k` in all takes its heights from the `n`
words from `2 * k` on, and its angles from the `n` words behind these. -/
theorem draws_independent (pcgSeed : UInt32) (seed : Option UInt64) (entropy : Key)
    (jobs : List (UInt64 × Method)) :
    let s := ofSeeds pcgSeed seed entropy
    let outcomes := s.outcomes (α := Float) jobs
    let total := Method.pcg.amount jobs
    (∀ (i : Nat) (count : UInt64) (method : Method), jobs[i]? = some (count, method) →
      ∃ result, outcomes[i]? = some ((count, method), result) ∧
        if fitsSamples count.toNat then ∃ pairs, result = .ok pairs ∧ pairs.length = count.toNat
        else result = .error (.tooMany count.toNat)) ∧
    ((∀ otherSeed otherEntropy, outcomes.filter (·.1.2 = .pcg) =
        (ofSeeds pcgSeed otherSeed otherEntropy).outcomes (jobs.filter (·.2 = .pcg))) ∧
      joined (outcomes.filter (·.1.2 = .pcg)) = (List.range total).map (fun k =>
        (Cylindrical.heightOf ((HashChain.mk pcgSeed).skip (2 * k + 1)).fraction,
          Cylindrical.angleOf ((HashChain.mk pcgSeed).skip (2 * k + 2)).fraction)) ∧
      ∀ otherSeed otherEntropy, ((ofSeeds pcgSeed otherSeed otherEntropy).draw .pcg total).1 =
        if fitsSamples total then .ok (.ofPairs (joined (outcomes.filter (·.1.2 = .pcg))))
        else .error (.tooMany total)) ∧
    ((∀ (i : Nat) (count : UInt64), jobs[i]? = some (count, .halton) → ∀ t : Streams,
        outcomes[i]? = some ((count, .halton), (t.draw .halton count.toNat).1)) ∧
      ∀ (t u : Streams) (m n : Nat), n ≤ m → ∀ pairs : Cylindrical Float,
        (t.draw .halton m).1 = .ok pairs →
          ∃ first, (u.draw .halton n).1 = .ok first ∧ first.toList = pairs.toList.take n) ∧
    (∀ otherPcgSeed, outcomes.filter (·.1.2 = .random) =
        (ofSeeds otherPcgSeed seed entropy).outcomes (jobs.filter (·.2 = .random))) ∧
    ∀ (i : Nat) (count : UInt64), jobs[i]? = some (count, .random) → fitsSamples count.toNat →
      let n := count.toNat
      let k := Method.random.amount (jobs.take i)
      ∃ pairs, outcomes[i]? = some ((count, .random), .ok pairs) ∧
        pairs.heights = (List.range' (2 * k) n).map s.uniform.heightAt ∧
        pairs.angles = (List.range' (2 * k + n) n).map s.uniform.angleAt := by
  intro s outcomes total
  have hplace {i : Nat} {job : UInt64 × Method} (h : jobs[i]? = some job) :
      outcomes[i]? = some (job, ((s.after Float (jobs.take i)).draw job.2 job.1.toNat).1) := by
    rw [getElem?_outcomes, h, Option.map_some]
  have hchain (otherSeed : Option UInt64) (otherEntropy : Key) :
      Agree .pcg s (ofSeeds pcgSeed otherSeed otherEntropy) := rfl
  have hjoined : joined (outcomes.filter (·.1.2 = .pcg)) =
      (List.range total).map (HashChain.mk pcgSeed).pairAt := by
    rw [(hchain seed entropy).outcomes_filter, joined_pcg _ (by simp)]
    congr 2
    simp [total, Method.amount, List.filter_filter, Bool.and_comm]
  refine ⟨?_, ⟨fun otherSeed otherEntropy => (hchain otherSeed otherEntropy).outcomes_filter jobs,
    hjoined, ?_⟩, ⟨?_, fun t u m n hle pairs => draw_halton_take t u hle⟩, ?_, ?_⟩
  · intro i count method hjob
    refine ⟨_, hplace hjob, ?_⟩
    rw [draw_eq]
    split
    case isTrue => exact ⟨_, rfl, length_samples _ _ _⟩
    case isFalse => rfl
  · intro otherSeed otherEntropy
    rw [draw_eq, hjoined]
    split
    case isTrue => rfl
    case isFalse => rfl
  · intro i count hjob t
    rw [hplace hjob]
    rfl
  · intro otherPcgSeed
    have huniform : Agree .random s (ofSeeds otherPcgSeed seed entropy) := rfl
    exact huniform.outcomes_filter jobs
  · intro i count hjob hfits n k
    have hused : (s.after Float (jobs.take i)).uniform = { s.uniform with used := 2 * k } := by
      rw [after_eq]
      simp [s, ofSeeds, UniformStream.ofSeed?, k]
    refine ⟨(s.after Float (jobs.take i)).samples .random n, ?_, ?_, ?_⟩
    · rw [hplace hjob, draw_eq, if_pos hfits]
    · rw [samples, hused]
      rfl
    · rw [samples, hused]
      rfl

/-- The second of two random jobs, with others before and between them. -/
theorem draws_independent_second_random :
    let jobs : List (UInt64 × Method) := [(2, .pcg), (3, .random), (1, .halton), (2, .random)]
    let s := ofSeeds 123 (some 5) (Key.ofSeed 0)
    ∃ pairs, (s.outcomes (α := Float) jobs)[3]? = some ((2, .random), .ok pairs) ∧
      pairs.heights = [6, 7].map s.uniform.heightAt ∧
      pairs.angles = [8, 9].map s.uniform.angleAt := by
  intro jobs s
  have hrandom := (draws_independent 123 (some 5) (Key.ofSeed 0) jobs).2.2.2.2
  exact hrandom 3 2 rfl (by decide)

end Streams

end SphereCloud
