import SphereCloud.Cloud.Production
import SphereCloud.Proofs.Basic
import SphereCloud.Proofs.Cloud.Draws
import SphereCloud.Proofs.Cloud.Labels

/-!
A production is the delivery of messages that do not depend on who receives them: the layout, and
then the clouds of all jobs up to the first that fails.
-/

namespace SphereCloud

section Deliver

variable {α σ : Type} [Receiver σ α]

def Message.announce : Message α → Logged Unit
  | .layout _ => pure ()
  | .cloud c =>
    log .debug ("Generated " ++ toString c.positions.length ++ " points for " ++ c.label)

def deliver : List (Message α) → σ → Logged σ
  | [], state => pure state
  | message :: messages, state => do
    message.announce
    let state ← message.send state
    deliver messages state

end Deliver

variable {α : Type} [UniformScalar α]

def Streams.after (α : Type) [UniformScalar α] (s : Streams) (jobs : List (UInt64 × Method)) :
    Streams :=
  jobs.foldl (fun s job => (s.draw (α := α) job.2 job.1.toNat).2) s

def Streams.attempt (s : Streams) (color : UInt32) (job : UInt64 × Method) :
    Except (SampleFault α) (Cloud α) := do
  let pairs ← (s.draw job.2 job.1.toNat).1
  let positions ← pairs.project
  return ⟨job.2.label job.1, positions, color⟩

/-- The clouds of the jobs up to the first that fails, and how the jobs end. -/
def Streams.clouds (color : UInt32) :
    List (UInt64 × Method) → Streams → List (Cloud α) × Except (SampleFault α) Unit
  | [], _ => ([], .ok ())
  | job :: jobs, s =>
    match s.attempt color job with
    | .error fault => ([], .error fault)
    | .ok cloud =>
      let (clouds, result) := clouds color jobs (s.after α [job])
      (cloud :: clouds, result)

/-- Doing a job is sending its cloud, if it gives one. -/
theorem runJobs_cons {σ : Type} [Receiver σ α] (color : UInt32) (job : UInt64 × Method)
    (jobs : List (UInt64 × Method)) (s : Streams) (state : σ) :
    runJobs color (job :: jobs) s state =
      match s.attempt color job with
      | .error fault => pure (state, .error fault)
      | .ok cloud =>
        (Message.cloud cloud).announce >>= fun _ =>
          Receiver.takeCloud state cloud >>= runJobs color jobs (s.after α [job]) := by
  obtain ⟨count, method⟩ := job
  rw [runJobs, Streams.points, Streams.attempt]
  simp only [Streams.after, List.foldl_cons, List.foldl_nil]
  rcases s.draw (α := α) method count.toNat with ⟨pairs | pairs, t⟩
  · rfl
  · cases hpoints : pairs.project with
    | error fault =>
      simp only [ok_bind, hpoints]
      rfl
    | ok positions =>
      simp only [ok_bind, hpoints]
      rfl

theorem runJobs_eq_deliver {σ : Type} [Receiver σ α] (color : UInt32)
    (jobs : List (UInt64 × Method)) (s : Streams) (state : σ) :
    runJobs color jobs s state =
      (·, (Streams.clouds color jobs s).2) <$>
        deliver ((Streams.clouds (α := α) color jobs s).1.map .cloud) state := by
  induction jobs generalizing s state with
  | nil => rfl
  | cons job jobs ih =>
    rw [runJobs_cons, Streams.clouds]
    cases s.attempt (α := α) color job with
    | error fault => rfl
    | ok cloud =>
      simp only [List.map_cons, deliver, Message.send, map_bind, ← ih]

namespace Streams

theorem attempt_eq_ok {s : Streams} {color : UInt32} {job : UInt64 × Method} {cloud : Cloud α} :
    s.attempt color job = .ok cloud ↔ ∃ pairs : Cylindrical α,
      (s.draw job.2 job.1.toNat).1 = .ok pairs ∧ pairs.project = .ok cloud.positions ∧
        cloud.label = job.2.label job.1 ∧ cloud.color = color := by
  rw [attempt, bind_eq_ok]
  constructor
  · rintro ⟨pairs, hpairs, h⟩
    obtain ⟨positions, hpositions, h⟩ := bind_eq_ok.mp h
    cases h
    exact ⟨pairs, hpairs, hpositions, rfl, rfl⟩
  · rintro ⟨pairs, hpairs, hpositions, hlabel, hcolor⟩
    refine ⟨pairs, hpairs, bind_eq_ok.mpr ⟨cloud.positions, hpositions, ?_⟩⟩
    rw [← hlabel, ← hcolor]
    rfl

theorem length_of_attempt {s : Streams} {color : UInt32} {job : UInt64 × Method} {cloud : Cloud α}
    (h : s.attempt color job = .ok cloud) : cloud.positions.length = job.1.toNat := by
  obtain ⟨pairs, hpairs, hpositions, -, -⟩ := attempt_eq_ok.mp h
  rw [Cylindrical.length_of_project hpositions, length_of_draw hpairs]

/-- Each cloud is what its job gives once all jobs before it have drawn. -/
theorem attempt_of_clouds {color : UInt32} {jobs : List (UInt64 × Method)} {s : Streams} {i : Nat}
    {cloud : Cloud α} (h : (clouds color jobs s).1[i]? = some cloud) :
    ∃ job, jobs[i]? = some job ∧ (s.after α (jobs.take i)).attempt color job = .ok cloud := by
  induction jobs generalizing s i with
  | nil => simp [clouds] at h
  | cons job jobs ih =>
    rw [clouds] at h
    cases hjob : s.attempt (α := α) color job with
    | error fault => simp [hjob] at h
    | ok first =>
      simp only [hjob] at h
      cases i with
      | zero =>
        cases h
        exact ⟨job, rfl, hjob⟩
      | succ i => exact ih h

theorem length_of_clouds_ok {color : UInt32} {jobs : List (UInt64 × Method)} {s : Streams}
    (h : (clouds (α := α) color jobs s).2 = .ok ()) :
    (clouds (α := α) color jobs s).1.length = jobs.length := by
  induction jobs generalizing s with
  | nil => rfl
  | cons job jobs ih =>
    rw [clouds] at h ⊢
    cases hjob : s.attempt (α := α) color job with
    | error fault => simp [hjob] at h
    | ok first =>
      simp only [hjob] at h
      exact congrArg (· + 1) (ih h)

/-- If there is a fault, it is that of the job behind the last cloud. -/
theorem attempt_of_clouds_error {color : UInt32} {jobs : List (UInt64 × Method)} {s : Streams}
    {fault : SampleFault α} (h : (clouds color jobs s).2 = .error fault) :
    ∃ job, jobs[(clouds (α := α) color jobs s).1.length]? = some job ∧
      (s.after α (jobs.take (clouds (α := α) color jobs s).1.length)).attempt (α := α) color job =
        .error fault := by
  induction jobs generalizing s with
  | nil => simp [clouds] at h
  | cons job jobs ih =>
    rw [clouds] at h ⊢
    cases hjob : s.attempt (α := α) color job with
    | error fault' =>
      simp only [hjob, Except.error.injEq] at h
      exact ⟨job, rfl, h ▸ hjob⟩
    | ok first =>
      simp only [hjob] at h
      exact ih h

/-- The clouds are labelled by the jobs, in their order. -/
theorem labels_clouds_prefix (color : UInt32) (jobs : List (UInt64 × Method)) (s : Streams) :
    (clouds (α := α) color jobs s).1.map (·.label) <+:
      jobs.map fun job => job.2.label job.1 := by
  induction jobs generalizing s with
  | nil => exact List.prefix_rfl
  | cons job jobs ih =>
    rw [clouds]
    cases hjob : s.attempt (α := α) color job with
    | error fault => exact List.nil_prefix
    | ok first =>
      obtain ⟨-, -, -, hlabel, -⟩ := attempt_eq_ok.mp hjob
      simp only [List.map_cons, hlabel]
      exact (List.prefix_cons_inj _).mpr (ih _)

end Streams

namespace Settings

/-- No two jobs share a label. -/
theorem nodup_labels (settings : Settings) :
    (settings.jobs.map fun job => job.2.label job.1).Nodup := by
  rw [jobs, List.map_flatMap, List.Nodup, List.pairwise_flatMap]
  constructor
  · intro n _
    simp [Method.productionOrder]
  · refine (nodup_eraseDups settings.sampleCounts).imp fun {m n} hne a ha b hb heq => ?_
    simp only [List.map_map, List.mem_map, Function.comp_apply] at ha hb
    obtain ⟨k, -, rfl⟩ := ha
    obtain ⟨l, -, rfl⟩ := hb
    exact hne (Method.label_inj.mp heq).2

theorem length_jobs (settings : Settings) :
    settings.jobs.length = 3 * settings.sampleCounts.eraseDups.length := by
  simp [jobs, Method.productionOrder, List.length_flatMap, List.map_const', Nat.mul_comm]

theorem mem_sampleCounts_of_mem_jobs {settings : Settings} {job : UInt64 × Method}
    (h : job ∈ settings.jobs) : job.1 ∈ settings.sampleCounts := by
  obtain ⟨n, hn, hjob⟩ := List.mem_flatMap.mp h
  obtain ⟨method, -, rfl⟩ := List.mem_map.mp hjob
  exact List.mem_eraseDups.mp hn

/-- Every count is a job of every method. -/
theorem mem_jobs {settings : Settings} {n : UInt64} {m : Method} :
    (n, m) ∈ settings.jobs ↔ n ∈ settings.sampleCounts := by
  refine ⟨mem_sampleCounts_of_mem_jobs, fun hn => ?_⟩
  have hmethod : m ∈ Method.productionOrder := by cases m <;> decide
  rw [jobs, List.mem_flatMap]
  exact ⟨n, List.mem_eraseDups.mpr hn, List.mem_map_of_mem hmethod⟩

end Settings

/-- The clouds that are made for some settings, and how that ends. -/
def Settings.yield (settings : Settings) (entropy : Key) :
    List (Cloud α) × Except (SampleFault α) Unit :=
  (Streams.ofSeeds settings.pcgSeed settings.uniformSeed entropy).clouds settings.pointColor
    settings.jobs

theorem produce_eq_deliver {σ : Type} [Receiver σ α] (settings : Settings) (entropy : Key)
    (state : σ) :
    settings.produce entropy state = (·, (settings.yield (α := α) entropy).2) <$>
      deliver (.layout (.grid settings.sampleCounts Method.all) ::
        (settings.yield entropy).1.map .cloud) state := by
  rw [Settings.produce]
  simp only [runJobs_eq_deliver, deliver, Message.announce, Message.send, pure_bind, map_bind]
  rfl

/-- Receivers of every kind are told the same: once the layout, and then, for every count where it
occurs first and every method, the points that the method draws behind all earlier draws. What fails
ends it. -/
theorem produce_delivers (settings : Settings) (entropy : Key) :
    let counts := settings.sampleCounts.eraseDups
    let jobs := counts.flatMap fun n => [(n, Method.halton), (n, Method.pcg), (n, Method.random)]
    let streams := Streams.ofSeeds settings.pcgSeed settings.uniformSeed entropy
    (∀ n, n ∈ counts ↔ n ∈ settings.sampleCounts) ∧
    (counts.Pairwise fun m n => settings.sampleCounts.idxOf m < settings.sampleCounts.idxOf n) ∧
    ∃ (clouds : List (Cloud α)) (result : Except (SampleFault α) Unit),
      (∀ (σ : Type) [Receiver σ α] (state : σ), settings.produce entropy state =
        (·, result) <$> deliver
          (.layout (.grid settings.sampleCounts Method.all) :: clouds.map .cloud) state) ∧
      (∀ i cloud, clouds[i]? = some cloud → ∃ job, jobs[i]? = some job ∧
        (streams.after α (jobs.take i)).attempt settings.pointColor job = .ok cloud ∧
        cloud.positions.length = job.1.toNat) ∧
      (clouds.map (·.label)).Nodup ∧
      match result with
      | .ok () => clouds.length = 3 * counts.length
      | .error fault => ∃ job, jobs[clouds.length]? = some job ∧
          (streams.after α (jobs.take clouds.length)).attempt (α := α) settings.pointColor job =
            .error fault := by
  intro counts jobs streams
  refine ⟨fun n => List.mem_eraseDups, pairwise_eraseDups _,
    (settings.yield entropy).1, (settings.yield entropy).2, ?_, ?_, ?_, ?_⟩
  · intro σ _ state
    exact produce_eq_deliver settings entropy state
  · intro i cloud h
    obtain ⟨job, hjob, hattempt⟩ := Streams.attempt_of_clouds h
    exact ⟨job, hjob, hattempt, Streams.length_of_attempt hattempt⟩
  · exact (Streams.labels_clouds_prefix _ _ _).sublist.nodup settings.nodup_labels
  · cases hresult : (settings.yield (α := α) entropy).2 with
    | ok _ => exact (Streams.length_of_clouds_ok hresult).trans settings.length_jobs
    | error fault => exact Streams.attempt_of_clouds_error hresult

end SphereCloud
