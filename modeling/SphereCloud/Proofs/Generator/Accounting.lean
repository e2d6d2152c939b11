import SphereCloud.Proofs.Binary.BinaryScalar
import SphereCloud.Proofs.Generator.Places

/-!
Which words of a stream the numbers of each of several requests are made of. A request that is
refused uses none, and every other goes on behind the words that those before it used.
-/

namespace SphereCloud

structure RangeRequest (α : Type) where
  count : ℕ
  lo : α
  hi : α

/-- No numbers can be drawn from the range: a bound or the width is no finite number, or the range
is empty. -/
def RangeRequest.Refused (r : RangeRequest Float) : Prop :=
  ¬r.lo.isFinite ∨ ¬r.hi.isFinite ∨ r.hi ≤ r.lo ∨ ¬(r.hi - r.lo).isFinite

theorem RangeRequest.refused_iff (r : RangeRequest Float) :
    r.Refused ↔ UniformStream.accepts r.lo r.hi = false := by
  have hle : r.hi ≤ r.lo ↔ Scalar.le r.hi r.lo = true := Iff.rfl
  have hfinite (x : Float) : x.isFinite = Scalar.isFinite x := rfl
  rw [Refused, hle, hfinite, hfinite, hfinite, UniformStream.accepts]
  simp only [Bool.and_eq_false_iff, Bool.not_eq_true, Bool.not_eq_false', or_assoc]

/-- A range that is not refused is not empty: of two finite numbers one is less than the other, or
the other is not greater. -/
theorem RangeRequest.lt_of_not_refused {r : RangeRequest Float} (h : ¬r.Refused) :
    r.lo < r.hi ∧ (r.hi - r.lo).isFinite := by
  simp only [Refused, not_or, not_not] at h
  obtain ⟨hlo, hhi, hle, hwidth⟩ := h
  have hle' : ¬Scalar.le r.hi r.lo = true := hle
  rw [BinaryScalar.le_iff_real hhi hlo, not_le] at hle'
  exact ⟨(BinaryScalar.lt_iff_real hlo hhi).mpr hle', hwidth⟩

namespace UniformStream

variable {α : Type}

/-- How many numbers were asked for where they were given. -/
def granted (outcomes : List (RangeRequest α × Except (SampleFault α) (List α))) : ℕ :=
  ((outcomes.filter fun outcome => outcome.2.isOk).map fun outcome => outcome.1.count).sum

theorem granted_cons (r : RangeRequest α) (result : Except (SampleFault α) (List α))
    (outcomes : List (RangeRequest α × Except (SampleFault α) (List α))) :
    granted ((r, result) :: outcomes) =
      (if result.isOk then r.count else 0) + granted outcomes := by
  rw [granted, List.filter_cons]
  cases hresult : result.isOk with
  | true => simp [granted]
  | false => simp [granted]

variable [UniformScalar α]

def after (stream : UniformStream) (requests : List (RangeRequest α)) : UniformStream :=
  requests.foldl (fun s r => (s.draw r.count r.lo r.hi).2) stream

def outcomes (stream : UniformStream) :
    List (RangeRequest α) → List (RangeRequest α × Except (SampleFault α) (List α))
  | [] => []
  | r :: requests =>
    (r, (stream.draw r.count r.lo r.hi).1) :: (stream.after [r]).outcomes requests

theorem after_cons (stream : UniformStream) (r : RangeRequest α)
    (requests : List (RangeRequest α)) :
    stream.after (r :: requests) = (stream.draw r.count r.lo r.hi).2.after requests := rfl

theorem outcomes_cons (stream : UniformStream) (r : RangeRequest α)
    (requests : List (RangeRequest α)) :
    stream.outcomes (r :: requests) =
      (r, (stream.draw r.count r.lo r.hi).1) ::
        (stream.draw r.count r.lo r.hi).2.outcomes requests := rfl

theorem after_take_succ (stream : UniformStream) {requests : List (RangeRequest α)} {i : ℕ}
    {r : RangeRequest α} (h : requests[i]? = some r) :
    stream.after (requests.take (i + 1)) =
      ((stream.after (requests.take i)).draw r.count r.lo r.hi).2 := by
  rw [List.take_add_one, h, Option.toList_some, after, List.foldl_append]
  rfl

theorem take_outcomes (stream : UniformStream) (requests : List (RangeRequest α)) (i : ℕ) :
    (stream.outcomes requests).take i = stream.outcomes (requests.take i) := by
  induction requests generalizing stream i with
  | nil => rw [List.take_nil, outcomes, List.take_nil]
  | cons r requests ih =>
    cases i with
    | zero => rfl
    | succ i => rw [outcomes_cons, List.take_succ_cons, List.take_succ_cons, outcomes_cons, ih]

theorem getElem?_outcomes (stream : UniformStream) (requests : List (RangeRequest α)) (i : ℕ) :
    (stream.outcomes requests)[i]? =
      requests[i]?.map fun r =>
        (r, ((stream.after (requests.take i)).draw r.count r.lo r.hi).1) := by
  induction requests generalizing stream i with
  | nil => rfl
  | cons r requests ih =>
    cases i with
    | zero => rfl
    | succ i =>
      rw [outcomes_cons, List.getElem?_cons_succ, ih, List.getElem?_cons_succ,
        List.take_succ_cons]
      rfl

theorem draw_of_not_accepts (stream : UniformStream) (n : ℕ) {lo hi : α}
    (h : accepts lo hi = false) :
    stream.draw n lo hi = (.error (.emptyRange lo hi), stream) := by
  rw [draw, h, if_neg Bool.false_ne_true]

/-- A draw moves the stream by as many words as it gives numbers, and not at all if it gives
none. -/
theorem draw_snd (stream : UniformStream) (n : ℕ) (lo hi : α) :
    (stream.draw n lo hi).2 =
      { stream with used := stream.used + if (stream.draw n lo hi).1.isOk then n else 0 } := by
  by_cases haccepts : accepts lo hi = true
  · rw [draw_eq _ _ haccepts]
    by_cases hfits : fitsSamples n
    · rw [if_pos hfits]
      rfl
    · rw [if_neg hfits]
      rfl
  · rw [draw_of_not_accepts _ _ (Bool.not_eq_true _ ▸ haccepts)]
    rfl

/-- The next word is the one behind as many as there were numbers given. -/
theorem after_eq (stream : UniformStream) (requests : List (RangeRequest α)) :
    stream.after requests =
      { stream with used := stream.used + granted (stream.outcomes requests) } := by
  induction requests generalizing stream with
  | nil => rfl
  | cons r requests ih =>
    rw [after_cons, ih, outcomes_cons, granted_cons, draw_snd]
    simp only [Nat.add_assoc]

/-- Two draws from one range give the values of a single draw for both, and leave the stream where
that leaves it. -/
theorem draw_add {stream next last : UniformStream} {n m : ℕ} {lo hi : α} {first second : List α}
    (hfirst : stream.draw n lo hi = (.ok first, next))
    (hsecond : next.draw m lo hi = (.ok second, last)) (hfits : fitsSamples (n + m)) :
    stream.draw (n + m) lo hi = (.ok (first ++ second), last) := by
  have haccepts : accepts lo hi = true := by
    by_contra h
    rw [draw_of_not_accepts _ _ (Bool.not_eq_true _ ▸ h)] at hfirst
    cases hfirst
  rw [draw_eq _ _ haccepts] at hfirst hsecond ⊢
  split at hfirst
  case isFalse => cases hfirst
  case isTrue =>
    cases hfirst
    split at hsecond
    case isFalse => cases hsecond
    case isTrue =>
      cases hsecond
      rw [if_pos hfits, ← List.map_append, List.range'_append_1, Nat.add_assoc]

/-- Requests with any counts and any bounds, made one after the other of the stream of a seed.

A request is refused, with its own bounds, where a bound is not finite, the lower one is not below
the upper one, or the width is not finite; so what stretches fractions to the range is never asked
for an empty or a boundless one. What is refused leaves the stream as it was. Any other request gets
as many values as it asks for, unless no memory can hold them, and each value is made of the bounds
and one word of the seed's stream, the first of them that of the number of values given before.

Requests for `n` and then `m` values with equal bounds get what one for `n + m` gets. -/
theorem words_accounted (seed : UInt64) (entropy : Key) (requests : List (RangeRequest Float)) :
    let stream := ofSeed? (some seed) entropy
    let outcomes := stream.outcomes requests
    (∀ (i : ℕ) (r : RangeRequest Float), requests[i]? = some r →
      ∃ result, outcomes[i]? = some (r, result) ∧
        (result = .error (.emptyRange r.lo r.hi) ↔ r.Refused) ∧
        (r.Refused → stream.after (requests.take (i + 1)) = stream.after (requests.take i)) ∧
        (¬r.Refused → (r.lo < r.hi ∧ (r.hi - r.lo).isFinite) ∧
          if fitsSamples r.count then
            ∃ values, result = .ok values ∧ values.length = r.count ∧
              ∀ j < r.count, values[j]? = some (sample r.lo (UniformScalar.stretch r.lo r.hi)
                ((Key.ofSeed seed).word (granted (outcomes.take i) + j)))
          else result = .error (.tooMany r.count))) ∧
    ∀ (s t u : UniformStream) (n m : ℕ) (lo hi : Float) (first second : List Float),
      s.draw n lo hi = (.ok first, t) → t.draw m lo hi = (.ok second, u) → fitsSamples (n + m) →
        s.draw (n + m) lo hi = (.ok (first ++ second), u) := by
  intro stream outcomes
  refine ⟨fun i r hr => ?_, fun s t u n m lo hi first second => draw_add⟩
  have hplace : outcomes[i]? = some (r, _) :=
    (getElem?_outcomes stream requests i).trans (congrArg _ hr)
  have hbefore : stream.after (requests.take i) =
      ⟨Key.ofSeed seed, granted (outcomes.take i)⟩ := by
    rw [after_eq, take_outcomes]
    simp [stream, ofSeed?]
  rw [hbefore] at hplace
  refine ⟨_, hplace, ?_⟩
  by_cases hrefused : r.Refused
  · have hdraw := draw_of_not_accepts ⟨Key.ofSeed seed, granted (outcomes.take i)⟩ r.count
      (r.refused_iff.mp hrefused)
    rw [after_take_succ stream hr, hbefore, hdraw]
    exact ⟨iff_of_true rfl hrefused, fun _ => rfl, fun h => absurd hrefused h⟩
  · have haccepts : accepts r.lo r.hi = true :=
      Bool.not_eq_false _ ▸ mt r.refused_iff.mpr hrefused
    rw [draw_eq _ _ haccepts]
    refine ⟨iff_of_false ?_ hrefused, fun h => absurd h hrefused,
      fun _ => ⟨r.lt_of_not_refused hrefused, ?_⟩⟩
    · split <;> nofun
    · split
      case isTrue =>
        refine ⟨_, rfl, by simp, fun j hj => ?_⟩
        simp [hj]
      case isFalse => rfl

/-- The third request goes on where the first ended, as the second is refused. -/
theorem words_accounted_behind_refusal :
    let nan : Float := 0.0 / 0.0
    let requests : List (RangeRequest Float) := [⟨2, 0.0, 1.0⟩, ⟨3, nan, 1.0⟩, ⟨2, 0.0, 1.0⟩]
    let stream := ofSeed? (some 9) (Key.ofSeed 0)
    (stream.outcomes requests)[1]? = some (⟨3, nan, 1.0⟩, .error (.emptyRange nan 1.0)) ∧
    ∃ values, (stream.outcomes requests)[2]? = some (⟨2, 0.0, 1.0⟩, .ok values) ∧
      ∀ j < 2, values[j]? = some (sample 0.0 (UniformScalar.stretch 0.0 1.0)
        ((Key.ofSeed 9).word (2 + j))) := by
  intro nan requests stream
  obtain ⟨hrequests, -⟩ := words_accounted 9 (Key.ofSeed 0) requests
  have hnan : accepts nan 1.0 = false := by decide
  have hunit : accepts (0.0 : Float) 1.0 = true := by decide
  have hfits : fitsSamples 2 := by decide
  have hgranted : granted ((stream.outcomes requests).take 2) = 2 := by
    rw [take_outcomes]
    simp only [requests, List.take_succ_cons, outcomes_cons, granted_cons, draw_eq _ _ hunit,
      if_pos hfits, draw_of_not_accepts _ _ hnan]
    rfl
  obtain ⟨result, hresult, hfault, -⟩ := hrequests 1 ⟨3, nan, 1.0⟩ rfl
  obtain ⟨third, hthird, -, -, hserved⟩ := hrequests 2 ⟨2, 0.0, 1.0⟩ rfl
  obtain ⟨-, hvalues⟩ := hserved (by rw [RangeRequest.refused_iff, hunit]; exact nofun)
  rw [if_pos hfits, hgranted] at hvalues
  obtain ⟨values, rfl, -, hwords⟩ := hvalues
  exact ⟨hfault.mpr ((RangeRequest.refused_iff _).mpr hnan) ▸ hresult, values, hthird, hwords⟩

end UniformStream

end SphereCloud
