import SphereCloud.Proofs.Exact.Reals
import SphereCloud.Proofs.View.Heading

/-!
A camera that only keys move: it makes no difference into which frames the time is cut.
-/

namespace SphereCloud.Camera

variable {α : Type}

/-- Whether just the given keys are held, while neither the wheel nor the left button is used. -/
structure OnlyKeys (held : KeyName → Bool) (controls : Controls α) : Prop where
  holds : ∀ key, controls.holds key = held key
  scroll : controls.scroll = none
  left : controls.presses .left = false

theorem OnlyKeys.not_drags {held : KeyName → Bool} {controls : Controls α}
    (h : OnlyKeys held controls) (c : Camera α) : c.drags controls = false := by
  rw [drags, h.left, Bool.false_and, Bool.false_and]

/-- The updates of frames that follow each other, each given by how long it lasted and by its
controls. -/
def updates (frames : List (α × Controls α)) : List (Action α) :=
  frames.map fun f => .update f.1 f.2

/-- One for a key that moves forward, minus one for a key that moves back, zero for both and for
none. -/
def push (forward back : Bool) : ℝ :=
  forward.toNat - back.toNat

theorem push_self (both : Bool) : push both both = 0 :=
  sub_self _

theorem push_forward : push true false = 1 := by
  norm_num [push]

theorem push_back : push false true = -1 := by
  norm_num [push]

variable {held : KeyName → Bool} {controls : Controls ℝ} {c : Camera ℝ}
  {frames : List (ℝ × Controls ℝ)}

namespace OnlyKeys

theorem turning_eq (h : OnlyKeys held controls) : turning controls = push (held .d) (held .a) := by
  rw [Camera.turning_eq, h.holds, h.holds]
  cases held .a <;> cases held .d <;> norm_num [push]

theorem receding_eq (h : OnlyKeys held controls) :
    receding controls = push (held .s) (held .w) := by
  rw [receding_of_scroll_none h.scroll, h.holds, h.holds]
  cases held .w <;> cases held .s <;> norm_num [push]

theorem yaw_update (h : OnlyKeys held controls) (c : Camera ℝ) (dt : ℝ) :
    (c.update dt controls).yaw = c.yaw + push (held .d) (held .a) * dt := by
  rw [yaw_update_of_not_drags (h.not_drags c), h.turning_eq]

theorem distance_update (h : OnlyKeys held controls) (c : Camera ℝ) (dt : ℝ) :
    (c.update dt controls).distance =
      Scalar.clamp (c.distance + push (held .s) (held .w) * 2.0 * dt) minDistance maxDistance := by
  rw [update_of_not_drags (h.not_drags c), ← h.receding_eq]
  rfl

end OnlyKeys

/-- Frames with the same keys move the camera like their time in one piece. The distance is cut off
after each frame, but as the keys push one way all the time this comes to one cut. -/
theorem run_updates_of_onlyKeys (hdistance : c.distance ∈ Set.Icc minDistance maxDistance)
    (hframes : ∀ f ∈ frames, 0 ≤ f.1 ∧ OnlyKeys held f.2) :
    (c.run (updates frames)).yaw = c.yaw + push (held .d) (held .a) * (frames.map Prod.fst).sum ∧
      (c.run (updates frames)).pitch = c.pitch ∧
      (c.run (updates frames)).distance =
        Scalar.clamp (c.distance + push (held .s) (held .w) * 2.0 * (frames.map Prod.fst).sum)
          minDistance maxDistance := by
  induction frames generalizing c with
  | nil =>
    refine ⟨?_, rfl, ?_⟩
    · rw [List.map_nil, List.sum_nil, mul_zero, add_zero]
      rfl
    · rw [List.map_nil, List.sum_nil, mul_zero, add_zero, clamp_of_mem hdistance]
      rfl
  | cons f frames ih =>
    obtain ⟨⟨hdt, hkeys⟩, hframes⟩ := List.forall_mem_cons.mp hframes
    have hrest : 0 ≤ (frames.map Prod.fst).sum := by
      refine List.sum_nonneg fun t ht => ?_
      obtain ⟨g, hg, rfl⟩ := List.mem_map.mp ht
      exact (hframes g hg).1
    have hnext : (c.update f.1 f.2).distance ∈ Set.Icc minDistance maxDistance := by
      rw [hkeys.distance_update]
      exact clamp_mem_Icc minDistance_le _
    obtain ⟨hyaw, hpitch, hdist⟩ := ih hnext hframes
    rw [List.map_cons, List.sum_cons]
    refine ⟨?_, ?_, ?_⟩
    · calc (c.run (updates (f :: frames))).yaw = _ := hyaw
        _ = _ := by rw [hkeys.yaw_update, add_assoc, ← mul_add]
    · exact hpitch.trans (pitch_update_of_not_drags (hkeys.not_drags c) f.1)
    · have hway : 0 ≤ push (held .s) (held .w) * 2.0 * f.1 ∧
          0 ≤ push (held .s) (held .w) * 2.0 * (frames.map Prod.fst).sum ∨
          push (held .s) (held .w) * 2.0 * f.1 ≤ 0 ∧
          push (held .s) (held .w) * 2.0 * (frames.map Prod.fst).sum ≤ 0 := by
        rcases le_total 0 (push (held .s) (held .w) * 2.0) with hpush | hpush
        · exact Or.inl ⟨mul_nonneg hpush hdt, mul_nonneg hpush hrest⟩
        · exact Or.inr ⟨mul_nonpos_of_nonpos_of_nonneg hpush hdt,
            mul_nonpos_of_nonpos_of_nonneg hpush hrest⟩
      calc (c.run (updates (f :: frames))).distance = _ := hdist
        _ = _ := by rw [hkeys.distance_update, clamp_clamp_add hdistance hway, ← mul_add]

/-- A camera that only keys move is the same at the end of a time, whether one frame took all of it
or many frames shared it. Two keys that push against each other move nothing. -/
theorem run_updates_eq_update (hdistance : minDistance ≤ c.distance ∧ c.distance ≤ maxDistance)
    (hframes : ∀ f ∈ frames, 0 ≤ f.1 ∧ OnlyKeys held f.2) (hcontrols : OnlyKeys held controls) :
    let parts := c.run (updates frames)
    let whole := c.update (frames.map Prod.fst).sum controls
    (parts.yaw = whole.yaw ∧ parts.pitch = whole.pitch ∧ parts.distance = whole.distance) ∧
      (held .a = true → held .d = true → parts.yaw = c.yaw) ∧
      (held .w = true → held .s = true → parts.distance = c.distance) := by
  intro parts whole
  obtain ⟨hyaw, hpitch, hdist⟩ := run_updates_of_onlyKeys hdistance hframes
  refine ⟨⟨?_, ?_, ?_⟩, fun ha hd => ?_, fun hw hs => ?_⟩
  · rw [hyaw, hcontrols.yaw_update]
  · rw [hpitch, pitch_update_of_not_drags (hcontrols.not_drags c)]
  · rw [hdist, hcontrols.distance_update]
  · rw [hyaw, ha, hd, push_self, zero_mul, add_zero]
  · rw [hdist, hw, hs, push_self, zero_mul, zero_mul, add_zero, clamp_of_mem hdistance]

/-- Two keys are held for three frames while the mouse is about: the camera turns all the time, but
it is at its least distance before the last frame. -/
theorem run_updates_eq_update_forward :
    let keys : KeyName → Bool := [.d, .w].contains
    let frames : List (ℝ × Controls ℝ) :=
      [(0.5, ⟨[.d, .w], [], none, none⟩), (2.0, ⟨[.w, .d], [.right], none, some (3.0, 4.0)⟩),
        (0.25, ⟨[.d, .w], [], none, some (5.0, 1.0)⟩)]
    (minDistance ≤ (initial : Camera ℝ).distance ∧ (initial : Camera ℝ).distance ≤ maxDistance) ∧
      (∀ f ∈ frames, 0 ≤ f.1 ∧ OnlyKeys keys f.2) ∧
      (initial.run (updates frames)).yaw = initial.yaw + 2.75 ∧
      (initial.run (updates frames)).distance = minDistance := by
  intro keys frames
  have hdistance :
      minDistance ≤ (initial : Camera ℝ).distance ∧
        (initial : Camera ℝ).distance ≤ maxDistance := by
    norm_num [minDistance, maxDistance, initial]
  have hkeys (buttons : List MouseButton) (hleft : buttons.contains .left = false)
      (mouse : Option (ℝ × ℝ)) (order : List KeyName)
      (horder : order = [.d, .w] ∨ order = [.w, .d]) :
      OnlyKeys keys (⟨order, buttons, none, mouse⟩ : Controls ℝ) := by
    refine ⟨fun key => ?_, rfl, hleft⟩
    rcases horder with rfl | rfl <;> cases key <;> rfl
  have hframes : ∀ f ∈ frames, 0 ≤ f.1 ∧ OnlyKeys keys f.2 := by
    simp only [frames, List.forall_mem_cons]
    exact ⟨⟨by norm_num, hkeys _ rfl _ _ (Or.inl rfl)⟩, ⟨by norm_num, hkeys _ rfl _ _ (Or.inr rfl)⟩,
      ⟨by norm_num, hkeys _ rfl _ _ (Or.inl rfl)⟩, List.forall_mem_nil _⟩
  have hwhole : OnlyKeys keys (⟨[.d, .w], [], none, none⟩ : Controls ℝ) :=
    hkeys _ rfl _ _ (Or.inl rfl)
  obtain ⟨⟨hyaw, -, hdist⟩, -, -⟩ := run_updates_eq_update hdistance hframes hwhole
  have hturn : push (keys .d) (keys .a) = 1 := push_forward
  have hmove : push (keys .s) (keys .w) = -1 := push_back
  have htotal : (frames.map Prod.fst).sum = 2.75 := by norm_num [frames]
  refine ⟨hdistance, hframes, ?_, ?_⟩
  · rw [hyaw, hwhole.yaw_update, hturn, htotal, one_mul]
  · rw [hdist, hwhole.distance_update, hmove, htotal, clamp_real minDistance_le]
    norm_num [minDistance, maxDistance, initial]

end SphereCloud.Camera
