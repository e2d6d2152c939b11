import SphereCloud.Proofs.View.Timing

/-!
What the mouse makes of a camera while it drags: of a stroke only its ends count, and without a
stroke the mouse turns nothing.
-/

namespace SphereCloud

/-- Wrapping takes away whole periods. -/
theorem exists_wrap_eq {period : ℝ} (h : 0 < period) (x : ℝ) :
    ∃ n : ℤ, Scalar.wrap x period = x + n * period := by
  refine ⟨-⌊x / period⌋, ?_⟩
  rw [wrap_eq_fract h, Int.fract, mul_sub, mul_div_cancel₀ _ h.ne']
  push_cast
  ring

namespace Camera

section Places

variable {α : Type}

/-- Where the mouse was in the frame before, if there was one and it was known. -/
def placeBefore (c : Camera α) (frames : List (α × Controls α)) : ℕ → Option (α × α)
  | 0 => c.lastMouse
  | n + 1 => frames[n]?.bind fun f => f.2.mouse

/-- Frames from `j` to `k` with the mouse at known places, in all of which but the first the left
button is held. -/
structure Stroke (frames : List (α × Controls α)) (place : ℕ → α × α) (j k : ℕ) : Prop where
  le : j ≤ k
  known : ∀ i ∈ Set.Icc j k, ∃ f, frames[i]? = some f ∧ f.2.mouse = some (place i)
  pressed : ∀ i ∈ Set.Ioc j k, ∃ f, frames[i]? = some f ∧ f.2.presses .left = true

variable {frames : List (α × Controls α)} {place : ℕ → α × α} {j k : ℕ}

theorem Stroke.shorten (h : Stroke frames place j (k + 1)) (hle : j ≤ k) :
    Stroke frames place j k :=
  ⟨hle, fun i hi => h.known i ⟨hi.1, hi.2.trans k.le_succ⟩,
    fun i hi => h.pressed i ⟨hi.1, hi.2.trans k.le_succ⟩⟩

/-- The last frame of a stroke. -/
theorem Stroke.exists_last (h : Stroke frames place j (k + 1)) (hle : j ≤ k) :
    ∃ f, frames[k + 1]? = some f ∧ f.2.mouse = some (place (k + 1)) ∧ f.2.presses .left = true := by
  obtain ⟨f, hf, hmouse⟩ := h.known (k + 1) ⟨h.le, le_rfl⟩
  obtain ⟨g, hg, hleft⟩ := h.pressed (k + 1) ⟨Nat.lt_succ_of_le hle, le_rfl⟩
  obtain rfl : f = g := Option.some.inj (hf.symm.trans hg)
  exact ⟨f, hf, hmouse, hleft⟩

end Places

section Frames

variable {α : Type} [Scalar α] {c : Camera α} {frames : List (α × Controls α)} {f : α × Controls α}
  {n : ℕ}

def afterFirst (c : Camera α) (frames : List (α × Controls α)) (n : ℕ) : Camera α :=
  c.run (updates (frames.take n))

theorem afterFirst_succ (hf : frames[n]? = some f) :
    c.afterFirst frames (n + 1) = (c.afterFirst frames n).update f.1 f.2 := by
  rw [afterFirst, afterFirst, List.take_add_one, hf, updates, List.map_append, run,
    List.foldl_append]
  rfl

/-- The place of the mouse is kept in every frame, whatever is held. -/
theorem lastMouse_afterFirst (hn : n ≤ frames.length) :
    (c.afterFirst frames n).lastMouse = c.placeBefore frames n := by
  cases n with
  | zero => rfl
  | succ n =>
    have hf : frames[n]? = some frames[n] := List.getElem?_eq_getElem hn
    rw [afterFirst_succ hf, placeBefore, hf]
    rfl

end Frames

variable {c : Camera ℝ} {controls : Controls ℝ} {frames : List (ℝ × Controls ℝ)}

theorem turning_eq_zero (ha : controls.holds .a = false) (hd : controls.holds .d = false) :
    turning controls = 0 := by
  rw [turning_eq, ha, hd]
  norm_num

/-- Dragging turns the camera against the way of the mouse. -/
theorem update_of_drag {x y x₀ y₀ : ℝ} (hturning : turning controls = 0)
    (hleft : controls.presses .left = true) (hnow : controls.mouse = some (x, y))
    (hlast : c.lastMouse = some (x₀, y₀)) (dt : ℝ) :
    (c.update dt controls).yaw = Scalar.wrap (c.yaw - 0.01 * (x - x₀)) Scalar.tau ∧
      (c.update dt controls).pitch =
        Scalar.clamp (c.pitch + 0.01 * (y - y₀)) (-maxPitch) maxPitch := by
  have hmoved : (c.moved dt controls).lastMouse = some (x₀, y₀) := hlast
  rw [update_eq, drag_eq_rotate hleft hnow hmoved]
  constructor
  · change Scalar.wrap (c.yaw + turning controls * dt + -((x - x₀) * 0.01)) Scalar.tau = _
    rw [hturning, zero_mul, add_zero, ← sub_eq_add_neg, mul_comm]
  · change Scalar.clamp (c.pitch + (y - y₀) * 0.01) (-maxPitch) maxPitch = _
    rw [mul_comm]

theorem pitch_update_mem (h : c.pitch ∈ Set.Icc (-maxPitch) maxPitch) (dt : ℝ)
    (controls : Controls ℝ) :
    (c.update dt controls).pitch ∈ Set.Icc (-maxPitch) maxPitch := by
  cases hdrags : c.drags controls with
  | true =>
    have hmoved : (c.moved dt controls).drags controls = true := hdrags
    obtain ⟨yaw, pitch, hdrag⟩ := drag_of_drags hmoved
    rw [update_eq, hdrag]
    exact clamp_mem_Icc (h.1.trans h.2) _
  | false =>
    rw [pitch_update_of_not_drags hdrags]
    exact h

theorem pitch_run_updates_mem (h : c.pitch ∈ Set.Icc (-maxPitch) maxPitch)
    (frames : List (ℝ × Controls ℝ)) :
    (c.run (updates frames)).pitch ∈ Set.Icc (-maxPitch) maxPitch := by
  induction frames generalizing c with
  | nil => exact h
  | cons f frames ih => exact ih (pitch_update_mem h f.1 f.2)

theorem pitch_afterFirst_mem (h : c.pitch ∈ Set.Icc (-maxPitch) maxPitch)
    (frames : List (ℝ × Controls ℝ)) (n : ℕ) :
    (c.afterFirst frames n).pitch ∈ Set.Icc (-maxPitch) maxPitch :=
  pitch_run_updates_mem h (frames.take n)

def WithoutTurnKeys (frames : List (ℝ × Controls ℝ)) : Prop :=
  ∀ f ∈ frames, f.2.holds .a = false ∧ f.2.holds .d = false

theorem WithoutTurnKeys.turning_eq_zero (h : WithoutTurnKeys frames) {n : ℕ} {f : ℝ × Controls ℝ}
    (hf : frames[n]? = some f) : turning f.2 = 0 :=
  have hkeys := h f (List.mem_of_getElem? hf)
  Camera.turning_eq_zero hkeys.1 hkeys.2

section Telescope

variable {place : ℕ → ℝ × ℝ} {j k : ℕ}

/-- What the next frame of a stroke does. -/
theorem Stroke.update_last (hkeys : WithoutTurnKeys frames) (h : Stroke frames place j (k + 1))
    (hle : j ≤ k) :
    (c.afterFirst frames (k + 2)).yaw = Scalar.wrap
        ((c.afterFirst frames (k + 1)).yaw - 0.01 * ((place (k + 1)).1 - (place k).1)) Scalar.tau ∧
      (c.afterFirst frames (k + 2)).pitch = Scalar.clamp
        ((c.afterFirst frames (k + 1)).pitch + 0.01 * ((place (k + 1)).2 - (place k).2))
        (-maxPitch) maxPitch := by
  obtain ⟨f, hf, hnow, hleft⟩ := h.exists_last hle
  obtain ⟨g, hg, hbefore⟩ := h.known k ⟨hle, k.le_succ⟩
  have hlast : (c.afterFirst frames (k + 1)).lastMouse = some (place k) := by
    rw [afterFirst_succ hg]
    exact hbefore
  rw [afterFirst_succ hf]
  exact update_of_drag (hkeys.turning_eq_zero hf) hleft hnow hlast f.1

/-- The yaw forgets all places of a stroke but the first and the last. -/
theorem Stroke.yaw_afterFirst (hkeys : WithoutTurnKeys frames) (h : Stroke frames place j k) :
    ∃ n : ℤ, (c.afterFirst frames (k + 1)).yaw =
      (c.afterFirst frames (j + 1)).yaw - 0.01 * ((place k).1 - (place j).1) + n * Scalar.tau := by
  obtain ⟨le, -, -⟩ := id h
  induction k, le using Nat.le_induction with
  | base =>
    refine ⟨0, ?_⟩
    push_cast
    ring
  | succ k hle ih =>
    obtain ⟨n, hn⟩ := ih (h.shorten hle)
    obtain ⟨m, hm⟩ := exists_wrap_eq tau_pos
      ((c.afterFirst frames (k + 1)).yaw - 0.01 * ((place (k + 1)).1 - (place k).1))
    refine ⟨n + m, ?_⟩
    rw [(h.update_last hkeys hle).1, hm, hn]
    push_cast
    ring

/-- On a stroke that goes one way the pitch is cut off once at most. -/
theorem Stroke.pitch_afterFirst (hpitch : c.pitch ∈ Set.Icc (-maxPitch) maxPitch)
    (hkeys : WithoutTurnKeys frames) (h : Stroke frames place j k)
    (hway : MonotoneOn (fun i => (place i).2) (Set.Icc j k) ∨
      AntitoneOn (fun i => (place i).2) (Set.Icc j k)) :
    (c.afterFirst frames (k + 1)).pitch = Scalar.clamp
      ((c.afterFirst frames (j + 1)).pitch + 0.01 * ((place k).2 - (place j).2))
      (-maxPitch) maxPitch := by
  have hstart := pitch_afterFirst_mem hpitch frames (j + 1)
  obtain ⟨le, -, -⟩ := id h
  induction k, le using Nat.le_induction with
  | base => rw [sub_self, mul_zero, add_zero, clamp_of_mem hstart]
  | succ k hle ih =>
    have hsub : Set.Icc j k ⊆ Set.Icc j (k + 1) := Set.Icc_subset_Icc_right k.le_succ
    have hj : j ∈ Set.Icc j (k + 1) := ⟨le_rfl, h.le⟩
    have hk : k ∈ Set.Icc j (k + 1) := ⟨hle, k.le_succ⟩
    have hlast : k + 1 ∈ Set.Icc j (k + 1) := ⟨h.le, le_rfl⟩
    rw [(h.update_last hkeys hle).2, ih (h.shorten hle) (hway.imp (·.mono hsub) (·.mono hsub)),
      clamp_clamp_add hstart ?_, ← mul_add, sub_add_sub_cancel']
    rcases hway with hup | hdown
    · have h₁ := hup hj hk hle
      have h₂ := hup hk hlast k.le_succ
      refine Or.inl ⟨?_, ?_⟩ <;> linarith
    · have h₁ := hdown hj hk hle
      have h₂ := hdown hk hlast k.le_succ
      refine Or.inr ⟨?_, ?_⟩ <;> linarith

/-- A frame without a stroke. -/
theorem afterFirst_of_no_stroke (hkeys : WithoutTurnKeys frames) {n : ℕ} {f : ℝ × Controls ℝ}
    (hf : frames[n]? = some f)
    (h : f.2.presses .left = false ∨ f.2.mouse = none ∨ c.placeBefore frames n = none) :
    (c.afterFirst frames (n + 1)).yaw = (c.afterFirst frames n).yaw ∧
      (c.afterFirst frames (n + 1)).pitch = (c.afterFirst frames n).pitch := by
  have hn : n ≤ frames.length := (List.getElem?_eq_some_iff.mp hf).1.le
  have hdrags : (c.afterFirst frames n).drags f.2 = false := by
    rw [drags, lastMouse_afterFirst hn]
    rcases h with h | h | h <;> simp [h]
  rw [afterFirst_succ hf, yaw_update_of_not_drags hdrags, pitch_update_of_not_drags hdrags,
    hkeys.turning_eq_zero hf, zero_mul, add_zero]
  exact ⟨rfl, rfl⟩

/-- Away from the keys that turn it, a camera turns by strokes of the mouse only. A stroke turns it
by the way between its ends, up to full turns; it tilts it by the way between its ends if it only
goes up or only goes down, but not beyond the limits. The frame in front of a stroke counts for
where the mouse was. -/
theorem strokes_telescope (hkeys : WithoutTurnKeys frames) :
    (∀ place j k, Stroke frames place j k →
      (∃ n : ℤ, (c.afterFirst frames (k + 1)).yaw =
        (c.afterFirst frames (j + 1)).yaw - 0.01 * ((place k).1 - (place j).1) + n * Scalar.tau) ∧
      (|c.pitch| ≤ maxPitch →
        MonotoneOn (fun i => (place i).2) (Set.Icc j k) ∨
          AntitoneOn (fun i => (place i).2) (Set.Icc j k) →
        (c.afterFirst frames (k + 1)).pitch = Scalar.clamp
          ((c.afterFirst frames (j + 1)).pitch + 0.01 * ((place k).2 - (place j).2))
          (-maxPitch) maxPitch)) ∧
    ∀ n f, frames[n]? = some f →
      f.2.presses .left = false ∨ f.2.mouse = none ∨ c.placeBefore frames n = none →
      (c.afterFirst frames (n + 1)).yaw = (c.afterFirst frames n).yaw ∧
        (c.afterFirst frames (n + 1)).pitch = (c.afterFirst frames n).pitch := by
  refine ⟨fun place j k hstroke => ⟨hstroke.yaw_afterFirst hkeys, fun hpitch hway => ?_⟩,
    fun n f hf h => ?_⟩
  · exact hstroke.pitch_afterFirst (abs_le.mp hpitch) hkeys hway
  · exact afterFirst_of_no_stroke hkeys hf h

theorem initial_pitch_le : |(initial : Camera ℝ).pitch| ≤ maxPitch := by
  have hpi := Real.pi_gt_three
  rw [maxPitch_real, initial, abs_of_nonneg (by norm_num)]
  norm_num
  linarith

/-- The mouse is dragged down too far and then leaves the window with the button held. -/
theorem strokes_telescope_leaving :
    let frames : List (ℝ × Controls ℝ) :=
      [(0.1, ⟨[], [], none, some (0, 0)⟩), (0.1, ⟨[.w], [.left], none, some (100, 400)⟩),
        (0.1, ⟨[], [.left], none, some (400, 800)⟩), (0.1, ⟨[], [.left], none, none⟩)]
    |(initial : Camera ℝ).pitch| ≤ maxPitch ∧ WithoutTurnKeys frames ∧
      (∃ n : ℤ, (initial.afterFirst frames 3).yaw =
        (initial.afterFirst frames 1).yaw - 4 + n * Scalar.tau) ∧
      (initial.afterFirst frames 3).pitch = maxPitch ∧
      (initial.afterFirst frames 4).pitch = maxPitch := by
  intro frames
  have hkeys : WithoutTurnKeys frames := by
    simp only [WithoutTurnKeys, frames, List.forall_mem_cons]
    exact ⟨⟨rfl, rfl⟩, ⟨rfl, rfl⟩, ⟨rfl, rfl⟩, ⟨rfl, rfl⟩, List.forall_mem_nil _⟩
  obtain ⟨place, hplace⟩ : ∃ place : ℕ → ℝ × ℝ, ∀ i, place i = (100 * (i : ℝ) ^ 2, 400 * (i : ℝ)) :=
    ⟨_, fun i => rfl⟩
  have hstroke : Stroke frames place 0 2 := by
    refine ⟨Nat.zero_le 2, fun i hi => ?_, fun i hi => ?_⟩
    · obtain rfl | rfl | rfl : i = 0 ∨ i = 1 ∨ i = 2 := by have := hi.2; omega
      all_goals exact ⟨_, rfl, by rw [hplace]; norm_num⟩
    · obtain rfl | rfl : i = 1 ∨ i = 2 := by have := hi.1; have := hi.2; omega
      all_goals exact ⟨_, rfl, rfl⟩
  have hdown : MonotoneOn (fun i => (place i).2) (Set.Icc 0 2) := by
    intro i _ k _ hik
    simp only [hplace]
    gcongr
  obtain ⟨htelescope, hidle⟩ := strokes_telescope (c := initial) hkeys
  obtain ⟨⟨n, hyaw⟩, hpitch⟩ := htelescope place 0 2 hstroke
  obtain ⟨-, hleft⟩ := hidle 3 _ rfl (Or.inr (Or.inl rfl))
  have hfirst : (initial.afterFirst frames 1).pitch = 0.2 := (hidle 0 _ rfl (Or.inl rfl)).2
  have hlimit : (initial.afterFirst frames 3).pitch = maxPitch := by
    have hlimits : -(maxPitch : ℝ) ≤ maxPitch := neg_le_self maxPitch_pos.le
    have hbeyond : (maxPitch : ℝ) ≤ 0.2 + 0.01 * ((place 2).2 - (place 0).2) := by
      have hpi := Real.pi_le_four
      rw [maxPitch_real, hplace, hplace]
      norm_num
      linarith
    rw [hpitch initial_pitch_le (Or.inl hdown), hfirst, clamp_real hlimits, min_eq_left hbeyond,
      max_eq_right hlimits]
  refine ⟨initial_pitch_le, hkeys, ⟨n, ?_⟩, hlimit, hleft.trans hlimit⟩
  rw [hyaw, hplace, hplace]
  norm_num

end Telescope

end Camera

end SphereCloud
