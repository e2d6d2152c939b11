import SphereCloud.Proofs.Exact.Reals
import SphereCloud.Proofs.View.Motion

/-!
Where a camera that is not rounded looks: what is dragged or rotated wraps around at a full turn,
what keys turn does not.
-/

namespace SphereCloud

/-- Wrapping keeps what lies behind the last whole period. -/
theorem wrap_eq_fract {period : ℝ} (h : 0 < period) (x : ℝ) :
    Scalar.wrap x period = period * Int.fract (x / period) := by
  have hx : x = period * (x / period) := by field_simp
  have hlt (z : ℝ) : Scalar.lt z 0.0 = decide (z < 0) := by
    rw [zero_literal]
    rfl
  obtain ⟨q, hq⟩ : ∃ q, x / period = q := ⟨_, rfl⟩
  simp only [Scalar.wrap, hlt, decide_eq_true_eq, Scalar.rem, Scalar.abs, abs_of_pos h]
  rw [hq]
  rw [hq] at hx
  rcases le_or_gt 0 q with hpos | hneg
  · have hrem : x - period * ⌊q⌋ = period * Int.fract q := by rw [hx, Int.fract, mul_sub]
    rw [if_pos hpos, hrem, if_neg (not_lt.mpr (mul_nonneg h.le (Int.fract_nonneg q)))]
  · -- The quotient was cut upward, by one too much unless it is whole.
    rw [if_neg hneg.not_ge]
    rcases eq_or_ne (Int.fract q) 0 with hwhole | hpart
    · obtain ⟨n, rfl⟩ := Int.fract_eq_zero_iff.mp hwhole
      rw [Int.ceil_intCast, ← hx, sub_self, if_neg (lt_irrefl _), hwhole, mul_zero]
    · have hrem : x - period * ⌈q⌉ = period * Int.fract q - period := by
        rw [hx, Int.ceil_eq_add_one_sub_fract hpart]
        ring
      have hlt_period := mul_lt_mul_of_pos_left (Int.fract_lt_one q) h
      rw [hrem, if_pos (by linarith), sub_add_cancel]

theorem wrap_mem_Ico {period : ℝ} (h : 0 < period) (x : ℝ) :
    Scalar.wrap x period ∈ Set.Ico 0 period := by
  rw [wrap_eq_fract h]
  refine ⟨mul_nonneg h.le (Int.fract_nonneg _), ?_⟩
  calc period * Int.fract (x / period) < period * 1 := by
        gcongr
        exact Int.fract_lt_one _
    _ = period := mul_one _

namespace Camera

section Heading

variable {α : Type} [Scalar α]

def drags (c : Camera α) (controls : Controls α) : Bool :=
  controls.presses .left && controls.mouse.isSome && c.lastMouse.isSome

theorem drag_eq_rotate {c : Camera α} {controls : Controls α} {x y x₀ y₀ : α}
    (hleft : controls.presses .left = true) (hnow : controls.mouse = some (x, y))
    (hlast : c.lastMouse = some (x₀, y₀)) :
    c.drag controls = c.rotate (-((x - x₀) * 0.01)) ((y - y₀) * 0.01) := by
  rw [drag, if_pos hleft, hnow, hlast]

theorem drag_of_drags {c : Camera α} {controls : Controls α} (h : c.drags controls = true) :
    ∃ yaw pitch, c.drag controls = c.rotate yaw pitch := by
  simp only [drags, Bool.and_eq_true, Option.isSome_iff_exists] at h
  obtain ⟨⟨hleft, ⟨x, y⟩, hnow⟩, ⟨x₀, y₀⟩, hlast⟩ := h
  exact ⟨_, _, drag_eq_rotate hleft hnow hlast⟩

theorem drag_of_not_drags {c : Camera α} {controls : Controls α} (h : c.drags controls = false) :
    c.drag controls = c := by
  rw [drag]
  split
  case isFalse => rfl
  case isTrue hleft =>
    split
    case h_1 hnow hlast => simp [drags, hleft, hnow, hlast] at h
    case h_2 => rfl

/-- The camera as keys and wheel move it, before the mouse drags it. -/
def moved (c : Camera α) (dt : α) (controls : Controls α) : Camera α :=
  ({ c with yaw := c.yaw + turning controls * dt }).zoom (receding controls * 2.0 * dt)

theorem update_eq (c : Camera α) (dt : α) (controls : Controls α) :
    c.update dt controls =
      { (c.moved dt controls).drag controls with lastMouse := controls.mouse } := rfl

theorem update_of_not_drags {c : Camera α} {controls : Controls α} (h : c.drags controls = false)
    (dt : α) : c.update dt controls = { c.moved dt controls with lastMouse := controls.mouse } := by
  have hmoved : (c.moved dt controls).drags controls = false := h
  rw [update_eq, drag_of_not_drags hmoved]

theorem yaw_update_of_drags {c : Camera α} {controls : Controls α} (h : c.drags controls = true)
    (dt : α) : ∃ yaw, (c.update dt controls).yaw = Scalar.wrap yaw Scalar.tau := by
  have hmoved : (c.moved dt controls).drags controls = true := h
  obtain ⟨yaw, pitch, hdrag⟩ := drag_of_drags hmoved
  refine ⟨(c.moved dt controls).yaw + yaw, ?_⟩
  rw [update_eq, hdrag]
  rfl

theorem yaw_update_of_not_drags {c : Camera α} {controls : Controls α}
    (h : c.drags controls = false) (dt : α) :
    (c.update dt controls).yaw = c.yaw + turning controls * dt := by
  rw [update_of_not_drags h]
  rfl

theorem pitch_update_of_not_drags {c : Camera α} {controls : Controls α}
    (h : c.drags controls = false) (dt : α) : (c.update dt controls).pitch = c.pitch := by
  rw [update_of_not_drags h]
  rfl

theorem turning_eq (controls : Controls α) :
    turning controls =
      (0.0 - if controls.holds .a then 1.0 else 0.0) + if controls.holds .d then 1.0 else 0.0 := rfl

/-- Whether an action ends with a yaw that was wrapped. -/
def wraps (c : Camera α) : Action α → Bool
  | .rotate _ _ => true
  | .zoom _ => false
  | .update _ controls => c.drags controls

def Action.keyTurn : Action α → α
  | .rotate _ _ => 0.0
  | .zoom _ => 0.0
  | .update dt controls => turning controls * dt

/-- The yaw that was wrapped last, and what keys have turned since. -/
def heading (c : Camera α) (base drift : α) : List (Action α) → α × α
  | [] => (base, drift)
  | a :: actions =>
    if c.wraps a then heading (c.act a) (c.act a).yaw 0.0 actions
    else heading (c.act a) base (drift + a.keyTurn) actions

end Heading

theorem maxPitch_real : (maxPitch : ℝ) = 0.495 * Real.pi := by
  rw [maxPitch, tau_real]
  ring

theorem maxPitch_pos : (0 : ℝ) < maxPitch := by
  rw [maxPitch_real]
  exact mul_pos (by norm_num) Real.pi_pos

theorem minDistance_le : (minDistance : ℝ) ≤ maxDistance := by
  norm_num [minDistance, maxDistance]

variable {c : Camera ℝ} {a : Action ℝ}

theorem yaw_of_wraps (h : c.wraps a = true) : (c.act a).yaw ∈ Set.Ico 0 Scalar.tau := by
  cases a with
  | rotate yaw pitch => exact wrap_mem_Ico tau_pos _
  | zoom => cases h
  | update dt controls =>
    obtain ⟨yaw, hyaw⟩ := yaw_update_of_drags h dt
    rw [act, hyaw]
    exact wrap_mem_Ico tau_pos _

theorem yaw_of_not_wraps (h : c.wraps a = false) : (c.act a).yaw = c.yaw + a.keyTurn := by
  cases a with
  | rotate => cases h
  | zoom =>
    rw [Action.keyTurn, zero_literal, add_zero]
    rfl
  | update dt controls =>
    exact yaw_update_of_not_drags h dt

theorem run_heading {base drift : ℝ} (hyaw : c.yaw = base + drift)
    (hbase : base ∈ Set.Ico 0 Scalar.tau) (actions : List (Action ℝ)) :
    (c.run actions).yaw = (c.heading base drift actions).1 + (c.heading base drift actions).2 ∧
      (c.heading base drift actions).1 ∈ Set.Ico 0 Scalar.tau := by
  induction actions generalizing c base drift with
  | nil => exact ⟨hyaw, hbase⟩
  | cons a actions ih =>
    rw [heading]
    split
    case isTrue h =>
      refine ih ?_ (yaw_of_wraps h)
      rw [zero_literal, add_zero]
    case isFalse h =>
      refine ih ?_ hbase
      rw [yaw_of_not_wraps (by simpa using h), hyaw, add_assoc]

/-- Without keys there is no drift. -/
theorem heading_of_keyTurn_eq_zero {base : ℝ} {actions : List (Action ℝ)}
    (h : ∀ a ∈ actions, a.keyTurn = 0) : (c.heading base 0 actions).2 = 0 := by
  induction actions generalizing c base with
  | nil => rfl
  | cons a actions ih =>
    obtain ⟨ha, hactions⟩ := List.forall_mem_cons.mp h
    rw [heading, ha, zero_literal, add_zero]
    split <;> exact ih hactions

theorem initial_yaw_mem : (initial : Camera ℝ).yaw ∈ Set.Ico 0 Scalar.tau := by
  have hpos := tau_pos
  change (0.125 : ℝ) * Scalar.tau ∈ _
  constructor <;> norm_num <;> linarith

theorem turning_left : turning (⟨[.a], [], none, none⟩ : Controls ℝ) = -1 := by
  rw [turning_eq, if_pos (by decide), if_neg (by decide)]
  norm_num

theorem turning_right : turning (⟨[.d], [], none, none⟩ : Controls ℝ) = 1 := by
  rw [turning_eq, if_neg (by decide), if_pos (by decide)]
  norm_num

/-- With a key held for long enough, a frame turns the camera anywhere. -/
theorem exists_key_yaw (c : Camera ℝ) (yaw : ℝ) :
    ∃ key dt, 0 ≤ dt ∧ (c.update dt ⟨[key], [], none, none⟩).yaw = yaw := by
  rcases le_total c.yaw yaw with hle | hle
  · refine ⟨.d, yaw - c.yaw, sub_nonneg.mpr hle, ?_⟩
    rw [yaw_update_of_not_drags rfl, turning_right, one_mul, add_sub_cancel]
  · refine ⟨.a, c.yaw - yaw, sub_nonneg.mpr hle, ?_⟩
    rw [yaw_update_of_not_drags rfl, turning_left]
    ring

/-- The yaw is what was wrapped last and what keys have turned since. It stays within a full turn
where no key turns the camera, and with keys there is no yaw that a frame cannot reach. -/
theorem yaw_run (actions : List (Action ℝ)) :
    (∃ base drift, initial.heading initial.yaw 0 actions = (base, drift) ∧
      (initial.run actions).yaw = base + drift ∧ 0 ≤ base ∧ base < Scalar.tau) ∧
    ((∀ a ∈ actions, a.keyTurn = 0) →
      0 ≤ (initial.run actions).yaw ∧ (initial.run actions).yaw < Scalar.tau) ∧
    (∀ yaw, ∃ key dt, 0 ≤ dt ∧
      ((initial.run actions).update dt ⟨[key], [], none, none⟩).yaw = yaw) := by
  obtain ⟨hyaw, hbase⟩ := run_heading (c := initial) (add_zero _).symm initial_yaw_mem actions
  refine ⟨⟨_, _, rfl, hyaw, hbase⟩, fun h => ?_, exists_key_yaw _⟩
  rw [hyaw, heading_of_keyTurn_eq_zero h, add_zero]
  exact hbase

/-- A key that is held for a hundred seconds turns the camera around and around. -/
theorem yaw_run_right :
    ¬ (0 ≤ (initial.run [.update (100 : ℝ) ⟨[.d], [], none, none⟩]).yaw ∧
      (initial.run [.update (100 : ℝ) ⟨[.d], [], none, none⟩]).yaw < Scalar.tau) := by
  have hyaw : (initial.run [.update (100 : ℝ) ⟨[.d], [], none, none⟩]).yaw = initial.yaw + 100 := by
    change (initial.update (100 : ℝ) ⟨[.d], [], none, none⟩).yaw = _
    rw [yaw_update_of_not_drags rfl, turning_right, one_mul]
  rw [hyaw, tau_real]
  intro h
  linarith [Real.pi_le_four, initial_yaw_mem.1, h.2]

end Camera

end SphereCloud
