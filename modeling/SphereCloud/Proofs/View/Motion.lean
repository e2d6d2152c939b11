import SphereCloud.Proofs.Binary.BinaryScalar
import SphereCloud.View.Camera

/-!
What can happen to a camera, and that no number of it runs out of its bounds.
-/

namespace SphereCloud

namespace Camera

inductive Action (α : Type) where
  | rotate (yaw pitch : α)
  | zoom (distance : α)
  | update (dt : α) (controls : Controls α)

section Run

variable {α : Type} [Scalar α]

def act (c : Camera α) : Action α → Camera α
  | .rotate yaw pitch => c.rotate yaw pitch
  | .zoom distance => c.zoom distance
  | .update dt controls => c.update dt controls

def run (c : Camera α) (actions : List (Action α)) : Camera α :=
  actions.foldl act c

def IsFinitePlace (place : Option (α × α)) : Prop :=
  ∀ p ∈ place, Scalar.isFinite p.1 = true ∧ Scalar.isFinite p.2 = true

def Action.IsFinite : Action α → Prop
  | .rotate yaw pitch => Scalar.isFinite yaw = true ∧ Scalar.isFinite pitch = true
  | .zoom distance => Scalar.isFinite distance = true
  | .update dt controls => Scalar.isFinite dt = true ∧ IsFinitePlace controls.scroll ∧
      IsFinitePlace controls.mouse

variable {controls : Controls α}

/-- Without the wheel the camera moves as the keys say. -/
theorem receding_of_scroll_none (h : controls.scroll = none) :
    receding controls =
      (0.0 - if controls.holds .w then 1.0 else 0.0) + if controls.holds .s then 1.0 else 0.0 := by
  rw [receding, h]
  rfl

theorem receding_of_scroll_some {x y : α} (h : controls.scroll = some (x, y)) :
    receding controls = receding { controls with scroll := none } - y * 0.1 := by
  rw [receding, h]
  rfl

end Run

section Bounds

open BinaryScalar (IsNumber real)

theorem pitch_limits :
    Scalar.isFinite (-maxPitch : Float32) = true ∧ Scalar.isFinite (maxPitch : Float32) = true ∧
      Scalar.le (-maxPitch : Float32) maxPitch = true ∧
      Scalar.le (-maxPitch) (initial.pitch : Float32) = true ∧
      Scalar.le (initial.pitch : Float32) maxPitch = true :=
  ⟨rfl, rfl, rfl, rfl, rfl⟩

theorem distance_limits :
    Scalar.isFinite (minDistance : Float32) = true ∧
      Scalar.isFinite (maxDistance : Float32) = true ∧
      Scalar.le (minDistance : Float32) maxDistance = true ∧
      Scalar.le minDistance (initial.distance : Float32) = true ∧
      Scalar.le (initial.distance : Float32) maxDistance = true :=
  ⟨rfl, rfl, rfl, rfl, rfl⟩

/-- What every action on finite input preserves. -/
structure Good (c : Camera Float32) : Prop where
  pitch_ge : Scalar.le (-maxPitch) c.pitch = true
  pitch_le : Scalar.le c.pitch maxPitch = true
  distance_ge : Scalar.le minDistance c.distance = true
  distance_le : Scalar.le c.distance maxDistance = true
  lastMouse : IsFinitePlace c.lastMouse

theorem initial_good : Good initial := by
  obtain ⟨-, -, -, hpitch_ge, hpitch_le⟩ := pitch_limits
  obtain ⟨-, -, -, hdistance_ge, hdistance_le⟩ := distance_limits
  exact ⟨hpitch_ge, hpitch_le, hdistance_ge, hdistance_le, nofun⟩

namespace Good

variable {c : Camera Float32}

theorem isFinite_pitch (h : Good c) : Scalar.isFinite c.pitch = true := by
  obtain ⟨hlo, hhi, -⟩ := pitch_limits
  exact BinaryScalar.isFinite_of_le_of_le hlo hhi h.pitch_ge h.pitch_le

theorem isFinite_distance (h : Good c) : Scalar.isFinite c.distance = true := by
  obtain ⟨hlo, hhi, -⟩ := distance_limits
  exact BinaryScalar.isFinite_of_le_of_le hlo hhi h.distance_ge h.distance_le

/-- A turn may be infinite, for the clamp. -/
theorem rotate (h : Good c) (yaw : Float32) {pitch : Float32} (hpitch : IsNumber pitch) :
    Good (c.rotate yaw pitch) := by
  obtain ⟨hlo, hhi, hlimits, -⟩ := pitch_limits
  obtain ⟨hge, hle⟩ := BinaryScalar.clamp_mem (-maxPitch) maxPitch
    (BinaryScalar.isNumber_add h.isFinite_pitch hpitch) hlo hhi hlimits
  exact ⟨hge, hle, h.distance_ge, h.distance_le, h.lastMouse⟩

theorem zoom (h : Good c) {distance : Float32} (hdistance : IsNumber distance) :
    Good (c.zoom distance) := by
  obtain ⟨hlo, hhi, hlimits, -⟩ := distance_limits
  obtain ⟨hge, hle⟩ := BinaryScalar.clamp_mem minDistance maxDistance
    (BinaryScalar.isNumber_add h.isFinite_distance hdistance) hlo hhi hlimits
  exact ⟨h.pitch_ge, h.pitch_le, hge, hle, h.lastMouse⟩

end Good

/-- The literals of the camera as they are stored. -/
theorem unpack_literals :
    BinaryScalar.unpack (0.01 : Float32) = .finite .positive 10737418 (-30) (by decide) ∧
    BinaryScalar.unpack (0.1 : Float32) = .finite .positive 13421773 (-27) (by decide) ∧
    BinaryScalar.unpack (2.0 : Float32) = .finite .positive (2 ^ 23) (-22) (by decide) :=
  ⟨rfl, rfl, rfl⟩

theorem real_hundredth :
    Scalar.isFinite (0.01 : Float32) = true ∧ real (0.01 : Float32) = 10737418 * 2 ^ (-30 : ℤ) := by
  obtain ⟨h, -⟩ := unpack_literals
  exact BinaryScalar.real_of_unpack h

theorem real_tenth :
    Scalar.isFinite (0.1 : Float32) = true ∧ real (0.1 : Float32) = 13421773 * 2 ^ (-27 : ℤ) := by
  obtain ⟨-, h, -⟩ := unpack_literals
  exact BinaryScalar.real_of_unpack h

theorem real_two : Scalar.isFinite (2.0 : Float32) = true ∧ real (2.0 : Float32) = 2 := by
  obtain ⟨-, -, h⟩ := unpack_literals
  obtain ⟨hfinite, hreal⟩ := BinaryScalar.real_of_unpack h
  exact ⟨hfinite, hreal.trans (by norm_num)⟩

/-- Powers of two up to the greatest. -/
theorem representable_high {n : ℕ} (hn : n < 24) :
    Binary.Representable (BinaryScalar.format Float32) (2 ^ n * 2 ^ (104 : ℤ)) :=
  Binary.representable_two_pow hn (by decide) (by decide)

/-- A difference may be infinite, but not its product with zero. -/
theorem isNumber_dragged {x y : Float32} (hx : Scalar.isFinite x = true)
    (hy : Scalar.isFinite y = true) : IsNumber ((x - y) * 0.01) := by
  refine BinaryScalar.isNumber_mul (BinaryScalar.rounds_sub hx hy).isNumber real_hundredth.1 ?_
  rw [real_hundredth.2]
  positivity

theorem drag_good {c : Camera Float32} (h : Good c) {controls : Controls Float32}
    (hmouse : IsFinitePlace controls.mouse) : Good (c.drag controls) := by
  rw [drag]
  split
  case isFalse => exact h
  case isTrue =>
    split
    case h_1 x y x₀ y₀ hnow hlast =>
      exact h.rotate _ (isNumber_dragged (hmouse _ hnow).2 (h.lastMouse _ hlast).2)
    case h_2 => exact h

theorem receding_keys_bounded {controls : Controls Float32} (h : controls.scroll = none) :
    Scalar.isFinite (receding controls) = true ∧ |real (receding controls)| ≤ 1 := by
  rw [receding_of_scroll_none h]
  obtain ⟨k, hk⟩ : ∃ k : Float32, ((0.0 - if controls.holds .w then 1.0 else 0.0) +
    if controls.holds .s then 1.0 else 0.0) = k := ⟨_, rfl⟩
  obtain ⟨hfinite, hge, hle⟩ :
      Scalar.isFinite k = true ∧ Scalar.le (-1.0) k = true ∧ Scalar.le k 1.0 = true := by
    rw [← hk]
    cases controls.holds .w <;> cases controls.holds .s <;> exact ⟨rfl, rfl, rfl⟩
  obtain ⟨hone, hreal⟩ := Single.real_one
  obtain ⟨hminus, hminus_real⟩ := BinaryScalar.real_neg hone
  rw [BinaryScalar.le_iff_real hminus hfinite, hminus_real, hreal] at hge
  rw [BinaryScalar.le_iff_real hfinite hone, hreal] at hle
  rw [hk]
  exact ⟨hfinite, abs_le.mpr ⟨hge, hle⟩⟩

/-- The wheel moves the camera by no more than an eighth of the greatest number. -/
theorem scrolled_bounded {y : Float32} (hy : Scalar.isFinite y = true) :
    Scalar.isFinite (y * 0.1) = true ∧ |real (y * 0.1)| ≤ 2 ^ 21 * 2 ^ (104 : ℤ) := by
  refine (BinaryScalar.rounds_mul hy real_tenth.1).bounded (representable_high (by decide)) ?_
  have hy' : |real y| < 2 ^ 24 * 2 ^ (104 : ℤ) := (BinaryScalar.representable_real y).abs_lt
  have htenth : |real (0.1 : Float32)| ≤ 1 / 8 := by
    rw [real_tenth.2]
    norm_num
  rw [abs_mul]
  calc |real y| * |real (0.1 : Float32)| ≤ 2 ^ 24 * 2 ^ (104 : ℤ) * (1 / 8) := by gcongr
    _ = 2 ^ 21 * 2 ^ (104 : ℤ) := by ring

theorem receding_bounded {controls : Controls Float32} (hscroll : IsFinitePlace controls.scroll) :
    Scalar.isFinite (receding controls) = true ∧
      |real (receding controls)| ≤ 2 ^ 22 * 2 ^ (104 : ℤ) := by
  cases h : controls.scroll with
  | none =>
    obtain ⟨hfinite, hle⟩ := receding_keys_bounded h
    exact ⟨hfinite, hle.trans (by norm_num)⟩
  | some place =>
    have hnone : ({ controls with scroll := none } : Controls Float32).scroll = none := rfl
    obtain ⟨hkeys, hkeys_le⟩ := receding_keys_bounded hnone
    obtain ⟨hwheel, hwheel_le⟩ := scrolled_bounded (hscroll place h).2
    rw [receding_of_scroll_some h]
    refine (BinaryScalar.rounds_sub hkeys hwheel).bounded (representable_high (by decide)) ?_
    calc _ ≤ 1 + 2 ^ 21 * 2 ^ (104 : ℤ) := (abs_sub _ _).trans (add_le_add hkeys_le hwheel_le)
      _ ≤ 2 ^ 22 * 2 ^ (104 : ℤ) := by norm_num

/-- Twice what the controls say is still finite, so that no frame time makes it no number. -/
theorem isNumber_moved {dt : Float32} {controls : Controls Float32}
    (hdt : Scalar.isFinite dt = true) (hscroll : IsFinitePlace controls.scroll) :
    IsNumber (receding controls * 2.0 * dt) := by
  obtain ⟨hfinite, hle⟩ := receding_bounded hscroll
  have hdouble : Scalar.isFinite (receding controls * 2.0) = true := by
    refine ((BinaryScalar.rounds_mul hfinite real_two.1).bounded (representable_high (n := 23)
      (by decide)) ?_).1
    rw [abs_mul, real_two.2, abs_two]
    calc |real (receding controls)| * 2 ≤ 2 ^ 22 * 2 ^ (104 : ℤ) * 2 := by gcongr
      _ = 2 ^ 23 * 2 ^ (104 : ℤ) := by ring
  exact (BinaryScalar.rounds_mul hdouble hdt).isNumber

theorem act_good {c : Camera Float32} (h : Good c) {a : Action Float32} (ha : a.IsFinite) :
    Good (c.act a) := by
  cases a with
  | rotate yaw pitch => exact h.rotate yaw (BinaryScalar.isNumber_of_isFinite ha.2)
  | zoom distance => exact h.zoom (BinaryScalar.isNumber_of_isFinite ha)
  | update dt controls =>
    obtain ⟨hdt, hscroll, hmouse⟩ := ha
    have hturned : Good { c with yaw := c.yaw + turning controls * dt } :=
      ⟨h.pitch_ge, h.pitch_le, h.distance_ge, h.distance_le, h.lastMouse⟩
    have hdragged := drag_good (hturned.zoom (isNumber_moved hdt hscroll)) hmouse
    exact ⟨hdragged.pitch_ge, hdragged.pitch_le, hdragged.distance_ge, hdragged.distance_le, hmouse⟩

theorem run_good {c : Camera Float32} (h : Good c) {actions : List (Action Float32)}
    (hactions : ∀ a ∈ actions, a.IsFinite) : Good (c.run actions) := by
  induction actions generalizing c with
  | nil => exact h
  | cons a actions ih =>
    obtain ⟨ha, hactions⟩ := List.forall_mem_cons.mp hactions
    exact ih (act_good h ha) hactions

theorem isNaN_eq_false {x : Float32} (hx : Scalar.isFinite x = true) : x.isNaN = false := by
  rw [Bool.eq_false_iff, ne_eq, Single.isNaN_iff, not_not]
  exact BinaryScalar.isNumber_of_isFinite hx

/-- Whatever finite input does to a camera, it stays short of the poles and within its distances. -/
theorem run_bounded {actions : List (Action Float32)} (h : ∀ a ∈ actions, a.IsFinite) :
    let c := initial.run actions
    (-maxPitch ≤ c.pitch ∧ c.pitch ≤ maxPitch ∧ c.pitch.isNaN = false) ∧
      (minDistance ≤ c.distance ∧ c.distance ≤ maxDistance ∧ c.distance.isNaN = false) := by
  intro c
  have hgood : Good c := run_good initial_good h
  exact ⟨⟨hgood.pitch_ge, hgood.pitch_le, isNaN_eq_false hgood.isFinite_pitch⟩,
    hgood.distance_ge, hgood.distance_le, isNaN_eq_false hgood.isFinite_distance⟩

/-- The mouse is dragged from one end of the numbers to the other: the distance that it went
overflows, and so does the turn. -/
theorem run_bounded_overflow :
    let far : Float32 := 3.0e38
    let actions : List (Action Float32) :=
      [.update 1.0 ⟨[], [.left], none, some (-far, -far)⟩,
        .update far ⟨[.d, .w], [.left], some (0.0, far), some (far, far)⟩,
        .rotate far (-far), .zoom far]
    let c := initial.run actions
    Scalar.isFinite ((far - -far) * 0.01) = false ∧
    (-maxPitch ≤ c.pitch ∧ c.pitch ≤ maxPitch ∧ c.pitch.isNaN = false) ∧
      (minDistance ≤ c.distance ∧ c.distance ≤ maxDistance ∧ c.distance.isNaN = false) := by
  intro far actions c
  have hfar : Scalar.isFinite far = true := by decide +kernel
  have hminus : Scalar.isFinite (-far) = true := by decide +kernel
  have hactions : ∀ a ∈ actions, a.IsFinite := by
    have hplace {x y : Float32} (hx : Scalar.isFinite x = true) (hy : Scalar.isFinite y = true) :
        IsFinitePlace (some (x, y)) := by
      rintro p ⟨⟩
      exact ⟨hx, hy⟩
    simp only [actions, List.forall_mem_cons]
    exact ⟨⟨rfl, nofun, hplace hminus hminus⟩, ⟨hfar, hplace rfl hfar, hplace hfar hfar⟩,
      ⟨hfar, hminus⟩, hfar, nofun⟩
  exact ⟨by decide +kernel, run_bounded hactions⟩

end Bounds

end Camera

end SphereCloud
