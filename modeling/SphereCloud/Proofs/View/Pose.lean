import SphereCloud.Proofs.Exact.Vectors
import SphereCloud.Proofs.View.Cells
import SphereCloud.Proofs.View.Heading

/-!
What a camera that is not rounded sees. It looks at the origin, with the whole sphere in front of
it.
-/

namespace SphereCloud

namespace Cell

variable {c : Cell} {projection : Mat4 ℝ} {point : Vec3 ℝ}

/-- What is in front of the eye is hidden by the rim of the view only. -/
theorem sight_of_front {clip : Vec4 ℝ}
    (hclip : projection.apply ⟨point.x, point.y, point.z, 1.0⟩ = clip) (hfront : 0 < clip.w) :
    sight projection point =
      if 1 < |clip.x / clip.w| ∨ 1 < |clip.y / clip.w| then none
      else some (clip.x / clip.w, clip.y / clip.w) := by
  have hle : Scalar.le clip.w 0.0 = false := by
    rw [zero_literal]
    exact decide_eq_false hfront.not_ge
  have hlt (x : ℝ) : Scalar.lt 1.0 (Scalar.abs x) = decide (1 < |x|) := by
    change decide ((1.0 : ℝ) < |x|) = _
    norm_num
  simp only [sight, hclip, hle, hlt, Bool.or_eq_true, decide_eq_true_eq, Bool.false_eq_true,
    if_false]

/-- The middle of the view is in the middle of the cell. -/
theorem landing_of_middle (hwidth : 0 < c.width) (hheight : 0 < c.height)
    (hwidth_word : fitsWord c.width) (hheight_word : fitsWord c.height)
    (hsight : sight projection point = some (0, 0)) :
    c.landing projection point =
      if fitsWord (c.x + c.width / 2) && fitsWord (c.y + c.height / 2) then
        .ok (some (c.x + c.width / 2, c.y + c.height / 2))
      else .error .tooLarge := by
  have hhalf {n : ℕ} (hpos : 0 < n) (hword : fitsWord n) {x : ℝ} (hx : x = n / 2) :
      min (Scalar.toNat x) (n - 1) = n / 2 := by
    have hfloor : ⌊x⌋₊ = n / 2 := by
      rw [hx]
      exact_mod_cast Nat.floor_div_eq_div n 2
    change min (min ⌊x⌋₊ 18446744073709551615) (n - 1) = n / 2
    rw [hfloor]
    simp only [fitsWord, decide_eq_true_eq] at hword
    omega
  have hempty : c.isEmpty = false := isEmpty_eq_false.mpr ⟨hwidth, hheight⟩
  rw [landing_of_sight hempty hsight]
  rw [hhalf hwidth hwidth_word, hhalf hheight hheight_word]
  · rw [ofNat_real]
    ring
  · rw [ofNat_real]
    ring

end Cell

namespace Camera

variable (c : Camera ℝ)

/-- From the origin to the camera, at length one. -/
noncomputable def direction : Vec3 ℝ :=
  ⟨Real.cos c.pitch * Real.cos c.yaw, Real.cos c.pitch * Real.sin c.yaw, Real.sin c.pitch⟩

theorem direction_dot_self : c.direction.dot c.direction = 1 := by
  simp only [direction, Vec3.dot]
  linear_combination (Real.cos c.pitch) ^ 2 * Real.sin_sq_add_cos_sq c.yaw + Real.sin_sq_add_cos_sq
    c.pitch

theorem length_direction : c.direction.length = 1 := by
  rw [Vec3.length, direction_dot_self, Real.sqrt_one]

theorem position_eq : c.position = c.direction.scale c.distance := by
  simp only [direction, Vec3.scale, mul_comm _ c.distance]
  rfl

/-- The way to the origin. -/
theorem origin_sub_position :
    (⟨0.0, 0.0, 0.0⟩ : Vec3 ℝ).sub c.position = c.direction.scale (-c.distance) := by
  rw [position_eq]
  simp only [Vec3.sub, Vec3.scale, Vec3.mk.injEq]
  refine ⟨?_, ?_, ?_⟩ <;> norm_num

theorem position_scale (hdistance : 0 < c.distance) :
    c.position.scale (1 / c.distance) = c.direction := by
  rw [position_eq, Vec3.scale_scale, mul_one_div_cancel hdistance.ne', Vec3.scale_one]

theorem length_origin_sub_position (hdistance : 0 < c.distance) :
    ((⟨0.0, 0.0, 0.0⟩ : Vec3 ℝ).sub c.position).length = c.distance := by
  rw [origin_sub_position, Vec3.length_scale, length_direction, mul_one, abs_neg,
    abs_of_pos hdistance]

/-- The camera looks back along its direction. -/
theorem normalize_origin_sub_position (hdistance : 0 < c.distance) :
    ((⟨0.0, 0.0, 0.0⟩ : Vec3 ℝ).sub c.position).normalize = c.direction.scale (-1) := by
  rw [Vec3.normalize_eq, length_origin_sub_position c hdistance, origin_sub_position,
    Vec3.scale_scale, neg_mul, mul_one_div_cancel hdistance.ne']

theorem cos_pitch_pos (hpitch : |c.pitch| ≤ maxPitch) : 0 < Real.cos c.pitch := by
  have hpi := Real.pi_pos
  rw [maxPitch_real, abs_le] at hpitch
  apply Real.cos_pos_of_mem_Ioo
  constructor <;> linarith [hpitch.1, hpitch.2]

/-- As long as the camera is short of the poles, its direction and the direction up span a plane. -/
theorem length_cross_up (hpitch : |c.pitch| ≤ maxPitch) :
    ((c.direction.scale (-1)).cross up).length = Real.cos c.pitch := by
  have hproduct := Vec3.dot_sq_add_cross_dot_self (c.direction.scale (-1)) up
  have hup : (up : Vec3 ℝ).dot up = 1 := by norm_num [up, Vec3.dot]
  have hheight : c.direction.dot up = Real.sin c.pitch := by norm_num [up, Vec3.dot, direction]
  rw [Vec3.scale_dot, Vec3.scale_dot, Vec3.dot_scale, direction_dot_self, hup, hheight] at hproduct
  have hsquare : ((c.direction.scale (-1)).cross up).dot ((c.direction.scale (-1)).cross up) =
      Real.cos c.pitch ^ 2 := by
    linear_combination hproduct - Real.sin_sq_add_cos_sq c.pitch
  rw [Vec3.length, hsquare, Real.sqrt_sq (cos_pitch_pos c hpitch).le]

/-- Where a point comes to in the view: to the right, to the top, and how far in front of the
eye. -/
theorem worldToClip_apply (hdistance : 0 < c.distance) (aspect : ℝ) (p : Vec3 ℝ) :
    let forward := c.direction.scale (-1)
    let right := (forward.cross up).normalize
    ∃ a b z, (c.worldToClip aspect).apply ⟨p.x, p.y, p.z, 1.0⟩ =
      ⟨a * right.dot (p.sub c.position), b * (right.cross forward).dot (p.sub c.position), z,
        forward.dot (p.sub c.position)⟩ := by
  intro forward right
  rw [worldToClip, Mat4.mul_apply, worldToView, Mat4.lookAt_apply,
    normalize_origin_sub_position c hdistance, viewToClip, Mat4.perspective_apply, neg_neg]
  exact ⟨_, _, _, rfl⟩

theorem clip_w (hdistance : 0 < c.distance) (aspect : ℝ) (p : Vec3 ℝ) :
    ((c.worldToClip aspect).apply ⟨p.x, p.y, p.z, 1.0⟩).w = c.distance - p.dot c.direction := by
  obtain ⟨a, b, z, hclip⟩ := worldToClip_apply c hdistance aspect p
  have hdot : (c.direction.scale (-1)).dot (p.sub c.position) =
      c.distance * c.direction.dot c.direction - p.dot c.direction := by
    simp only [position_eq, Vec3.dot, Vec3.sub, Vec3.scale]
    ring
  rw [hclip, hdot, direction_dot_self, mul_one]

/-- The origin is neither to the right nor to the top. -/
theorem clip_origin (hdistance : 0 < c.distance) (aspect : ℝ) :
    ((c.worldToClip aspect).apply ⟨0.0, 0.0, 0.0, 1.0⟩).x = 0 ∧
      ((c.worldToClip aspect).apply ⟨0.0, 0.0, 0.0, 1.0⟩).y = 0 := by
  obtain ⟨a, b, z, hclip⟩ := worldToClip_apply c hdistance aspect ⟨0.0, 0.0, 0.0⟩
  have hcenter : (⟨0.0, 0.0, 0.0⟩ : Vec3 ℝ).sub c.position =
      (c.direction.scale (-1)).scale c.distance := by
    rw [origin_sub_position, Vec3.scale_scale, neg_one_mul]
  rw [hclip, hcenter]
  obtain ⟨forward, hforward⟩ : ∃ forward, c.direction.scale (-1) = forward := ⟨_, rfl⟩
  rw [hforward]
  constructor
  · change a * (forward.cross up).normalize.dot (forward.scale c.distance) = 0
    rw [Vec3.normalize_eq, Vec3.dot_scale, Vec3.scale_dot, Vec3.dot_comm, Vec3.dot_cross_left,
      mul_zero, mul_zero, mul_zero]
  · change b * ((forward.cross up).normalize.cross forward).dot (forward.scale c.distance) = 0
    rw [Vec3.dot_scale, Vec3.dot_comm, Vec3.dot_cross_right, mul_zero, mul_zero]

/-- A point of the ball is as far in front of the eye as the camera is from the origin, up to
one. -/
theorem clip_w_mem (hdistance : 0 < c.distance) (aspect : ℝ) {p : Vec3 ℝ} (hp : p.length ≤ 1) :
    ((c.worldToClip aspect).apply ⟨p.x, p.y, p.z, 1.0⟩).w ∈
      Set.Icc (c.distance - 1) (c.distance + 1) := by
  have hdot := (Vec3.abs_dot_le p c.direction).trans_eq (by rw [length_direction, mul_one])
  obtain ⟨hlow, hhigh⟩ := abs_le.mp (hdot.trans hp)
  rw [clip_w c hdistance]
  constructor <;> linarith

variable {c}

/-- Within its limits a camera has all of the sphere in view from the same side: neither direction
that looking is made of has no length, points of the unit ball are in front of the eye by the
distance less their part along the direction to the camera, so that only the rim of the view hides
them, and the origin comes to the middle of every cell. -/
theorem looks_at_sphere (hpitch : |c.pitch| ≤ maxPitch)
    (hdistance : minDistance ≤ c.distance ∧ c.distance ≤ maxDistance) (aspect : ℝ) :
    let origin : Vec3 ℝ := ⟨0.0, 0.0, 0.0⟩
    let forward := (origin.sub c.position).normalize
    let clip (p : Vec3 ℝ) : Vec4 ℝ := (c.worldToClip aspect).apply ⟨p.x, p.y, p.z, 1.0⟩
    ((origin.sub c.position).length = c.distance ∧ 0 < c.distance ∧
      (forward.cross up).length = Real.cos c.pitch ∧ 0 < Real.cos c.pitch) ∧
    (∀ p, (clip p).w = c.distance - p.dot (c.position.scale (1 / c.distance))) ∧
    (∀ p, p.length ≤ 1 →
      (c.distance - 1 ≤ (clip p).w ∧ (clip p).w ≤ c.distance + 1 ∧ 0.5 ≤ (clip p).w) ∧
      ∀ cell : Cell, 0 < cell.width → 0 < cell.height →
        (cell.landing (c.worldToClip aspect) p = .ok none ↔
          1 < |(clip p).x / (clip p).w| ∨ 1 < |(clip p).y / (clip p).w|)) ∧
    ∀ cell : Cell, 0 < cell.width → 0 < cell.height → fitsWord cell.width → fitsWord cell.height →
      cell.landing (c.worldToClip aspect) origin =
        if fitsWord (cell.x + cell.width / 2) && fitsWord (cell.y + cell.height / 2) then
          .ok (some (cell.x + cell.width / 2, cell.y + cell.height / 2))
        else .error .tooLarge := by
  intro origin forward clip
  have hfar : (1.5 : ℝ) ≤ c.distance := hdistance.1
  have hpos : 0 < c.distance := by norm_num at hfar; linarith
  have hfront {p : Vec3 ℝ} (hp : p.length ≤ 1) : 0.5 ≤ (clip p).w := by
    have hmem : c.distance - 1 ≤ (clip p).w := (clip_w_mem c hpos aspect hp).1
    norm_num at hfar ⊢
    linarith
  have hsight {p : Vec3 ℝ} (hp : p.length ≤ 1) := by
    have hw : 0 < (clip p).w := lt_of_lt_of_le (by norm_num) (hfront hp)
    have hclip : (c.worldToClip aspect).apply ⟨p.x, p.y, p.z, 1.0⟩ = clip p := rfl
    exact Cell.sight_of_front hclip hw
  refine ⟨⟨length_origin_sub_position c hpos, hpos, ?_, cos_pitch_pos c hpitch⟩, fun p => ?_,
    fun p hp => ⟨⟨(clip_w_mem c hpos aspect hp).1, (clip_w_mem c hpos aspect hp).2, hfront hp⟩,
      fun cell hwidth hheight => ?_⟩, fun cell hwidth hheight hwidth_word hheight_word => ?_⟩
  · have hforward : forward = c.direction.scale (-1) := normalize_origin_sub_position c hpos
    rw [hforward, length_cross_up c hpitch]
  · rw [position_scale c hpos]
    exact clip_w c hpos aspect p
  · rw [Cell.landing_eq_none_iff (Cell.isEmpty_eq_false.mpr ⟨hwidth, hheight⟩), hsight hp]
    split
    case isTrue hrim => exact iff_of_true rfl hrim
    case isFalse hrim => exact iff_of_false nofun hrim
  · apply Cell.landing_of_middle hwidth hheight hwidth_word hheight_word
    have horigin : origin.length ≤ 1 := by norm_num [origin, Vec3.length, Vec3.dot]
    obtain ⟨hx, hy⟩ : (clip origin).x = 0 ∧ (clip origin).y = 0 := clip_origin c hpos aspect
    rw [hsight horigin, hx, hy, zero_div, abs_zero, if_neg (by norm_num)]

/-- A camera as high up and as close as it can be: the next point of the sphere is half a unit in
front of it. -/
theorem looks_at_sphere_closest :
    let c : Camera ℝ := ⟨7, maxPitch, minDistance, none⟩
    (|c.pitch| ≤ maxPitch ∧ minDistance ≤ c.distance ∧ c.distance ≤ maxDistance) ∧
      (∃ p : Vec3 ℝ, p.length = 1 ∧ ((c.worldToClip 2).apply ⟨p.x, p.y, p.z, 1.0⟩).w = 0.5) ∧
      (⟨3, 4, 5, 7⟩ : Cell).landing (c.worldToClip 2) ⟨0.0, 0.0, 0.0⟩ = .ok (some (5, 7)) := by
  intro c
  have hpitch : |c.pitch| ≤ maxPitch := (abs_of_pos maxPitch_pos).le
  have hdistance : minDistance ≤ c.distance ∧ c.distance ≤ maxDistance := ⟨le_rfl, minDistance_le⟩
  obtain ⟨⟨-, hpos, -⟩, hw, -, hmiddle⟩ := looks_at_sphere hpitch hdistance 2
  refine ⟨⟨hpitch, hdistance⟩, ⟨c.direction, length_direction c, ?_⟩, ?_⟩
  · have hclose : c.distance = 1.5 := rfl
    rw [hw, position_scale c hpos, direction_dot_self, hclose]
    norm_num
  · exact hmiddle ⟨3, 4, 5, 7⟩ (by decide) (by decide) (by decide) (by decide)

end Camera

end SphereCloud
