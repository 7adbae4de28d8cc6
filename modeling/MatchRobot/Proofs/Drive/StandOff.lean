import MatchRobot.Drive.Motion
import MatchRobot.Proofs.Number.Quotients

/-!
# A drive up to an obstacle

A proximity move turns the gap between what the range finder shows and the wanted distance into a target
in counts. The gap keeps its sign on the way: what is in front of the robot stays positive
(`Motion.bears_counts`) and what is behind it stays negative, also after the coast is taken off
(`Motion.coastCompensated_of_neg`), which is never more than half of the target.

The session then forgets the sign. A step compares magnitudes and its outputs follow the speed alone, so a
robot that already stands too close rolls on toward the obstacle for as many counts as it should have
moved back (`StraightDrive.forward_inside_standOff`).
-/

namespace MatchRobot

open Float.Model (Format UnpackedFloat)
open Float.Model.UnpackedFloat

/-- Dimensions that wheels, encoders and steering can have. -/
structure DriveConfig.Physical (config : DriveConfig) : Prop where
  wheel : 0 < config.wheelDiameter
  encoder : 0 < config.countsPerRev
  steering : 0 < config.headingDivisor

/-- Outputs that take the robot forward; the left motor is mounted the other way round. -/
def WheelOutputs.Forward (w : WheelOutputs) : Prop :=
  w.left < 0 ∧ 0 < w.right

namespace Motion

open Single

/-! ### Targets -/

/-- Distances are not turned round on their way to counts. -/
lemma bears_counts {config : DriveConfig} (wheel : 0 < config.wheelDiameter)
    (encoder : 0 < config.countsPerRev) {x : Float32} {s : Sign} (h : Bears s (unpacked x)) :
    Bears s (unpacked (inchesToCounts config x)) := by
  have pi : Bears .positive (unpacked Single.pi) := rfl
  have circumference := bears_repacked (bears_mul pi (bears_of_pos wheel))
  have turns := bears_repacked (bears_div h circumference)
  have counts := bears_repacked (bears_mul turns (bears_of_pos encoder))
  have same : s / (.positive * .positive) * .positive = s := by cases s <;> rfl
  rw [same] at counts
  exact counts

lemma nought_counts (config : DriveConfig) {x : Float32} (h : Nought (unpacked x)) :
    Nought (unpacked (inchesToCounts config x)) :=
  nought_repacked (nought_mul (nought_repacked (nought_div h _)) _)

/-- A target that is no quantity is none after its coast is taken off. -/
lemma coastCompensated_of_nought (config : DriveConfig) {t : Float32} (h : Nought (unpacked t))
    (speed : Float32) : coastCompensated config t speed = 0 := by
  obtain ⟨not_ahead, not_behind⟩ := (nought_iff t).1 h
  unfold coastCompensated
  rw [if_neg not_ahead, if_neg not_behind]

/-- The coast is no longer than the bound it is cut to. -/
lemma least_of_lt {a b : Float32} (bears : Bears .positive (unpacked a)) (finite_b : b.isFinite = true)
    (not_negative : 0 ≤ value (unpacked b)) :
    (least a b).isFinite = true ∧ 0 ≤ value (unpacked (least a b)) ∧
      value (unpacked (least a b)) ≤ value (unpacked b) := by
  unfold least
  rw [isNaN_of_finite finite_b, if_neg Bool.false_ne_true]
  by_cases less : a < b
  · rw [if_pos less]
    have finite_a : a.isFinite = true := isFinite_of_lt bears finite_b less
    exact ⟨finite_a, value_nonneg bears, ((lt_iff_value finite_a finite_b).1 less).le⟩
  · rw [if_neg less]
    exact ⟨finite_b, not_negative, le_rfl⟩

/-- A target behind the robot stays behind it when its coast is taken off. If it is infinite there may be
no number left of it, but never zero. -/
lemma coastCompensated_of_neg {config : DriveConfig} (wheel : 0 < config.wheelDiameter)
    (encoder : 0 < config.countsPerRev) {t : Float32} (h : t < 0) (speed : Float32) :
    Bears .negative (unpacked (coastCompensated config t speed)) ∧
      (coastCompensated config t speed == 0) = false := by
  have behind : Bears .negative (unpacked t) := bears_of_neg h
  unfold coastCompensated
  rw [if_neg (not_pos_of_bears behind), if_pos h]
  by_cases finite_t : t.isFinite = true
  · have finite_abs : t.abs.isFinite = true := (isFinite_abs t).trans finite_t
    have below : value (unpacked t) < 0 := by
      have order := (lt_iff_value finite_t (by decide)).1 h
      rwa [unpacked_zero] at order
    have magnitude : value (unpacked t.abs) = -value (unpacked t) := by
      rw [unpacked_abs, value_abs, abs_of_neg below]
    have ahead : 0 < t.abs := by
      rw [lt_iff_value (by decide) finite_abs, unpacked_zero, magnitude]
      exact Int.neg_pos_of_neg below
    obtain ⟨finite_half, smaller⟩ := half_value finite_abs ahead
    have bears_half : Bears .positive (unpacked (t.abs / 2)) :=
      bears_repacked (bears_div (bears_abs t) (bears_of_pos (by decide)))
    have bears_coast := bears_counts wheel encoder (bears_abs (speed * config.coastPerSpeed))
    obtain ⟨finite_coast, not_negative, short⟩ :=
      least_of_lt bears_coast finite_half (value_nonneg bears_half)
    rcases sum_cases finite_t finite_coast with ⟨none, -⟩ | ⟨s, sign, bears, some_quantity⟩
    · omega
    · cases s with
      | positive =>
        simp only [Sign.apply] at sign
        omega
      | negative =>
        refine ⟨bears, Bool.eq_false_iff.2 fun zero => some_quantity ?_⟩
        obtain ⟨s, zero⟩ := (beq_zero_iff _).1 zero
        rw [zero]
        trivial
  · -- what is left of an infinite target is infinite, or no number
    have infinite : unpacked t = .infinity .negative := by
      rw [isFinite_eq] at finite_t
      rw [lt_iff] at h
      cases ht : unpacked t with
      | zero | finite =>
        rw [ht] at finite_t
        exact absurd rfl finite_t
      | notANumber =>
        rw [ht] at h
        cases h
      | infinity s =>
        rw [ht] at behind
        obtain rfl := behind
        rfl
    generalize Single.least _ _ = coast
    have left : unpacked (t + coast) = .notANumber ∨ unpacked (t + coast) = .infinity .negative := by
      rw [unpacked_add, infinite]
      cases unpacked coast with
      | notANumber => exact .inl unpack_packedNaN
      | zero | finite => exact .inr ((unpack_components .negative (-1#8) 0).1 rfl rfl)
      | infinity s =>
        cases s with
        | positive => exact .inl unpack_packedNaN
        | negative => exact .inr ((unpack_components .negative (-1#8) 0).1 rfl rfl)
    refine ⟨?_, Bool.eq_false_iff.2 fun zero => ?_⟩
    · rcases left with left | left <;> rw [left]
      · trivial
      · rfl
    · obtain ⟨s, zero⟩ := (beq_zero_iff _).1 zero
      rcases left with left | left <;> rw [left] at zero <;> cases zero

/-! ### Outputs -/

/-- A heading at the reference needs no correction. -/
lemma headingCorrection_of_beq {config : DriveConfig} (steering : 0 < config.headingDivisor)
    {heading : Float32} (h : (heading == 0) = true) :
    ∃ s, unpacked (headingCorrection heading 0 config.headingDivisor) = .zero s := by
  obtain ⟨s, level⟩ := (beq_zero_iff heading).1 h
  have error : ∃ t, unpacked (heading - 0) = .zero t := by
    rw [unpacked_sub, level, unpacked_zero]
    cases s <;> exact ⟨_, repacked_zero _⟩
  obtain ⟨t, error⟩ := error
  have divisor := bears_of_pos steering
  rw [lt_iff, unpacked_zero] at steering
  unfold headingCorrection
  rw [unpacked_div, error]
  cases hd : unpacked config.headingDivisor with
  | notANumber | zero =>
    rw [hd] at steering
    cases steering
  | infinity | finite => exact ⟨_, repacked_zero _⟩

/-- Without a correction the outputs are the speed. -/
lemma straightOutputs_forward {speed offset : Float32} (h : 0 < speed)
    (none : ∃ s, unpacked offset = .zero s) : (straightOutputs speed offset).Forward := by
  obtain ⟨s, none⟩ := none
  have ahead : ∀ {x : Float32}, unpacked x = unpacked speed → 0 < x := by
    intro x same
    rw [lt_iff, same, ← lt_iff]
    exact h
  have plus : ∀ t, add Format.binary32 (unpacked speed) (.zero t) = unpacked speed := by
    intro t
    rw [lt_iff, unpacked_zero] at h
    cases hs : unpacked speed with
    | zero =>
      rw [hs] at h
      cases h
    | infinity | notANumber | finite => rfl
  have left : 0 < speed - offset := by
    refine ahead ?_
    rw [sub_eq, unpacked_add, unpacked_neg, none]
    exact (congrArg repacked (plus (-s))).trans (repacked_unpacked speed)
  have right : 0 < speed + offset := by
    refine ahead ?_
    rw [unpacked_add, none, plus, repacked_unpacked]
  exact ⟨neg_of_pos left, right⟩

end Motion

namespace StraightDrive

open Single

variable {config : DriveConfig} {speed range standoff : Float32} {timeout now : Micros}
  {s : StraightDrive}

/-- A step drives exactly if nothing ends the session, and then by its speed and its heading. -/
lemma step_eq_drive_iff (s : StraightDrive) (config : DriveConfig) (now : Micros) (inAuto : Bool)
    (encoder : Int32) (heading : Float32) (w : WheelOutputs) :
    s.step config now inAuto encoder heading = .drive w ↔
      inAuto = true ∧ now < s.deadline ∧ s.isReached encoder = false ∧
        w = Motion.straightOutputs s.speed
          (Motion.headingCorrection heading s.headingReference config.headingDivisor) := by
  unfold step
  cases inAuto with
  | false => simp
  | true =>
    by_cases late : s.deadline ≤ now
    · simp [late, Nat.not_lt.2 late]
    · cases reached : s.isReached encoder with
      | true => simp [late]
      | false => simp [late, Nat.lt_of_not_le late, eq_comm]

lemma start_eq_ok {goal : StraightGoal} (h : start config speed goal timeout now = .ok s) :
    s.speed = speed ∧ s.headingReference = 0 ∧ s.target = (goalCounts config goal).map fun counts =>
      Motion.coastCompensated config counts speed := by
  unfold start at h
  cases deadline : Clock.after now timeout with
  | error fault =>
    rw [deadline] at h
    cases h
  | ok deadline' =>
    rw [deadline] at h
    cases h
    exact ⟨rfl, rfl, rfl⟩

/-- A target of zero is reached whatever the encoder shows. -/
lemma isReached_of_beq_zero {t : Float32} (target : s.target = some t) (zero : (t == 0) = true)
    (encoder : Int32) : s.isReached encoder = true := by
  obtain ⟨sign, zero⟩ := (beq_zero_iff t).1 zero
  unfold isReached
  simp only [target, decide_eq_true_eq, ge_iff_le, le_iff]
  rw [unpacked_abs, zero, unpacked_abs]
  have number := isNaN_ofInt32 encoder
  rw [isNaN_eq] at number
  generalize unpacked (Single.ofInt32 encoder) = n at *
  cases n with
  | notANumber => cases number
  | infinity | zero | finite => rfl

/-- An encoder at zero has reached no other target than zero. -/
lemma isReached_zero {t : Float32} (target : s.target = some t) : s.isReached 0 = (t == 0) := by
  cases zero : t == 0 with
  | true => exact isReached_of_beq_zero target zero 0
  | false =>
    have start : unpacked (Single.ofInt32 0).abs = .zero .positive := by
      have same : Single.ofInt32 0 = 0 := by decide
      rw [same, unpacked_abs, unpacked_zero]
      rfl
    unfold isReached
    simp only [target, decide_eq_false_iff_not, ge_iff_le, le_iff]
    rw [unpacked_abs, start]
    cases ht : unpacked t with
    | zero sign =>
      have same := (beq_zero_iff t).2 ⟨sign, ht⟩
      rw [zero] at same
      cases same
    | infinity | notANumber | finite => exact nofun

/-- The gap to the wanted distance, when the robot is not outside it: it comes to counts behind the robot,
or to no target. -/
lemma target_inside (physical : config.Physical) (finite_range : range.isFinite = true)
    (finite_standoff : standoff.isFinite = true) (inside : range ≤ standoff) (speed : Float32) :
    ((Motion.coastCompensated config (Motion.inchesToCounts config (range - standoff)) speed == 0) =
        false ↔ Motion.inchesToCounts config (range - standoff) < 0) ∧
      ((range == standoff) = true → (Motion.coastCompensated config
        (Motion.inchesToCounts config (range - standoff)) speed == 0) = true) := by
  have order := (le_iff_value finite_range finite_standoff).1 inside
  by_cases level : (range == standoff) = true
  · have none := Motion.nought_counts config (nought_sub finite_range finite_standoff level)
    have zero := Motion.coastCompensated_of_nought config none speed
    rw [zero]
    exact ⟨iff_of_false (by decide) ((nought_iff _).1 none).2, fun _ => by decide⟩
  · have apart := mt (beq_iff_value finite_range finite_standoff).2 level
    have closer : range < standoff := (lt_iff_value finite_range finite_standoff).2 (by omega)
    have behind := Motion.bears_counts physical.wheel physical.encoder
      (bears_sub finite_range finite_standoff closer)
    refine ⟨?_, fun same => absurd same level⟩
    by_cases some_counts : Motion.inchesToCounts config (range - standoff) < 0
    · have kept := Motion.coastCompensated_of_neg physical.wheel physical.encoder some_counts speed
      exact iff_of_true kept.2 some_counts
    · have none := (nought_iff _).2 ⟨not_pos_of_bears behind, some_counts⟩
      rw [Motion.coastCompensated_of_nought config none speed]
      exact iff_of_false (by decide) some_counts

/-- A proximity move whose robot already stands within the wanted distance, and does not lean, never
backs off. It rolls forward until its encoder shows as many counts as it should have moved back, so it is
over at once exactly if there are none of them, which at the wanted distance itself is the case. -/
theorem forward_inside_standOff (physical : config.Physical) (ahead : 0 < speed)
    (finite_range : range.isFinite = true) (finite_standoff : standoff.isFinite = true)
    (inside : range ≤ standoff)
    (started : start config speed (.standOff range standoff) timeout now = .ok s) :
    (s.isReached 0 = false ↔ Motion.inchesToCounts config (range - standoff) < 0) ∧
    ((range == standoff) = true → ∀ encoder, s.isReached encoder = true) ∧
    ∀ time inAuto encoder heading, (heading == s.headingReference) = true →
      ((∃ w, s.step config time inAuto encoder heading = .drive w) ↔
        inAuto = true ∧ time < s.deadline ∧ s.isReached encoder = false) ∧
      ∀ w, s.step config time inAuto encoder heading = .drive w → w.Forward := by
  obtain ⟨same_speed, reference, target⟩ := start_eq_ok started
  change s.target = some _ at target
  obtain ⟨some_counts, none⟩ := target_inside physical finite_range finite_standoff inside speed
  refine ⟨?_, fun level => isReached_of_beq_zero target (none level), ?_⟩
  · rw [isReached_zero target]
    exact some_counts
  · intro time inAuto encoder heading level
    rw [reference] at level
    constructor
    · constructor
      · rintro ⟨w, step⟩
        obtain ⟨auto, early, under_way, -⟩ := (step_eq_drive_iff s ..).1 step
        exact ⟨auto, early, under_way⟩
      · rintro ⟨auto, early, under_way⟩
        exact ⟨_, (step_eq_drive_iff s ..).2 ⟨auto, early, under_way, rfl⟩⟩
    · intro w step
      obtain ⟨-, -, -, rfl⟩ := (step_eq_drive_iff s ..).1 step
      rw [same_speed, reference]
      exact Motion.straightOutputs_forward ahead
        (Motion.headingCorrection_of_beq physical.steering level)

/-- A drive that starts five inches away from an obstacle that it should stay ten inches away from. -/
theorem forward_five_inches_too_close : ∃ s,
    start {} 0.4 (.standOff 5 10) (2 * Clock.second) 0 = .ok s ∧
    DriveConfig.Physical {} ∧ (0 : Float32) < 0.4 ∧ (5 : Float32).isFinite = true ∧
    (10 : Float32).isFinite = true ∧ (5 : Float32) ≤ 10 ∧
    (s.isReached 0 = false ↔ Motion.inchesToCounts {} (5 - 10) < 0) ∧
    (((5 : Float32) == 10) = true → ∀ encoder, s.isReached encoder = true) ∧
    ∀ time inAuto encoder heading, (heading == s.headingReference) = true →
      ((∃ w, s.step {} time inAuto encoder heading = .drive w) ↔
        inAuto = true ∧ time < s.deadline ∧ s.isReached encoder = false) ∧
      ∀ w, s.step {} time inAuto encoder heading = .drive w → w.Forward := by
  have physical : DriveConfig.Physical {} := ⟨by decide, by decide, by decide⟩
  have ahead : (0 : Float32) < 0.4 := by decide
  have inside : (5 : Float32) ≤ 10 := by decide
  obtain ⟨s, started⟩ : ∃ s, start {} 0.4 (.standOff 5 10) (2 * Clock.second) 0 = .ok s := ⟨_, rfl⟩
  exact ⟨s, started, physical, ahead, by decide, by decide, inside,
    forward_inside_standOff physical ahead (by decide) (by decide) inside started⟩

/-- A drive can go on toward an obstacle that is already closer than the wanted distance. -/
theorem exists_forward_inside_standOff :
    ¬ ∀ (config : DriveConfig) (speed range standoff : Float32) (timeout now : Micros)
      (s : StraightDrive), config.Physical → 0 < speed → range.isFinite = true →
      standoff.isFinite = true → range ≤ standoff →
      start config speed (.standOff range standoff) timeout now = .ok s →
      ∀ time inAuto encoder heading w, (heading == s.headingReference) = true →
        s.step config time inAuto encoder heading = .drive w → ¬ w.Forward := by
  intro never
  have physical : DriveConfig.Physical {} := ⟨by decide, by decide, by decide⟩
  have forward : (Motion.straightOutputs 0.4 (Motion.headingCorrection 0 0 45)).Forward :=
    ⟨by decide, by decide⟩
  exact never {} 0.4 5 10 (2 * Clock.second) 0 _ physical (by decide) (by decide) (by decide)
    (by decide) rfl 0 true 0 0 _ (by decide) rfl forward

end StraightDrive

end MatchRobot
