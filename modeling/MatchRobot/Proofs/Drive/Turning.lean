import MatchRobot.Drive.Motion
import MatchRobot.Proofs.Number.Sides

/-!
# A turn and the chassis that it turns

A turn that is not over pushes toward its target. Its output has the side of the error
(`Turn.exists_side`, `Motion.turnOutput_pushes`), is scaled to what the motors expect and written to both of
them. The left motor is mounted the other way round, so the chassis spins against that side
(`Chassis.leans_rate`).

Every operation on the way keeps the side, and each of them can lose the output: a scale, a full speed or a rate
that is too small leaves zero of it. `Chassis.Underflows` names these ways, and `Chassis.TurnsBack` says what
one look at the chassis finds. No error is too small for the division by half a turn, for the dead band does not
let it get there.

The output stands until it is written again, for any number of looks in between (`Chassis.RunsAt`). Each of them
finds the heading no further out on the side of the target where it was (`Turn.drive_turns_back`). The chassis
does not stop at the target, though: an output that stands for too long takes it past and away.
-/

namespace MatchRobot

open Float.Model.UnpackedFloat (Sign)
open Single

/-! ## The output of a turn -/

namespace Motion

/-- The output of a turn lies on the side of the error and is no weaker than the minimum. -/
lemma turnOutput_pushes {error minimum : Float32} {s : Sign} (side : Beyond s 0 (error / 180))
    (friction : 0 < minimum) :
    Beyond s 0 (turnOutput error minimum) ∧ minimum ≤ (turnOutput error minimum).abs := by
  have zero : (0 : Float32).isNaN = false := by decide
  obtain ⟨number_min, strength⟩ := (beyond_zero_iff_rank (s := .positive)).1 friction
  obtain ⟨number, order⟩ := beyond_zero_iff_rank.1 side
  have number_neg : (-minimum).isNaN = false := (isNaN_neg minimum).trans number_min
  -- what is left is a question of the ranks
  suffices pushes : (turnOutput error minimum).isNaN = false ∧
      0 < s.apply (rank (unpacked (turnOutput error minimum))) ∧
      rank (unpacked minimum) ≤ |rank (unpacked (turnOutput error minimum))| by
    obtain ⟨number, pushed, strong⟩ := pushes
    rw [beyond_zero_iff_rank, le_iff_rank number_min ((isNaN_abs _).trans number), unpacked_abs, rank_abs]
    exact ⟨⟨number, pushed⟩, strong⟩
  unfold turnOutput
  simp only [gt_iff_lt, Bool.and_eq_true, decide_eq_true_eq, lt_iff_rank zero number,
    lt_iff_rank number zero, lt_iff_rank number number_min, lt_iff_rank number_neg number,
    unpacked_neg, rank_neg, rank_zero]
  simp only [Sign.apply] at strength
  split_ifs with ahead behind
  · refine ⟨number_min, ?_, le_abs_self _⟩
    cases s <;> simp only [Sign.apply] at order ⊢ <;> omega
  · rw [unpacked_neg, rank_neg, abs_neg]
    refine ⟨number_neg, ?_, le_abs_self _⟩
    cases s <;> simp only [Sign.apply] at order ⊢ <;> omega
  · refine ⟨number, order, le_abs.2 ?_⟩
    cases s <;> simp only [Sign.apply] at order <;> omega

end Motion

/-! ## The side of the error -/

namespace Turn

/-- A turn drives exactly if it is outside its dead band and nothing ends it, and then by its error. -/
lemma step_eq_drive_iff (t : Turn) (config : DriveConfig) (now : Micros) (inAuto : Bool)
    (heading o : Float32) :
    t.step config now inAuto heading = .drive o ↔
      ¬ (heading - t.target).abs ≤ config.turnDeadBand ∧ inAuto = true ∧ now < t.deadline ∧
        o = Motion.turnOutput (heading - t.target) config.minimumTurnSpeed := by
  unfold step
  by_cases inside : (heading - t.target).abs ≤ config.turnDeadBand
  · simp [inside]
  · cases inAuto with
    | false => simp [inside]
    | true =>
      by_cases late : t.deadline ≤ now
      · simp [inside, late, Nat.not_lt.2 late]
      · simp [inside, late, Nat.lt_of_not_le late, eq_comm]

section

variable {error band : Float32} (number : error.isNaN = false) (wide : 1e-30 ≤ band)
  (outside : ¬ error.abs ≤ band)
include number wide outside

/-- An error outside of the dead band is larger than the smallest dead band. -/
lemma lt_abs_rank_error : rank (unpacked 1e-30) < |rank (unpacked error)| := by
  have number_band := isNaN_of_ge wide
  rw [le_iff_rank (by decide) number_band] at wide
  rw [le_iff_rank ((isNaN_abs _).trans number) number_band, unpacked_abs, rank_abs] at outside
  omega

lemma error_ne_zero : (error == 0) = false := by
  have large := lt_abs_rank_error number wide outside
  have positive : 0 < rank (unpacked 1e-30) := by decide +kernel
  rw [Bool.eq_false_iff, Ne, beq_zero_iff_rank number]
  intro none
  rw [none, abs_zero] at large
  omega

/-- An error outside of the dead band has units enough for a divisor of 180. -/
lemma not_underflowing_error : ¬ UnderflowingQuotient error 180 := by
  rintro ⟨some_units, few⟩
  have large := lt_abs_rank_error number wide outside
  have units : 0 ≤ value (unpacked 180) ∧
      value (unpacked 180) ≤ rank (unpacked 1e-30) * 2 ^ 149 := by decide +kernel
  have finite : error.isFinite = true := by
    by_contra infinite
    obtain ⟨t, infinite⟩ := exists_infinity number infinite
    rw [infinite] at some_units
    exact lt_irrefl _ some_units
  rw [rank_of_finite finite] at large
  rw [abs_of_nonneg units.1] at few
  omega

end

/-- An error outside of the dead band is still on its side after it is divided. -/
lemma exists_side {heading target band : Float32} (finite_heading : heading.isFinite = true)
    (finite_target : target.isFinite = true) (wide : 1e-30 ≤ band)
    (outside : ¬ (heading - target).abs ≤ band) :
    ∃ s, Beyond s target heading ∧ Beyond s 0 (heading - target) ∧
      Beyond s 0 ((heading - target) / 180) := by
  have number := (packs_sub finite_heading finite_target).isNaN
  have some_error := error_ne_zero number wide outside
  obtain ⟨s, side, error⟩ := exists_beyond_sub finite_heading finite_target some_error
  obtain ⟨divided, lost⟩ := leans_div (beyond_zero_iff.1 error).1
    (by decide : (180 : Float32).isFinite = true) (by decide)
  refine ⟨s, side, error, beyond_zero_iff.2 ⟨divided, Bool.eq_false_iff.2 fun zero => ?_⟩⟩
  rcases lost zero with none | underflow
  · exact Bool.false_ne_true (some_error.symm.trans none)
  · exact not_underflowing_error number wide outside underflow

end Turn

/-! ## The chassis -/

/-- A chassis that can be given speeds and that turns at a rate. -/
structure ChassisConfig.Sound (config : ChassisConfig) : Prop where
  finite_speed : config.fullSpeed.isFinite = true
  speed : 0 < config.fullSpeed
  finite_rate : config.degreesPerSecond.isFinite = true
  rate : 0 < config.degreesPerSecond

namespace Chassis

/-- What both sides contribute to the rate, as a share of what a side contributes at full output. -/
def spin (c : Chassis) : Float32 :=
  -(c.fraction .left) - c.fraction .right

/-- How an output can get lost on its way to a rate: by its scale, by the full speed if both motors are
given speeds, or by the rate of the chassis. -/
def Underflows (c : Chassis) (output scale : Float32) : Prop :=
  UnderflowingProduct output scale ∨
    (∀ side, c.mode.get side = .velocity) ∧ UnderflowingQuotient (output * scale) c.config.fullSpeed ∨
    UnderflowingProduct c.spin c.config.degreesPerSecond

/-- A motion of a chassis, between two looks at it, against the side of an output. The heading is compared as
it is and as the gyro shows it. -/
structure TurnsBack (s : Sign) (output scale : Float32) (before after : Chassis) : Prop where
  rate : Beyond (-s) 0 after.rate ∨ (after.rate == 0) = true ∧ before.Underflows output scale
  heading : ¬ Beyond s before.heading after.heading
  angle : ¬ Beyond s (before.heading - before.headingZero) (after.heading - after.headingZero)
  number : before.heading.isFinite = true → after.rate.isFinite = true → after.heading.isNaN = false

section

variable {c : Chassis} {s : Sign} {x : Float32} (sound : c.config.Sound)
include sound

/-- The share of a side keeps the side of its output, which only a division by the full speed can lose. -/
lemma leans_fraction {side : Side} (output : c.output.get side = x) (leans : Leans s x) :
    Leans s (c.fraction side) ∧ (c.fraction side).isFinite = true ∧
      ((c.fraction side == 0) = true → (x == 0) = true ∨
        c.mode.get side = .velocity ∧ UnderflowingQuotient x c.config.fullSpeed) := by
  unfold fraction
  cases mode : c.mode.get side with
  | velocity =>
    obtain ⟨divided, lost⟩ := leans_div leans sound.finite_speed sound.speed
    obtain ⟨clamped, finite, kept⟩ := leans_clamp divided
    simp only [output]
    exact ⟨clamped, finite, fun zero => (lost (kept zero)).imp_right (And.intro trivial)⟩
  | percent | position =>
    obtain ⟨clamped, finite, kept⟩ := leans_clamp leans
    simp only [output]
    exact ⟨clamped, finite, fun zero => .inl (kept zero)⟩

/-- Both motors at one output spin the robot against its side, for the left one is mounted the other way
round. -/
lemma leans_rate (outputs : c.output = ⟨x, x⟩) (leans : Leans s x) (span : Micros) :
    Leans (-s) (c.move span).rate ∧
      (((c.move span).rate == 0) = true → (x == 0) = true ∨
        (∀ side, c.mode.get side = .velocity) ∧ UnderflowingQuotient x c.config.fullSpeed ∨
        UnderflowingProduct c.spin c.config.degreesPerSecond) := by
  have rate : (c.move span).rate = c.spin * c.config.degreesPerSecond := rfl
  have output : ∀ side, c.output.get side = x := by
    intro side
    rw [outputs]
    cases side <;> rfl
  obtain ⟨left, finite_left, lost_left⟩ := leans_fraction sound (output .left) leans
  obtain ⟨right, finite_right, lost_right⟩ := leans_fraction sound (output .right) leans
  obtain ⟨spins, stopped⟩ := leans_spin left right finite_left finite_right
  obtain ⟨turns, lost⟩ := leans_mul spins sound.finite_rate sound.rate
  refine ⟨turns, fun zero => ?_⟩
  rcases lost zero with none | underflow
  · obtain ⟨none_left, none_right⟩ := stopped none
    rcases lost_left none_left with none | ⟨mode_left, underflow⟩
    · exact .inl none
    rcases lost_right none_right with none | ⟨mode_right, -⟩
    · exact .inl none
    refine .inr (.inl ⟨fun side => ?_, underflow⟩)
    cases side with
    | left => exact mode_left
    | right => exact mode_right
  · exact .inr (.inr underflow)

end

/-- A chassis at a rate on one side does not turn to the other one. -/
lemma not_beyond_move {c : Chassis} {s : Sign} {span : Micros} (turns : Leans (-s) (c.move span).rate) :
    ¬ Beyond s c.heading (c.move span).heading := by
  have heading : (c.move span).heading = c.heading + (c.move span).rate * (ofCount span / 1000000) := rfl
  rw [heading]
  exact not_beyond_add_self (not_beyond_mul turns (bears_seconds span)) c.heading

/-- What a chassis does as long as both its motors run at the output of a turn. -/
lemma turnsBack_move {c : Chassis} {s : Sign} {o k : Float32} (sound : c.config.Sound) (side : Beyond s 0 o)
    (finite_scale : k.isFinite = true) (scale : 0 < k) (outputs : c.output = ⟨o * k, o * k⟩)
    (span : Micros) : c.TurnsBack s o k (c.move span) := by
  obtain ⟨leans, some_output⟩ := beyond_zero_iff.1 side
  obtain ⟨scaled, lost⟩ := leans_mul leans finite_scale scale
  obtain ⟨turns, stopped⟩ := leans_rate sound outputs scaled span
  refine ⟨turns.beyond.imp_right fun zero => ⟨zero, ?_⟩, not_beyond_move turns, ?_, ?_⟩
  · refine (stopped zero).imp_left fun none => (lost none).resolve_left ?_
    rw [some_output]
    exact Bool.false_ne_true
  · have sum : ∀ x : Float32, x - c.headingZero = x + -c.headingZero :=
      fun x => eq_of_unpacked (sub_eq x c.headingZero)
    change ¬ Beyond s (c.heading - c.headingZero) ((c.move span).heading - c.headingZero)
    rw [sum, sum]
    exact not_beyond_add (not_beyond_move turns) _
  · intro finite_heading finite_rate
    change (c.heading + (c.move span).rate * (ofCount span / 1000000)).isNaN = false
    exact isNaN_finite_add finite_heading (packs_mul finite_rate (isFinite_seconds span)).isNaN

/-! ## Writes and looks -/

/-- A chassis whose clock runs, with both motors at one output. -/
structure RunsAt (config : ChassisConfig) (x : Float32) (c : Chassis) : Prop where
  config : c.config = config
  outputs : c.output = ⟨x, x⟩
  clock : ∃ last, c.last = some last

lemma exists_last_touch (c : Chassis) (now : Micros) : ∃ last, (c.touch now).last = some last := by
  unfold touch
  split <;> exact ⟨now, rfl⟩

@[simp] lemma config_touch (c : Chassis) (now : Micros) : (c.touch now).config = c.config := by
  unfold touch move
  split <;> rfl

lemma runsAt_setOutput (c : Chassis) (first second : Micros) (x : Float32) :
    ((c.setOutput first .left x).setOutput second .right x).RunsAt c.config x := by
  unfold setOutput
  refine ⟨?_, ?_, exists_last_touch _ second⟩
  · simp
  · simp [Sides.set]

lemma RunsAt.touch {config : ChassisConfig} {x : Float32} {c : Chassis} (h : c.RunsAt config x)
    (now : Micros) : (c.touch now).RunsAt config x :=
  ⟨(config_touch c now).trans h.config, (output_touch c now).trans h.outputs, exists_last_touch c now⟩

lemma RunsAt.foldl_touch {config : ChassisConfig} {x : Float32} (looks : List Micros) {c : Chassis}
    (h : c.RunsAt config x) : (looks.foldl Chassis.touch c).RunsAt config x := by
  induction looks generalizing c with
  | nil => exact h
  | cons now looks ih => exact ih (h.touch now)

/-- A look at a chassis whose motors run at the output of a turn finds it turned back. -/
lemma RunsAt.turnsBack {c : Chassis} {config : ChassisConfig} {s : Sign} {o k : Float32}
    (h : c.RunsAt config (o * k)) (sound : config.Sound) (side : Beyond s 0 o)
    (finite_scale : k.isFinite = true) (scale : 0 < k) (now : Micros) : c.TurnsBack s o k (c.touch now) := by
  obtain ⟨last, clock⟩ := h.clock
  have moved := turnsBack_move (h.config ▸ sound) side finite_scale scale h.outputs (now - last)
  unfold Chassis.touch
  rw [clock]
  exact ⟨moved.rate, moved.heading, moved.angle, moved.number⟩

end Chassis

namespace Turn

/-- An output of a turn has the side of its error and at least the minimum. Written to both motors of a chassis,
it turns the chassis back from this side for as long as it stands, unless it is lost in an underflow. -/
theorem drive_turns_back {t : Turn} {config : DriveConfig} {now : Micros} {inAuto : Bool}
    {heading o : Float32} (finite_heading : heading.isFinite = true) (finite_target : t.target.isFinite = true)
    (wide : 1e-30 ≤ config.turnDeadBand) (friction : 0 < config.minimumTurnSpeed)
    (driving : t.step config now inAuto heading = .drive o) :
    ∃ s : Sign, Beyond s t.target heading ∧ Beyond s 0 (heading - t.target) ∧
      Beyond s 0 o ∧ config.minimumTurnSpeed ≤ o.abs ∧
      ∀ (c : Chassis) (k : Float32), c.config.Sound → k.isFinite = true → 0 < k →
        ∀ (first second later : Micros) (looks : List Micros),
          let written := (c.setOutput first .left (o * k)).setOutput second .right (o * k)
          let before := looks.foldl Chassis.touch written
          before.TurnsBack s o k (before.touch later) := by
  obtain ⟨outside, -, -, rfl⟩ := (step_eq_drive_iff t ..).1 driving
  obtain ⟨s, side, error, divided⟩ := exists_side finite_heading finite_target wide outside
  obtain ⟨pushes, strong⟩ := Motion.turnOutput_pushes divided friction
  refine ⟨s, side, error, pushes, strong, ?_⟩
  intro c k sound finite_scale scale first second later looks written before
  have runs : before.RunsAt c.config _ := .foldl_touch looks (Chassis.runsAt_setOutput c first second _)
  exact runs.turnsBack sound pushes finite_scale scale later

/-- A turn to the right by 45 degrees, on a chassis that is looked at every five milliseconds. -/
theorem eighth_turns_back : ∃ o, Turn.step ⟨90, 2 * Clock.second⟩ {} 0 true 45 = .drive o ∧
    (45 : Float32).isFinite = true ∧ (90 : Float32).isFinite = true ∧
    (1e-30 : Float32) ≤ DriveConfig.turnDeadBand {} ∧ 0 < DriveConfig.minimumTurnSpeed {} ∧
    ∃ s : Sign, Beyond s 90 45 ∧ Beyond s 0 (45 - 90) ∧ Beyond s 0 o ∧
      DriveConfig.minimumTurnSpeed {} ≤ o.abs ∧
      let written := (Chassis.setOutput {} 0 .left (o * 1)).setOutput 0 .right (o * 1)
      let before := [5 * Clock.millisecond].foldl Chassis.touch written
      before.TurnsBack s o 1 (before.touch (10 * Clock.millisecond)) := by
  obtain ⟨o, driving⟩ : ∃ o, Turn.step ⟨90, 2 * Clock.second⟩ {} 0 true 45 = .drive o := ⟨_, rfl⟩
  have finite_heading : (45 : Float32).isFinite = true := by decide
  have finite_target : (90 : Float32).isFinite = true := by decide
  have wide : (1e-30 : Float32) ≤ DriveConfig.turnDeadBand {} := by decide +kernel
  have friction : 0 < DriveConfig.minimumTurnSpeed {} := by decide
  obtain ⟨s, side, error, pushes, strong, turns⟩ := @drive_turns_back ⟨90, 2 * Clock.second⟩ {} 0 true 45 o
    finite_heading finite_target wide friction driving
  have sound : ChassisConfig.Sound {} := ⟨by decide, by decide, by decide, by decide⟩
  exact ⟨o, driving, finite_heading, finite_target, wide, friction, s, side, error, pushes, strong,
    turns {} 1 sound (by decide) (by decide) 0 0 (10 * Clock.millisecond) [5 * Clock.millisecond]⟩

/-- An output can get lost although no product underflows, for a division by the full speed can underflow
too; and an output that is kept for too long takes the robot past its target and away from it. -/
theorem stalls_and_overshoots : ∃ o, Turn.step ⟨90, 2 * Clock.second⟩ {} 0 true 0 = .drive o ∧
    (let c : Chassis := { config := { fullSpeed := 1e30 }, mode := ⟨.velocity, .velocity⟩ }
     let before := (c.setOutput 0 .left (o * 1e-20)).setOutput 0 .right (o * 1e-20)
     c.config.Sound ∧ ((before.touch (5 * Clock.millisecond)).rate == 0) = true ∧
      ¬ UnderflowingProduct o 1e-20 ∧ ¬ UnderflowingProduct before.spin c.config.degreesPerSecond) ∧
    (let c : Chassis := {}
     let before := (c.setOutput 0 .left (o * 1)).setOutput 0 .right (o * 1)
     c.config.Sound ∧ (before.heading - 90).abs < ((before.touch (2 * Clock.second)).heading - 90).abs) := by
  refine ⟨_, rfl, ⟨⟨by decide +kernel, by decide +kernel, by decide, by decide⟩, ?_, ?_, ?_⟩, ?_⟩
  · decide +kernel
  · unfold UnderflowingProduct
    decide +kernel
  · unfold UnderflowingProduct
    decide +kernel
  · exact ⟨⟨by decide, by decide, by decide, by decide⟩, by decide +kernel⟩

end Turn

end MatchRobot
