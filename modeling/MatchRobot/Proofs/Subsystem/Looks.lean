import MatchRobot.Proofs.Subsystem.Rest
import MatchRobot.Proofs.Subsystem.Sessions

/-!
# Looks at the sensors

A move or a turn looks at its sensors, drives for a period, looks again, and so on until a look ends it.
An `Aim` is the session of such a loop, a `Look` what it finds, and `Aim.ends` says which looks end it:
autonomous is over, the deadline has passed, or the goal is met. The two kinds of sessions ask for these
in different orders, and `Aim.cancelled` tells which answer comes of that.

A look that ends the loop stops the motors and answers (`Drivetrain.resume_of_ends`), and any other one
writes the outputs of its session and sleeps for a period (`Drivetrain.resume_of_quiet`).
-/

namespace MatchRobot

/-- The reply that the end of a session leads to. -/
def MoveEnd.reply : MoveEnd → Reply
  | reached | timedOut => .ok
  | cancelled => .error

namespace Drivetrain

/-! ### What a loop looks at -/

/-- The session of a loop. -/
inductive Aim
  | straight (drive : StraightDrive)
  | turn (turn : Turn)

/-- What a loop finds when it looks at the sensors and the mode flag. -/
structure Look where
  time : Micros
  inAuto : Bool
  /-- The counts of the right encoder. -/
  encoder : Int32
  heading : Float32
  /-- The factor from outputs between `-1` and `1` to what the motors expect. -/
  scale : Float32

namespace Aim

/-- The session that the drivetrain keeps in mind. -/
def session : Aim → Session
  | straight s => .straight s
  | turn t => .turning t

/-- The job of going on with the loop. -/
def job : Aim → Job
  | straight s => .driving s
  | turn t => .turning t

def deadline : Aim → Micros
  | straight s => s.deadline
  | turn t => t.deadline

/-- What the loop finds in a state; a straight drive reads the encoder before the gyro. -/
def look (a : Aim) (d : Drivetrain) (w : World) : Look where
  time := w.now
  inAuto := w.mode.inAuto
  encoder := (d.readEncoder w.now .right).1
  heading := match a with
    | straight _ => ((d.readEncoder w.now .right).2.readAngle w.now).1
    | turn _ => (d.readAngle w.now).1
  scale := (d.outputScale w.now).1

/-- Whether a look finds the goal met: the counts have come to the target, or the heading is within the
dead band of the angle. -/
def met (config : DriveConfig) (l : Look) : Aim → Bool
  | straight s => s.target.any fun target => (Single.ofInt32 l.encoder).abs ≥ target.abs
  | turn t => (l.heading - t.target).abs ≤ config.turnDeadBand

/-- Whether a look ends the loop. -/
def ends (config : DriveConfig) (a : Aim) (l : Look) : Bool :=
  !l.inAuto || decide (a.deadline ≤ l.time) || a.met config l

/-- Whether a look cancels the session, which a turn whose goal is met does not let happen. -/
def cancelled (config : DriveConfig) (a : Aim) (l : Look) : Bool :=
  !l.inAuto && match a with
    | straight _ => true
    | turn _ => !a.met config l

/-- The reply that the last look leads to. -/
def answer (config : DriveConfig) (a : Aim) (l : Look) : Reply :=
  if a.cancelled config l then .error else .ok

/-- What a look that does not end the loop writes to the motors. -/
def wheels (config : DriveConfig) (l : Look) : Aim → WheelOutputs
  | straight s => (Motion.straightOutputs s.speed
      (Motion.headingCorrection l.heading s.headingReference config.headingDivisor)).scaled l.scale
  | turn t =>
    let output := Motion.turnOutput (l.heading - t.target) config.minimumTurnSpeed
    ⟨output * l.scale, output * l.scale⟩

end Aim

/-! ### One look -/

section

variable {config : DriveConfig} {now : Micros} {inAuto : Bool} {encoder : Int32} {heading scale : Float32}

/-- A straight drive asks for outputs unless the look ends it. -/
lemma step_straight (s : StraightDrive) :
    (Aim.straight s).ends config ⟨now, inAuto, encoder, heading, scale⟩ = false ∧
        s.step config now inAuto encoder heading = .drive (Motion.straightOutputs s.speed
          (Motion.headingCorrection heading s.headingReference config.headingDivisor)) ∨
      (Aim.straight s).ends config ⟨now, inAuto, encoder, heading, scale⟩ = true ∧
        ∃ why, s.step config now inAuto encoder heading = .finished why ∧
          why.reply = (Aim.straight s).answer config ⟨now, inAuto, encoder, heading, scale⟩ := by
  have reached : s.isReached encoder = s.target.any fun target =>
      (Single.ofInt32 encoder).abs ≥ target.abs := by
    unfold StraightDrive.isReached
    cases s.target <;> simp
  simp only [Aim.ends, Aim.answer, Aim.cancelled, Aim.met, Aim.deadline, StraightDrive.step, reached]
  cases inAuto with
  | false => exact .inr ⟨rfl, .cancelled, rfl, rfl⟩
  | true =>
    by_cases late : s.deadline ≤ now
    · exact .inr ⟨by simp [late], .timedOut, by simp [late], rfl⟩
    · cases s.target.any fun target => decide ((Single.ofInt32 encoder).abs ≥ target.abs) with
      | true => exact .inr ⟨by simp, .reached, by simp [late], rfl⟩
      | false => exact .inl ⟨by simp [late], by simp [late]⟩

/-- A turn asks for an output unless the look ends it. -/
lemma step_turn (t : Turn) :
    (Aim.turn t).ends config ⟨now, inAuto, encoder, heading, scale⟩ = false ∧
        t.step config now inAuto heading =
          .drive (Motion.turnOutput (heading - t.target) config.minimumTurnSpeed) ∨
      (Aim.turn t).ends config ⟨now, inAuto, encoder, heading, scale⟩ = true ∧
        ∃ why, t.step config now inAuto heading = .finished why ∧
          why.reply = (Aim.turn t).answer config ⟨now, inAuto, encoder, heading, scale⟩ := by
  simp only [Aim.ends, Aim.answer, Aim.cancelled, Aim.met, Aim.deadline, Turn.step]
  by_cases near : (heading - t.target).abs ≤ config.turnDeadBand
  · exact .inr ⟨by simp [near], .reached, by simp [near], by simp [near, MoveEnd.reply]⟩
  · cases inAuto with
    | false => exact .inr ⟨rfl, .cancelled, by simp [near], by simp [near, MoveEnd.reply]⟩
    | true =>
      by_cases late : t.deadline ≤ now
      · exact .inr ⟨by simp [late], .timedOut, by simp [near, late], rfl⟩
      · exact .inl ⟨by simp [near, late], by simp [near, late]⟩

end

variable {a : Aim} {d e : Drivetrain} {w : World}

/-- Nobody else touches the session or writes a motor. -/
lemma watches_of_senses (h : Part.drivetrain.Senses d e) : Watches d e := by
  obtain ⟨⟨u, rfl⟩, same⟩ := h
  obtain ⟨left, rest⟩ := List.cons.inj same
  have right := (List.cons.inj rest).1
  refine ⟨rfl, ?_⟩
  calc u.chassis.output = ⟨u.chassis.output.left, u.chassis.output.right⟩ := rfl
    _ = ⟨d.chassis.output.left, d.chassis.output.right⟩ :=
      congrArg₂ Sides.mk left right

/-- Between two states, nothing changes that the factor for the outputs depends on. -/
structure Tuned (d e : Drivetrain) : Prop where
  config : e.config = d.config
  battery : e.battery = d.battery
  mode : e.chassis.mode = d.chassis.mode

lemma Tuned.trans {f : Drivetrain} (h : Tuned d e) (k : Tuned e f) : Tuned d f :=
  ⟨k.config.trans h.config, k.battery.trans h.battery, k.mode.trans h.mode⟩

lemma Tuned.scale (h : Tuned d e) (now : Micros) : (e.outputScale now).1 = (d.outputScale now).1 := by
  simp only [outputScale, Chassis.readMode, Chassis.mode_touch, h.config, h.battery, h.mode]

lemma tuned_readEncoder (d : Drivetrain) (now : Micros) (side : Side) :
    Tuned d (d.readEncoder now side).2 := by
  have mode := (inGear_readEncoder d now side).mode
  unfold readEncoder at mode ⊢
  cases working : d.encoders with
  | working => exact ⟨rfl, rfl, by simpa [working] using mode⟩
  | stuck n => exact ⟨rfl, rfl, rfl⟩

lemma tuned_zeroEncoder (d : Drivetrain) (now : Micros) (side : Side) :
    Tuned d (d.zeroEncoder now side) := by
  have mode := (inGear_zeroEncoder d now side).mode
  unfold zeroEncoder at mode ⊢
  cases working : d.encoders with
  | working => exact ⟨rfl, rfl, by simpa [working] using mode⟩
  | stuck n => exact ⟨rfl, rfl, rfl⟩

/-- An attempt to zero the encoders, with what the right one shows then. -/
def attempt (d : Drivetrain) (now : Micros) : Int32 × Drivetrain :=
  ((d.zeroEncoder now .left).zeroEncoder now .right).readEncoder now .right

lemma tuned_attempt (d : Drivetrain) (now : Micros) : Tuned d (d.attempt now).2 :=
  (tuned_zeroEncoder d now .left).trans
    ((tuned_zeroEncoder _ now .right).trans (tuned_readEncoder _ now .right))

lemma tuned_readAngle (d : Drivetrain) (now : Micros) : Tuned d (d.readAngle now).2 :=
  ⟨rfl, rfl, (inGear_readAngle d now).mode⟩

/-- One look of a straight drive, as the loop finds it. -/
lemma straightStep_eq (d : Drivetrain) (s : StraightDrive) (w : World) :
    (d.straightStep s w).1 = s.step d.config w.now w.mode.inAuto ((Aim.straight s).look d w).encoder
      ((Aim.straight s).look d w).heading := by
  have config : ((d.readEncoder w.now .right).2.readAngle w.now).2.config = d.config :=
    (tuned_readEncoder d w.now .right).config
  simp only [straightStep, Aim.look, config]

lemma tuned_straightStep (d : Drivetrain) (s : StraightDrive) (w : World) :
    Tuned d (d.straightStep s w).2 :=
  have read := tuned_readEncoder d w.now .right
  ⟨read.config, read.battery, (inGear_straightStep d s w).mode⟩

/-- The end of a session: it answers, and the drivetrain is idle with both motors at zero. -/
lemma stage_of_finish (d : Drivetrain) (why : MoveEnd) (now : Micros) (u : World) :
    ∃ e : Drivetrain, (replied (d.finish now why).1 (d.finish now why).2 u :
        Stage Job Reply Drivetrain) = replied why.reply e u ∧
      e.session = .idle ∧ e.config = d.config ∧ e.chassis.output = WheelOutputs.stop :=
  ⟨(d.finish now why).2, by cases why <;> rfl, rfl, rfl, output_drive _ now .stop⟩

/-- A look that ends a loop stops the motors and answers. -/
lemma resume_of_ends (ends : a.ends d.config (a.look d w) = true) :
    ∃ e u, d.resume a.job w = .ok (replied (a.answer d.config (a.look d w)) e u) ∧
      e.session = .idle ∧ e.config = d.config ∧ e.chassis.output = WheelOutputs.stop ∧
      u.now = w.now := by
  cases a with
  | straight s =>
    rcases step_straight s with ⟨quiet, -⟩ | ⟨-, why, step, reply⟩
    · exact absurd (quiet.symm.trans ends) nofun
    · have first := tuned_straightStep d s w
      have again := tuned_readEncoder (d.straightStep s w).2 w.now .right
      let u := w.notice (.straightEnded why ((d.straightStep s w).2.readEncoder w.now .right).1 s.target)
      obtain ⟨e, stage, idle, config, output⟩ := stage_of_finish
        ((d.straightStep s w).2.readEncoder w.now .right).2 why w.now u
      refine ⟨e, u, ?_, idle, config.trans (again.config.trans first.config), output, rfl⟩
      have stepped := (straightStep_eq d s w).trans step
      rw [Aim.look, ← reply, ← stage]
      simp only [resume, Aim.job, driveOn, stepped]
      rfl
  | turn t =>
    rcases step_turn t with ⟨quiet, -⟩ | ⟨-, why, step, reply⟩
    · exact absurd (quiet.symm.trans ends) nofun
    · let u := w.notice (.turnEnded why ((d.readAngle w.now).2.readAngle w.now).1)
      obtain ⟨e, stage, idle, config, output⟩ := stage_of_finish
        ((d.readAngle w.now).2.readAngle w.now).2 why w.now u
      refine ⟨e, u, ?_, idle, config, output, rfl⟩
      have found : t.step (d.readAngle w.now).2.config w.now w.mode.inAuto (d.readAngle w.now).1 =
          .finished why := step
      rw [Aim.look, ← reply, ← stage]
      simp only [resume, Aim.job, turnOn, found]
      rfl

/-- Any other look writes its outputs and sleeps for a period. -/
lemma resume_of_quiet (quiet : a.ends d.config (a.look d w) = false) :
    ∃ e : Drivetrain, d.resume a.job w = e.iterate a.job w ∧ e.session = d.session ∧
      e.config = d.config ∧ e.chassis.output = a.wheels d.config (a.look d w) := by
  cases a with
  | straight s =>
    rcases step_straight s with ⟨-, step⟩ | ⟨ends, -⟩
    · have tuned := tuned_straightStep d s w
      have stepped := inGear_straightStep d s w
      have found := (straightStep_eq d s w).trans step
      let outputs := Motion.straightOutputs s.speed (Motion.headingCorrection
        ((Aim.straight s).look d w).heading s.headingReference d.config.headingDivisor)
      refine ⟨(d.straightStep s w).2.driveScaled w.now outputs, ?_, stepped.session, tuned.config, ?_⟩
      · simp only [resume, Aim.job, driveOn, found]
        rfl
      · rw [driveScaled, output_drive, tuned.scale, Aim.wheels]
        rfl
    · exact absurd (quiet.symm.trans ends) nofun
  | turn t =>
    rcases step_turn t with ⟨-, step⟩ | ⟨ends, -⟩
    · have scale := (tuned_readAngle d w.now).scale w.now
      have found : t.step (d.readAngle w.now).2.config w.now w.mode.inAuto (d.readAngle w.now).1 = _ :=
        step
      let output := Motion.turnOutput ((d.readAngle w.now).1 - t.target) d.config.minimumTurnSpeed *
        ((d.readAngle w.now).2.outputScale w.now).1
      refine ⟨((d.readAngle w.now).2.outputScale w.now).2.drive w.now ⟨output, output⟩, ?_, rfl, rfl, ?_⟩
      · simp only [resume, Aim.job, turnOn, found]
        rfl
      · rw [output_drive, Aim.wheels, Aim.look, ← scale]
    · exact absurd (quiet.symm.trans ends) nofun

/-- A look comes to a fault exactly when it does not end the loop and the time of the next one is beyond
the clock. -/
lemma resume_eq_error_iff (a : Aim) (d : Drivetrain) (w : World) (fault : Fault) :
    d.resume a.job w = .error fault ↔ fault = .clockOverflow ∧
      a.ends d.config (a.look d w) = false ∧ Clock.limit ≤ w.now + d.config.iteratePeriod := by
  cases ends : a.ends d.config (a.look d w) with
  | true =>
    obtain ⟨e, u, done, -⟩ := resume_of_ends ends
    simp [done]
  | false =>
    obtain ⟨e, done, -, config, -⟩ := resume_of_quiet ends
    rw [done, ← config, and_iff_right rfl]
    exact bind_pure_eq_error_iff.trans Wait.sleepFor_eq_error_iff

/-- A session is not begun exactly if its deadline is beyond the clock. -/
lemma startDrive_eq_error_iff {config : DriveConfig} {speed : Float32} {goal : StraightGoal}
    {span now : Micros} {fault : Fault} : StraightDrive.start config speed goal span now = .error fault ↔
      fault = .clockOverflow ∧ Clock.limit ≤ now + span :=
  bind_pure_eq_error_iff.trans Clock.after_eq_error_iff

lemma startTurn_eq_error_iff {angle : Float32} {span now : Micros} {fault : Fault} :
    Turn.start angle span now = .error fault ↔
      fault = .clockOverflow ∧ Clock.limit ≤ now + span :=
  bind_pure_eq_error_iff.trans Clock.after_eq_error_iff

end Drivetrain

end MatchRobot
