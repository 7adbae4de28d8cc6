import MatchRobot.Proofs.Subsystem.Steady

/-!
# The sessions of the drivetrain

A move or a turn runs its session inside one cycle, and every way out of it leaves the drivetrain idle:
the goal is reached, time is up, autonomous is over, or the encoders cannot be zeroed. Only a timed move
goes on in later cycles. So a step of a timed move never finds another session
(`Drivetrain.sessions_of_run`).

Both motors change their control mode together, when the drivetrain hears of a mode and when a script
session begins, and at no other time.
-/

namespace MatchRobot

/-- A session that later cycles may find: none, or a timed move. -/
def Session.Lasts : Session → Prop
  | idle => True
  | straight s => s.target = none
  | turning _ => False

lemma Session.Lasts.cases {s : Session} (h : s.Lasts) :
    s = .idle ∨ ∃ drive, s = .straight drive ∧ drive.target = none := by
  cases s with
  | idle => exact .inl rfl
  | straight drive => exact .inr ⟨drive, rfl, h⟩
  | turning t => exact h.elim

/-- The control mode that a message puts the motors of the drivetrain in, if it does. -/
def Message.control? (m : Message) : Option ControlMode :=
  match m.command with
  | .state mode => some (if mode.inAuto then .velocity else .percent)
  | .auto .run => some .velocity
  | _ => none

lemma Message.control?_eq_velocity_iff {m : Message} : m.control? = some .velocity ↔
    m.command = .state .autonomous ∨ m.command = .auto .run := by
  unfold control?
  split
  · next mode news =>
    rw [news]
    cases mode <;> simp [Mode.inAuto]
  · next run => simp [run]
  · next other none =>
    constructor
    · intro h
      cases h
    · rintro (h | h)
      · exact absurd h (other _)
      · exact absurd h none

/-- The control mode that a deed leaves the motors in. -/
def Deed.control (m : ControlMode) : Deed → ControlMode
  | took x => x.control?.getD m
  | _ => m

/-- After some deeds, the motors are in the mode that the last message says that says anything of it. -/
lemma Deed.foldl_control (t : List Deed) (m : ControlMode) :
    t.foldl control m = ((taken t).reverse.findSome? Message.control?).getD m := by
  have same : control = latest Message.control? := by
    funext m d
    cases d <;> rfl
  rw [same, foldl_latest]

/-- The last of the messages that say anything of the control mode is the news of autonomous or begins a
script session. -/
def Message.AskForVelocity (ms : List Message) : Prop :=
  ∃ before x after, ms = before ++ x :: after ∧
    (x.command = .state .autonomous ∨ x.command = .auto .run) ∧ ∀ y ∈ after, y.control? = none

/-- Motors that start in percent are in velocity if the last message that says anything of it does so. -/
lemma Message.control_eq_velocity_iff {ms : List Message} :
    (ms.reverse.findSome? control?).getD .percent = .velocity ↔ AskForVelocity ms := by
  have said : (ms.reverse.findSome? control?).getD .percent = .velocity ↔
      ms.reverse.findSome? control? = some .velocity := by
    cases ms.reverse.findSome? control? <;> simp
  rw [said, List.findSome?_eq_some_iff, AskForVelocity]
  constructor
  · rintro ⟨after, x, before, split, velocity, quiet⟩
    refine ⟨before.reverse, x, after.reverse, ?_, control?_eq_velocity_iff.1 velocity, ?_⟩
    · rw [← List.reverse_reverse ms, split]
      simp
    · intro y hy
      exact quiet y (List.mem_reverse.1 hy)
  · rintro ⟨before, x, after, rfl, velocity, quiet⟩
    refine ⟨after.reverse, x, before.reverse, by simp, control?_eq_velocity_iff.2 velocity, ?_⟩
    intro y hy
    exact quiet y (List.mem_reverse.1 hy)

/-- No message asks for a control mode other than these two. -/
lemma Message.control_eq_percent_of_ne {ms : List Message}
    (h : (ms.reverse.findSome? control?).getD .percent ≠ .velocity) :
    (ms.reverse.findSome? control?).getD .percent = .percent := by
  cases said : ms.reverse.findSome? control? with
  | none => rfl
  | some c =>
    rw [said] at h
    obtain ⟨x, -, asks⟩ := List.exists_of_findSome?_eq_some said
    unfold control? at asks
    split at asks
    · next mode _ =>
      cases auto : mode.inAuto with
      | true =>
        rw [auto] at asks
        cases asks
        exact absurd rfl h
      | false =>
        rw [auto] at asks
        cases asks
        rfl
    · cases asks
      exact absurd rfl h
    · cases asks

namespace Drivetrain

/-! ### What changes neither the session nor the control mode -/

/-- Between two states of the drivetrain, the session and the control modes stay as they are. -/
structure InGear (d e : Drivetrain) : Prop where
  session : e.session = d.session
  mode : e.chassis.mode = d.chassis.mode

variable {d e f : Drivetrain} {now : Micros} {w : World} {stage : Stage Job Reply Drivetrain}

lemma InGear.trans (h : InGear d e) (k : InGear e f) : InGear d f :=
  ⟨k.session.trans h.session, k.mode.trans h.mode⟩

lemma inGear_readEncoder (d : Drivetrain) (now : Micros) (side : Side) :
    InGear d (d.readEncoder now side).2 := by
  unfold readEncoder Chassis.readEncoder
  cases d.encoders <;> cases side <;> exact ⟨rfl, by simp⟩

lemma inGear_zeroEncoder (d : Drivetrain) (now : Micros) (side : Side) :
    InGear d (d.zeroEncoder now side) := by
  unfold zeroEncoder Chassis.setEncoder
  cases d.encoders <;> cases side <;> exact ⟨rfl, by simp⟩

lemma inGear_readAngle (d : Drivetrain) (now : Micros) : InGear d (d.readAngle now).2 :=
  ⟨rfl, Chassis.mode_touch _ _⟩

lemma inGear_zeroGyro (d : Drivetrain) (now : Micros) : InGear d (d.zeroGyro now) :=
  ⟨rfl, Chassis.mode_touch _ _⟩

lemma inGear_drive (d : Drivetrain) (now : Micros) (x : WheelOutputs) :
    InGear d (d.drive now x) :=
  ⟨rfl, by simp [drive, Chassis.setOutput]⟩

lemma inGear_stopMotors (d : Drivetrain) (now : Micros) : InGear d (d.stopMotors now) :=
  (inGear_drive d now .stop).trans (inGear_drive _ now .stop)

lemma inGear_outputScale (d : Drivetrain) (now : Micros) : InGear d (d.outputScale now).2 :=
  ⟨rfl, Chassis.mode_touch _ _⟩

lemma inGear_driveScaled (d : Drivetrain) (now : Micros) (x : WheelOutputs) :
    InGear d (d.driveScaled now x) :=
  (inGear_outputScale d now).trans (inGear_drive _ now _)

lemma inGear_position (d : Drivetrain) (now : Micros) : InGear d (d.position now).2 := by
  refine (inGear_readEncoder d now .left).trans ((inGear_readEncoder _ now .right).trans ⟨rfl, ?_⟩)
  exact (Chassis.mode_touch _ _).trans (Chassis.mode_touch _ _)

lemma inGear_steer {write : Bool} (done : d.steer now write = .ok e) : InGear d e := by
  obtain ⟨⟨o, steering⟩, -, done⟩ := bind_eq_ok.1 done
  have position : InGear d { (d.position now).2 with steering := steering } :=
    ⟨(inGear_position d now).session, (inGear_position d now).mode⟩
  cases done
  split
  · exact position.trans (inGear_drive _ now _)
  · exact position

lemma inGear_straightStep (d : Drivetrain) (s : StraightDrive) (w : World) :
    InGear d (d.straightStep s w).2 :=
  (inGear_readEncoder d w.now .right).trans (inGear_readAngle _ w.now)

/-- The end of a cycle. -/
lemma inGear_settle (done : d.settle w = .ok stage) :
    stage.1 = .finished .ok ∧ InGear d stage.2.1 := by
  unfold settle at done
  split at done
  · obtain ⟨e, steered, done⟩ := bind_eq_ok.1 done
    cases done
    exact ⟨rfl, inGear_steer steered⟩
  · cases done
    exact ⟨rfl, rfl, rfl⟩

/-! ### Jobs -/

/-- The session of a job; a move has none before its encoders stand at zero. -/
def Job.session : Job → Session
  | zeroing .. | settling _ => .idle
  | driving s => .straight s
  | turning t => .turning t

/-- Both motors are in one control mode, and work has led to a job with its session or to an end that
leaves no session that could not last. -/
structure Poised (m : ControlMode) (stage : Stage Job Reply Drivetrain) : Prop where
  mode : stage.2.1.chassis.mode = ⟨m, m⟩
  session : stage.1.Leads (fun job => stage.2.1.session = job.session) fun _ =>
    stage.2.1.session.Lasts

variable {m : ControlMode}

lemma poised_settle (mode : d.chassis.mode = ⟨m, m⟩) (lasts : d.session.Lasts)
    (done : d.settle w = .ok stage) : Poised m stage := by
  obtain ⟨progress, e, u⟩ := stage
  obtain ⟨rfl, settled⟩ := inGear_settle done
  refine ⟨settled.mode.trans mode, ?_⟩
  have same : e.session = d.session := settled.session
  change e.session.Lasts
  rw [same]
  exact lasts

lemma poised_iterate (job : Job) (mode : d.chassis.mode = ⟨m, m⟩) (session : d.session = job.session)
    (done : d.iterate job w = .ok stage) : Poised m stage := by
  obtain ⟨wait, -, done⟩ := bind_eq_ok.1 done
  cases done
  exact ⟨mode, session⟩

/-- A session that is over leaves the drivetrain idle. -/
lemma poised_finish (mode : d.chassis.mode = ⟨m, m⟩) (why : MoveEnd) :
    Poised m (replied (d.finish now why).1 (d.finish now why).2 w) :=
  ⟨(inGear_stopMotors d now).mode.trans mode, trivial⟩

lemma poised_driveOn {s : StraightDrive} (mode : d.chassis.mode = ⟨m, m⟩)
    (session : d.session = .straight s) (done : d.driveOn s w = .ok stage) : Poised m stage := by
  have stepped := inGear_straightStep d s w
  unfold driveOn at done
  simp only at done
  split at done
  · next outputs _ =>
    have driven := stepped.trans (inGear_driveScaled _ w.now outputs)
    exact poised_iterate (.driving s) (driven.mode.trans mode) (driven.session.trans session) done
  · next why _ =>
    have read := stepped.trans (inGear_readEncoder _ w.now .right)
    cases done
    exact poised_finish (read.mode.trans mode) why

lemma poised_turnOn {t : Turn} (mode : d.chassis.mode = ⟨m, m⟩) (session : d.session = .turning t)
    (done : d.turnOn t w = .ok stage) : Poised m stage := by
  have read := inGear_readAngle d w.now
  unfold turnOn at done
  simp only at done
  split at done
  · next output _ =>
    have driven := read.trans ((inGear_outputScale _ w.now).trans (inGear_drive _ w.now
      ⟨output * ((d.readAngle w.now).2.outputScale w.now).1,
        output * ((d.readAngle w.now).2.outputScale w.now).1⟩))
    exact poised_iterate (.turning t) (driven.mode.trans mode) (driven.session.trans session) done
  · next why _ =>
    have again := read.trans (inGear_readAngle _ w.now)
    cases done
    exact poised_finish (again.mode.trans mode) why

lemma poised_startStraight {params : MoveParams} {goal : StraightGoal}
    (mode : d.chassis.mode = ⟨m, m⟩) (done : d.startStraight params goal w = .ok stage) :
    Poised m stage := by
  obtain ⟨s, -, done⟩ := bind_eq_ok.1 done
  exact poised_driveOn (d := { d with session := .straight s }) mode rfl done

/-- A move that is given up leaves the drivetrain idle. -/
lemma poised_refuseMove (mode : d.chassis.mode = ⟨m, m⟩) (w : World) : Poised m (d.refuseMove w) :=
  ⟨(inGear_stopMotors d w.now).mode.trans mode, trivial⟩

lemma poised_startMove {params : MoveParams} {proximity : Bool} (mode : d.chassis.mode = ⟨m, m⟩)
    (idle : d.session = .idle) (done : d.startMove params proximity w = .ok stage) :
    Poised m stage := by
  have zeroed := inGear_zeroGyro d w.now
  unfold startMove at done
  simp only at done
  split at done
  · obtain ⟨wait, -, done⟩ := bind_eq_ok.1 done
    cases done
    exact ⟨zeroed.mode.trans mode, zeroed.session.trans idle⟩
  · exact poised_startStraight (zeroed.mode.trans mode) done

lemma poised_zeroEncoders {attempts : Nat} {params : MoveParams} {proximity : Bool}
    (mode : d.chassis.mode = ⟨m, m⟩) (idle : d.session = .idle)
    (done : d.zeroEncoders attempts params proximity w = .ok stage) : Poised m stage := by
  cases attempts with
  | zero =>
    cases done
    exact poised_refuseMove mode w
  | succ attempts =>
    have zeroed := (inGear_zeroEncoder d w.now .left).trans ((inGear_zeroEncoder _ w.now .right).trans
      (inGear_readEncoder _ w.now .right))
    unfold zeroEncoders at done
    simp only at done
    split at done
    · exact poised_startMove (zeroed.mode.trans mode) (zeroed.session.trans idle) done
    · split at done
      · exact poised_iterate (.zeroing attempts params proximity) (zeroed.mode.trans mode)
          (zeroed.session.trans idle) done
      · cases done
        exact poised_refuseMove (zeroed.mode.trans mode) w

lemma poised_startTurn {angle timeout : Float32} (mode : d.chassis.mode = ⟨m, m⟩)
    (done : d.startTurn angle timeout w = .ok stage) : Poised m stage := by
  have zeroed := inGear_zeroGyro d w.now
  obtain ⟨t, -, done⟩ := bind_eq_ok.1 done
  exact poised_turnOn (d := { d.zeroGyro w.now with session := .turning t })
    (zeroed.mode.trans mode) rfl done

lemma poised_resume {job : Job} (mode : d.chassis.mode = ⟨m, m⟩) (session : d.session = job.session)
    (done : d.resume job w = .ok stage) : Poised m stage := by
  cases job with
  | zeroing attempts params proximity => exact poised_zeroEncoders mode session done
  | settling params => exact poised_startStraight mode done
  | driving s => exact poised_driveOn mode session done
  | turning t => exact poised_turnOn mode session done

/-! ### Commands -/

/-- A timed move is a session without a target. -/
lemma poised_startTimed {speed time : Float32} (mode : d.chassis.mode = ⟨m, m⟩)
    (done : (do let d ← d.startTimed speed time w; d.settle w) = .ok stage) : Poised m stage := by
  obtain ⟨e, started, done⟩ := bind_eq_ok.1 done
  obtain ⟨s, drive, started⟩ := bind_eq_ok.1 started
  obtain ⟨deadline, -, timed⟩ := bind_eq_ok.1 drive
  cases timed
  cases started
  have untargeted : Session.Lasts (.straight
      { speed := speed, target := none, headingReference := 0, deadline := deadline }) := rfl
  have zeroed := (inGear_zeroGyro d w.now).mode.trans mode
  refine poised_settle ?_ ?_ done
  · exact zeroed
  · exact untargeted

lemma poised_obey {c : DriveCommand} (mode : d.chassis.mode = ⟨m, m⟩)
    (done : d.obey c w = .ok stage) : Poised m stage := by
  cases c with
  | stop | tank left right =>
    have driven := inGear_drive { d with session := .idle } w.now
    exact poised_settle ((driven _).mode.trans mode) trivial done
  | autoMove left right =>
    have driven := inGear_driveScaled { d with session := .idle } w.now ⟨left, right⟩
    exact poised_settle (driven.mode.trans mode) trivial done
  | cheesy wheel throttle quickturn =>
    obtain ⟨e, steered, done⟩ := bind_eq_ok.1 done
    have still := inGear_steer steered
    have idle : e.session = .idle := still.session
    cases done
    refine ⟨still.mode.trans mode, ?_⟩
    change e.session.Lasts
    rw [idle]
    trivial
  | measuredMove params | proximityMove params =>
    exact poised_zeroEncoders (d := { d with session := .idle }) mode rfl done
  | timedMove speed time => exact poised_startTimed mode done
  | turn angle timeout => exact poised_startTurn (d := { d with session := .idle }) mode done

/-- A step of a timed move goes on with it or ends it. -/
lemma lasts_iterateTimed (lasts : d.session.Lasts) (w : World) :
    (d.iterateTimed w).1.session.Lasts ∧ (d.iterateTimed w).1.chassis.mode = d.chassis.mode := by
  unfold iterateTimed
  split
  · next s session =>
    have stepped := inGear_straightStep d s w
    simp only
    split
    · next outputs _ =>
      have driven := stepped.trans (inGear_driveScaled _ w.now outputs)
      exact ⟨by rw [driven.session]; exact lasts, driven.mode⟩
    · next why _ => exact ⟨trivial, (inGear_stopMotors _ w.now).mode.trans stepped.mode⟩
  · exact ⟨lasts, rfl⟩

/-- Both motors change to the same mode. -/
lemma mode_setMode (d : Drivetrain) (now : Micros) (m : ControlMode) :
    (d.setMode now m).chassis.mode = ⟨m, m⟩ := by
  simp [setMode, Chassis.setMode, Sides.set]

lemma poised_handle {x : Message} (news : x.isMode = false) (mode : d.chassis.mode = ⟨m, m⟩)
    (lasts : d.session.Lasts) (done : d.handle x.command w = .ok stage) :
    Poised (Deed.control m (.took x)) stage := by
  unfold Message.isMode at news
  unfold handle at done
  simp only [Deed.control, Message.control?]
  split at done
  · next command =>
    rw [command]
    exact poised_obey mode done
  · next command =>
    have begun : (d.beginSession w).1.chassis.mode = ⟨.velocity, .velocity⟩ :=
      (inGear_zeroGyro _ w.now).mode.trans ((inGear_drive _ w.now .stop).mode.trans
        (mode_setMode _ w.now .velocity))
    rw [command]
    exact poised_settle begun (by exact trivial) done
  · next command =>
    have stopped : (d.completeSession w).1.chassis.mode = ⟨m, m⟩ :=
      (inGear_stopMotors _ w.now).mode.trans mode
    rw [command]
    exact poised_settle stopped (by exact trivial) done
  · next battery command =>
    rw [command]
    exact poised_settle (d := { d with battery := battery }) mode lasts done
  · next command =>
    rw [command]
    obtain ⟨later, same⟩ := lasts_iterateTimed lasts w
    exact poised_settle (same.trans mode) later done
  · next other run _ _ _ =>
    split
    · next new command =>
      rw [command] at news
      cases news
    · next command => exact absurd command run
    · exact poised_settle mode lasts done

/-! ### Cycles -/

/-- What is known of the drivetrain: both motors are in the mode that was asked for last, and a session
that is under way between two messages is a timed move. -/
def ledger : Ledger Drivetrain ControlMode where
  note := Deed.control
  rest m d := d.chassis.mode = ⟨m, m⟩ ∧ d.session.Lasts
  busy m job d := d.chassis.mode = ⟨m, m⟩ ∧ d.session = job.session

/-- What the surroundings may do to the drivetrain: whatever they like to its devices, except that nobody
else changes the control mode of a motor. -/
def Shaken (d e : Drivetrain) : Prop :=
  (∃ u, e = Subsystem.attach d u) ∧ e.chassis.mode = d.chassis.mode

lemma Poised.leads (h : Poised m stage) :
    stage.1.Leads (fun job => ledger.busy m job stage.2.1) fun _ => ledger.rest m stage.2.1 := by
  obtain ⟨progress, e, u⟩ := stage
  cases progress with
  | waiting wait job => exact ⟨h.mode, h.session⟩
  | finished reply => exact ⟨h.mode, h.session⟩

/-- Hearing of a mode ends every session and sets both motors. -/
lemma rest_enter (x : Message) {mode : Mode} (d : Drivetrain) (w : World)
    (news : x.command = .state mode) :
    ledger.rest (Deed.control m (.took x)) (d.enter mode w) := by
  have said : x.control? = some (if mode.inAuto then .velocity else .percent) := by
    simp [Message.control?, news]
  simp only [Deed.control, said, Option.getD_some]
  unfold enter
  cases mode.inAuto with
  | true =>
    exact ⟨(inGear_zeroGyro _ w.now).mode.trans ((inGear_drive _ w.now .stop).mode.trans
      (mode_setMode _ w.now .velocity)), trivial⟩
  | false => exact ⟨(inGear_drive _ w.now .stop).mode.trans (mode_setMode _ w.now .percent), trivial⟩

lemma steady : Subsystem.Steady ledger Shaken fun _ => False where
  posted := rfl
  quiet := rfl
  enter w news _ := ⟨_, _, rfl, rest_enter _ _ w news⟩
  check := by
    rintro m d w ⟨mode, lasts⟩
    have watched := inGear_position d w.now
    have session : (Subsystem.check d w).2.1.session = d.session := watched.session
    exact ⟨watched.mode.trans mode, by rw [session]; exact lasts⟩
  refuse m h tripped := nomatch tripped
  handle news h done := (poised_handle news h.1 h.2 done).leads
  resume h done := (poised_resume h.1 h.2 done).leads
  sweep h := h.elim
  sense := by
    rintro m d - ⟨mode, lasts⟩ ⟨⟨e, rfl⟩, same⟩
    exact ⟨same.trans mode, lasts⟩
  feel := by
    rintro m d - job ⟨mode, session⟩ ⟨⟨e, rfl⟩, same⟩
    exact ⟨same.trans mode, session⟩

/-- Whenever the drivetrain is not in the middle of a message, it is idle or at a timed move, whatever
messages it has taken; in the middle of one, its session is that of the job. Both motors are always in
one control mode, the one that the last news of a mode or the last begin of a script session asks for. -/
theorem sessions_of_run {r : Runner Drivetrain} {w : World} {m : ControlMode}
    {first b : Stage (Cycle Job) Empty (Runner Drivetrain)} {t : List Deed}
    (idle : r.subsystem.session = .idle) (same : r.subsystem.chassis.mode = ⟨m, m⟩)
    (begun : Cycle.start r w = .ok first)
    (run : (Cycle.routine Drivetrain).Run (Cycle.Sensed Shaken) first t b) :
    (∃ wait c, b.1 = .waiting wait c ∧
      (Cycle.Calm c → b.2.1.subsystem.session = .idle ∨
        ∃ s, b.2.1.subsystem.session = .straight s ∧ s.target = none) ∧
      (¬ Cycle.Calm c → ∃ x job, c = .handling x job ∧ b.2.1.subsystem.session = job.session)) ∧
    ∃ g, b.2.1.subsystem.chassis.mode = ⟨g, g⟩ ∧
      g = ((Deed.taken t).reverse.findSome? Message.control?).getD m ∧
      (m = .percent → (g = .velocity ↔ Message.AskForVelocity (Deed.taken t)) ∧
        (g ≠ .velocity → g = .percent)) := by
  obtain ⟨progress, r', w'⟩ := first
  obtain ⟨rfl, rfl, limit, rfl⟩ := Cycle.start_eq_ok begun
  have fresh : ledger.rest m r'.subsystem := by
    refine ⟨same, ?_⟩
    rw [idle]
    trivial
  have kept : Cycle.Kept ledger (t.foldl Deed.control m) b := by
    refine Cycle.kept_of_run Drivetrain.modest steady run ?_ ⟨_, _, rfl, fresh⟩
    intro wait c h
    cases h
    exact .listening
  rw [Deed.foldl_control] at kept
  obtain ⟨wait, c, at_, holds⟩ := kept
  constructor
  · refine ⟨wait, c, at_, fun calm => ?_, fun busy => ?_⟩
    · cases c with
      | listening | replying => exact holds.2.cases
      | entering | handling => exact calm.elim
    · cases c with
      | listening | replying => exact absurd trivial busy
      | entering => exact holds.elim
      | handling x job => exact ⟨x, job, rfl, holds.2⟩
  · refine ⟨_, ?_, rfl, ?_⟩
    · cases c with
      | entering => exact holds.elim
      | listening | replying | handling => exact holds.1
    · rintro rfl
      exact ⟨Message.control_eq_velocity_iff, Message.control_eq_percent_of_ne⟩

/-- A drivetrain that has heard of autonomous is in velocity, and a timed move outlasts its cycle. -/
theorem timed_move_lasts : ∃ first t b, Cycle.start (⟨{}, 0⟩ : Runner Drivetrain) {} = .ok first ∧
    (Cycle.routine Drivetrain).Run (Cycle.Sensed Shaken) first t b ∧
    (∃ s, b.2.1.subsystem.session = .straight s ∧ s.target = none) ∧
    ∃ g, b.2.1.subsystem.chassis.mode = ⟨g, g⟩ ∧
      (g = .velocity ↔ Message.AskForVelocity (Deed.taken t)) := by
  have played : ((Cycle.start (⟨{}, 0⟩ : Runner Drivetrain) {}).toOption.any fun first =>
      ((Cycle.routine Drivetrain).play
        [Part.deliver .drivetrain { command := .state .autonomous }, .look,
          Part.deliver .drivetrain { command := .drive (.timedMove 0.5 1) }, .look] first).any
        fun x => !x.2.2.1.subsystem.session.isIdle &&
          match x.2.1 with | .waiting _ .listening => true | _ => false) = true := by
    decide +kernel
  obtain ⟨first, t, b, begun, run, passed⟩ :=
    Routine.exists_run_of_begun (Cycle.Sensed Shaken) played fun change h x => by
      simp only [Part.deliver, List.mem_cons, reduceCtorEq, Routine.Move.around.injEq,
        List.not_mem_nil, or_false, false_or] at h
      rcases h with rfl | rfl <;> exact ⟨⟨_, (Subsystem.attach_self _).symm⟩, rfl⟩
  obtain ⟨⟨wait, c, at_, boundary, -⟩, g, mode, -, last⟩ := sessions_of_run rfl rfl begun run
  obtain ⟨busy, listening⟩ := Bool.and_eq_true_iff.1 passed
  refine ⟨first, t, b, begun, run, ?_, g, mode, (last rfl).1⟩
  have calm : Cycle.Calm c := by
    rw [at_] at listening
    cases c with
    | listening => trivial
    | _ => cases listening
  rcases boundary calm with idle | timed
  · rw [idle] at busy
    cases busy
  · exact timed

end Drivetrain

end MatchRobot
