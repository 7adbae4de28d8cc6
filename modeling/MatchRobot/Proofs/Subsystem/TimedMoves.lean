import MatchRobot.Proofs.Number.Single
import MatchRobot.Proofs.Subsystem.Looks

/-!
# Timed moves

A timed move is the one session that outlasts its cycle. It goes on in quiet cycles only: a quiet cycle
looks at the clock and the mode flag, and either writes the outputs anew or ends the move. The news of a
mode and the messages that begin or complete a script session end it too, whatever the time is.

Every other message leaves it as it is (`Drivetrain.ignores`), also when its time is long over or
autonomous is. So a drivetrain that hears something else in every cycle does not stop
(`Drivetrain.timed_move_of_run`), and one report of the battery voltage is enough for a cycle that ends
after the time of the move with both motors running (`Drivetrain.report_prolongs_timed_move`).
-/

namespace MatchRobot

namespace Drivetrain

variable {d e : Drivetrain} {w : World}

/-! ### The end of a cycle -/

/-- A battery voltage that the outputs of the steering filter cannot be limited to. -/
def Unsound (volts : Float32) : Prop :=
  volts.isNaN = true ∨ volts < 0

lemma unsound_iff (volts : Float32) :
    Unsound volts ↔ Single.clampable (-volts) volts = false := by
  rw [← Bool.not_eq_true, Single.clampable_neg_iff, Unsound]
  cases volts.isNaN <;> simp

lemma tuned_position (d : Drivetrain) (now : Micros) : Tuned d (d.position now).2 := by
  have read := (tuned_readEncoder d now .left).trans (tuned_readEncoder _ now .right)
  exact ⟨read.config, read.battery, (inGear_position d now).mode⟩

/-- Nothing comes of the steering filter for an unsound voltage. -/
lemma steer_of_unsound {now : Micros} {write : Bool} (unsound : Unsound d.battery) :
    d.steer now write = .error .emptyInterval := by
  have known : (d.position now).1.battery = d.battery :=
    ((tuned_readEncoder d now .left).trans (tuned_readEncoder _ now .right)).battery
  rw [unsound_iff] at unsound
  simp [steer, Steering.update, Steering.updateBy, known, unsound, bind, Except.bind]

/-- With any other voltage the filter is fed; without a request nothing is written. -/
lemma exists_steer (now : Micros) (write : Bool) (sound : ¬ Unsound d.battery) :
    ∃ e, d.steer now write = .ok e ∧ e.config = d.config ∧ e.battery = d.battery ∧
      (write = false → Watches d e) := by
  have known : (d.position now).1.battery = d.battery :=
    ((tuned_readEncoder d now .left).trans (tuned_readEncoder _ now .right)).battery
  have watched := watches_position d now
  have tuned := tuned_position d now
  rw [unsound_iff, Bool.not_eq_false] at sound
  simp only [steer, Steering.update, Steering.updateBy, known, sound, if_true]
  refine ⟨_, rfl, ?_, ?_, ?_⟩
  · cases write <;> exact tuned.config
  · cases write <;> exact tuned.battery
  · rintro rfl
    exact ⟨watched.session, watched.output⟩

/-- A cycle that ends without a session feeds the filter, so it needs a sound voltage. -/
lemma settle_of_unsound (idle : d.session.isIdle = true) (unsound : Unsound d.battery) :
    d.settle w = .error .emptyInterval := by
  simp [settle, idle, steer_of_unsound unsound, bind, Except.bind]

/-- Any other end of a cycle answers, and neither writes a motor nor touches the session. -/
lemma exists_settle (w : World) (sound : d.session.isIdle = true → ¬ Unsound d.battery) :
    ∃ e, d.settle w = .ok (replied .ok e w) ∧ Watches d e ∧ e.config = d.config ∧
      e.battery = d.battery := by
  unfold settle
  cases idle : d.session.isIdle with
  | false => exact ⟨d, rfl, ⟨rfl, rfl⟩, rfl, rfl⟩
  | true =>
    obtain ⟨e, steered, config, battery, watched⟩ := exists_steer w.now false (sound idle)
    refine ⟨e, ?_, watched rfl, config, battery⟩
    simp [steered, bind, Except.bind, pure, Except.pure]

lemma watches_of_settle {stage : Stage Job Reply Drivetrain} (done : d.settle w = .ok stage) :
    Watches d stage.2.1 := by
  by_cases sound : d.session.isIdle = true → ¬ Unsound d.battery
  · obtain ⟨e, settled, watched, -⟩ := exists_settle w sound
    cases settled.symm.trans done
    exact watched
  · obtain ⟨idle, unsound⟩ := Classical.not_imp.1 sound
    cases (settle_of_unsound idle (not_not.1 unsound)).symm.trans done

/-- Messages of other families are handled at once. -/
lemma finished_of_handle {c : Command} {stage : Stage Job Reply Drivetrain}
    (other : Part.drivetrain.owns c = false) (done : d.handle c w = .ok stage) :
    stage.1 = .finished .ok := by
  unfold handle at done
  split at done
  · cases other
  all_goals exact (inGear_settle done).1

/-! ### A timed move and the messages -/

/-- Whether the time of a move is over, or autonomous is. -/
def timeUp (s : StraightDrive) (w : World) : Bool :=
  !w.mode.inAuto || decide (s.deadline ≤ w.now)

/-- Whether a timed move is over after a cycle that takes up a command of another family. -/
def endsTimed (c : Command) (s : StraightDrive) (w : World) : Bool :=
  match c with
  | .state _ | .auto .run | .auto .complete => true
  | .system .msgTimeout => timeUp s w
  | _ => false

/-- Whether a timed move takes no notice of a command at all. -/
def ignores : Command → Bool
  | .state _ | .auto .run | .auto .complete | .system .msgTimeout | .drive _ => false
  | _ => true

/-- What a cycle makes of a timed move. -/
structure Went (c : Command) (s : StraightDrive) (w : World) (d e : Drivetrain) : Prop where
  ends : endsTimed c s w = true → e.session = .idle ∧ e.chassis.output = WheelOutputs.stop
  lasts : endsTimed c s w = false → e.session = .straight s
  /-- A quiet cycle that does not end the move writes the outputs of a look at the sensors. -/
  advances : c.isTimeout = true → endsTimed c s w = false →
    ∃ l : Look, l.time = w.now ∧ e.chassis.output = (Aim.straight s).wheels d.config l
  ignored : ignores c = true → e.chassis.output = d.chassis.output

variable {s : StraightDrive}

lemma lasts_of_ignores {c : Command} (h : ignores c = true) : endsTimed c s w = false := by
  unfold endsTimed
  split <;> first | rfl | cases h

/-- The step of a timed move in a quiet cycle. -/
lemma iterateTimed_cases (moving : d.session = .straight s) (timed : s.target = none) (w : World) :
    (d.iterateTimed w).1.config = d.config ∧ (d.iterateTimed w).1.battery = d.battery ∧
      (d.iterateTimed w).2.now = w.now ∧
      (timeUp s w = true → (d.iterateTimed w).1.session = .idle ∧
        (d.iterateTimed w).1.chassis.output = WheelOutputs.stop) ∧
      (timeUp s w = false → (d.iterateTimed w).1.session = .straight s ∧
        ∃ l : Look, l.time = w.now ∧
          (d.iterateTimed w).1.chassis.output = (Aim.straight s).wheels d.config l) := by
  have stepped := inGear_straightStep d s w
  have tuned := tuned_straightStep d s w
  have ends : (Aim.straight s).ends d.config ((Aim.straight s).look d w) = timeUp s w := by
    have unmet : (Aim.straight s).met d.config ((Aim.straight s).look d w) = false := by
      simp [Aim.met, timed]
    rw [Aim.ends, unmet, Bool.or_false]
    rfl
  rcases step_straight s with ⟨quiet, step⟩ | ⟨done, why, step, -⟩
  · let outputs := Motion.straightOutputs s.speed (Motion.headingCorrection
      ((Aim.straight s).look d w).heading s.headingReference d.config.headingDivisor)
    have found : (d.straightStep s w).1 = .drive outputs := (straightStep_eq d s w).trans step
    have up : timeUp s w = false := ends.symm.trans quiet
    have iterated : d.iterateTimed w = ((d.straightStep s w).2.driveScaled w.now outputs, w) := by
      simp only [iterateTimed, moving, found]
    rw [iterated, up]
    refine ⟨tuned.config, tuned.battery, rfl, fun h => absurd h Bool.false_ne_true, fun _ =>
      ⟨stepped.session.trans moving, (Aim.straight s).look d w, rfl, ?_⟩⟩
    rw [driveScaled, output_drive, tuned.scale, Aim.wheels]
    rfl
  · have found := (straightStep_eq d s w).trans step
    have up : timeUp s w = true := ends.symm.trans done
    have iterated : d.iterateTimed w =
        (((d.straightStep s w).2.finish w.now why).2, w.notice (.timedEnded why)) := by
      simp only [iterateTimed, moving, found]
    rw [iterated, up]
    exact ⟨tuned.config, tuned.battery, rfl, fun _ => ⟨rfl, output_drive _ w.now .stop⟩,
      fun h => absurd h.symm Bool.false_ne_true⟩

/-- A cycle that ends a timed move. -/
lemma went_of_ends {c : Command} (done : endsTimed c s w = true) (idle : e.session = .idle)
    (stopped : e.chassis.output = WheelOutputs.stop) : Went c s w d e where
  ends _ := ⟨idle, stopped⟩
  lasts h := absurd (h.symm.trans done) Bool.false_ne_true
  advances _ h := absurd (h.symm.trans done) Bool.false_ne_true
  ignored h := absurd ((lasts_of_ignores h).symm.trans done) Bool.false_ne_true

/-- A message of another family that is no mode ends a timed move or not, and with that the cycle
settles. -/
lemma exists_handle {c : Command} (moving : d.session = .straight s) (timed : s.target = none)
    (other : Part.drivetrain.owns c = false) (news : ∀ mode, c ≠ .state mode) (w : World) :
    ∃ e u, d.handle c w = e.settle u ∧ u.now = w.now ∧ e.config = d.config ∧ Went c s w d e ∧
      (endsTimed c s w = true → e.battery = d.battery) := by
  unfold handle
  split
  · cases other
  · have stopped : (d.beginSession w).1.chassis.output = WheelOutputs.stop := by
      simp only [beginSession, zeroGyro, Chassis.zeroGyro, Chassis.output_touch, output_drive]
    exact ⟨_, _, rfl, rfl, rfl, went_of_ends rfl rfl stopped, fun _ => rfl⟩
  · have stopped := output_drive ({ d with session := .idle }.drive w.now .stop) w.now .stop
    exact ⟨_, _, rfl, rfl, rfl, went_of_ends rfl rfl stopped, fun _ => rfl⟩
  · refine ⟨_, w, rfl, rfl, rfl, ⟨fun h => ?_, fun _ => moving, fun h => ?_, fun _ => rfl⟩, fun h => ?_⟩
    · simp [endsTimed] at h
    · simp [Command.isTimeout] at h
    · simp [endsTimed] at h
  · obtain ⟨config, battery, now, up, on⟩ := iterateTimed_cases moving timed w
    refine ⟨_, _, rfl, now, config, ⟨up, fun h => (on h).1, fun _ h => (on h).2, fun h => ?_⟩,
      fun _ => battery⟩
    simp [ignores] at h
  · next drive run complete constants quiet =>
    have on : endsTimed c s w ≠ true := by
      unfold endsTimed
      split
      · next mode => exact absurd rfl (news mode)
      · exact absurd rfl run
      · exact absurd rfl complete
      · exact absurd rfl quiet
      · exact Bool.false_ne_true
    have busy : c.isTimeout ≠ true := by
      unfold Command.isTimeout
      split
      · exact absurd rfl quiet
      · exact Bool.false_ne_true
    exact ⟨d, w, rfl, rfl, rfl, ⟨fun h => absurd h on, fun _ => moving, fun h => absurd h busy,
      fun _ => rfl⟩, fun h => absurd h on⟩

/-! ### A cycle -/

/-- The safety check of the drivetrain looks at its sensors, and never cuts the power. -/
lemma exists_inspect (r : Runner Drivetrain) (w : World) :
    ∃ e u, Cycle.inspect r w = (false, { r with subsystem := e }, u) ∧ Watches r.subsystem e ∧
      Tuned r.subsystem e ∧ u.now = w.now ∧ u.mode = w.mode := by
  unfold Cycle.inspect
  split
  · exact ⟨_, _, rfl, watches_position _ w.now, tuned_position _ w.now, rfl, rfl⟩
  · exact ⟨_, w, rfl, ⟨rfl, rfl⟩, ⟨rfl, rfl, rfl⟩, rfl, rfl⟩

/-- So a message that is taken up is handled. -/
lemma exists_treat (x : Message) (r : Runner Drivetrain) (w : World) :
    ∃ e u, Cycle.treat x r w = (do
        let stage ← e.handle x.command u
        return Cycle.handled { r with subsystem := e } stage) ∧
      Watches r.subsystem e ∧ Tuned r.subsystem e ∧ u.now = w.now ∧ u.mode = w.mode := by
  obtain ⟨e, u, inspected, watched, tuned, now, mode⟩ := exists_inspect r w
  refine ⟨e, Cycle.announce stamp x u, ?_, watched, tuned, ?_⟩
  · simp only [Cycle.treat, inspected]
    rfl
  · unfold Cycle.announce
    split <;> exact ⟨now, mode⟩

/-- Looks at the sensors before and after do not matter to what a cycle makes of a timed move. -/
lemma Went.congr {c : Command} {u : World} {f g : Drivetrain} (h : Went c s u e f)
    (before : Watches d e) (config : e.config = d.config) (after : Watches f g)
    (now : u.now = w.now) (mode : u.mode = w.mode) : Went c s w d g := by
  have same : endsTimed c s u = endsTimed c s w := by
    simp only [endsTimed, timeUp, now, mode]
  refine ⟨fun ends => ?_, fun lasts => ?_, fun quiet lasts => ?_, fun ignored => ?_⟩
  · obtain ⟨idle, stopped⟩ := h.ends (same.trans ends)
    exact ⟨after.session.trans idle, after.output.trans stopped⟩
  · exact after.session.trans (h.lasts (same.trans lasts))
  · obtain ⟨l, time, wheels⟩ := h.advances quiet (same.trans lasts)
    rw [config] at wheels
    exact ⟨l, time.trans now, after.output.trans wheels⟩
  · exact after.output.trans ((h.ignored ignored).trans before.output)

/-- The news of a mode stop both motors. -/
lemma output_enter (mode : Mode) (d : Drivetrain) (w : World) :
    (d.enter mode w).chassis.output = WheelOutputs.stop := by
  unfold enter
  split
  · simp only [zeroGyro, Chassis.zeroGyro, Chassis.output_touch, output_drive]
  · exact output_drive _ w.now .stop

/-- A cycle is over, but for posting the reply. -/
def Done {ι α : Type} : Progress (Cycle ι) α → Prop
  | .finished _ | .waiting (.send _ _) .replying => True
  | _ => False

/-- A verdict is the end of a cycle. -/
lemma answer_done (x : Message) (reply : Reply) (r : Runner Drivetrain) (w : World) :
    ∃ p, Cycle.answer x reply r w = (p, r, w) ∧ Done p := by
  cases asked : x.replyTo with
  | none => exact ⟨.finished (), by simp [Cycle.answer, Cycle.finish, asked], trivial⟩
  | some a =>
    exact ⟨.waiting (.send a (x.answer reply)) .replying, by simp [Cycle.answer, asked], trivial⟩

/-- A cycle that takes up a message of another family in the midst of a timed move. -/
lemma take_timed {r : Runner Drivetrain} {x : Message} (moving : r.subsystem.session = .straight s)
    (timed : s.target = none) (other : Part.drivetrain.owns x.command = false) (w : World) :
    (∃ p e u, Cycle.take x r w = .ok (p, ⟨e, r.loops + 1⟩, u) ∧ Done p ∧ u.now = w.now ∧
      e.config = r.subsystem.config ∧ Went x.command s w r.subsystem e) ∨
    Cycle.take x r w = .error .emptyInterval ∧ Unsound r.subsystem.battery := by
  cases news : x.isMode with
  | true =>
    obtain ⟨mode, command, taken⟩ := Cycle.take_of_isMode (r := r) (w := w) news
    refine .inl ⟨_, _, _, taken, trivial, rfl, ?_, ?_⟩
    · unfold enter
      split <;> rfl
    · rw [command]
      refine went_of_ends rfl ?_ (output_enter mode _ _)
      unfold enter
      split <;> rfl
  | false =>
    obtain ⟨d, u, treated, watched, tuned, now, mode⟩ :=
      exists_treat x { r with loops := r.loops + 1 } w
    have command := Message.command_ne_state news
    obtain ⟨e, v, handled, later, config, went, battery⟩ :=
      exists_handle (watched.session.trans moving) timed other command u
    rw [Cycle.take_of_isMode_eq_false news, treated, handled]
    by_cases sound : e.session.isIdle = true → ¬ Unsound e.battery
    · obtain ⟨f, settled, quiet, tuned', -⟩ := exists_settle v sound
      obtain ⟨p, answered, done⟩ := answer_done x .ok (⟨f, r.loops + 1⟩ : Runner Drivetrain) v
      refine .inl ⟨p, f, v, ?_, done, later.trans now, tuned'.trans (config.trans tuned.config),
        went.congr watched tuned.config quiet now mode⟩
      rw [settled]
      exact congrArg Except.ok answered
    · obtain ⟨idle, unsound⟩ := Classical.not_imp.1 sound
      have ends : endsTimed x.command s u = true := by
        by_contra lasts
        have moves := went.lasts (Bool.eq_false_of_not_eq_true lasts)
        rw [moves] at idle
        cases idle
      have here : e.battery = r.subsystem.battery := (battery ends).trans tuned.battery
      rw [here, not_not] at unsound
      refine .inr ⟨?_, unsound⟩
      rw [settle_of_unsound idle (here ▸ unsound)]
      rfl

/-- The next cycle begins, if its time fits the clock. -/
lemma again_done {r : Runner Drivetrain} {p : Progress (Cycle Job) Unit} (done : Done p)
    (fits : w.now + r.subsystem.config.cycle < Clock.limit) :
    ∃ q, Cycle.again (p, r, w) = .ok (q, r, w) := by
  have started : ∃ q : Progress (Cycle Job) Empty, Cycle.start r w = .ok (q, r, w) := by
    have cycle : Subsystem.cycle r.subsystem = r.subsystem.config.cycle := rfl
    simp [Cycle.start, Wait.receiveFor, Clock.after, cycle, fits, bind, Except.bind, pure,
      Except.pure]
  cases p with
  | finished u => exact started
  | waiting wait c => exact ⟨_, rfl⟩

lemma eq_of_again {r : Runner Drivetrain} {p : Progress (Cycle Job) Unit}
    {stage : Stage (Cycle Job) Empty (Runner Drivetrain)} (begun : Cycle.again (p, r, w) = .ok stage) :
    stage.2.1 = r := by
  obtain ⟨q, r', w'⟩ := stage
  cases p with
  | finished u => exact (Cycle.start_eq_ok begun).1
  | waiting wait c =>
    cases begun
    rfl

/-- What a cycle of another family makes of a timed move, and that it comes to its end. -/
lemma runOn_timed {r : Runner Drivetrain} {wake : Wake} (moving : r.subsystem.session = .straight s)
    (timed : s.target = none) (other : Part.drivetrain.owns wake.message.command = false) (w : World) :
    (∀ stage, Cycle.listening.runOn wake r w = .ok stage →
      Went wake.message.command s w r.subsystem stage.2.1.subsystem) ∧
    (¬ Unsound r.subsystem.battery → w.now + r.subsystem.config.cycle < Clock.limit →
      ∃ stage, Cycle.listening.runOn wake r w = .ok stage) := by
  rcases take_timed moving timed other w with
    ⟨p, e, u, taken, done, now, config, went⟩ | ⟨faulty, unsound⟩
  · have worked : Cycle.listening.runOn wake r w = Cycle.again (p, ⟨e, r.loops + 1⟩, u) := by
      rw [Cycle.runOn, Cycle.resume, taken]
      rfl
    rw [worked]
    refine ⟨fun stage begun => ?_, fun _ fits => ?_⟩
    · rw [eq_of_again begun]
      exact went
    · rw [← now, ← config] at fits
      obtain ⟨q, begun⟩ := again_done (r := ⟨e, r.loops + 1⟩) done fits
      exact ⟨_, begun⟩
  · have worked : Cycle.listening.runOn wake r w = .error .emptyInterval := by
      rw [Cycle.runOn, Cycle.resume, faulty]
      rfl
    rw [worked]
    refine ⟨fun stage begun => ?_, fun sound => absurd unsound sound⟩
    simp only [reduceCtorEq] at begun

/-! ### Runs -/

/-- Whether a timed move takes no notice of a deed. A quiet cycle takes nothing and handles a message all
the same. -/
def heedless : Deed → Bool
  | .took x => x.command.isTimeout || ignores x.command
  | .settled x _ => ignores x.command
  | .swept _ | .posted .. => true

/-- The motors run on in a timed move, as long as it takes no notice of any deed. -/
def onward (s : StraightDrive) (outputs : WheelOutputs) : Ledger Drivetrain Bool where
  note g x := g && heedless x
  rest g d := g = true → d.session = .straight s ∧ d.chassis.output = outputs
  busy g _ _ := g = false

lemma foldl_note (s : StraightDrive) (outputs : WheelOutputs) (t : List Deed) (g : Bool) :
    t.foldl (onward s outputs).note g = (g && t.all heedless) := by
  induction t generalizing g with
  | nil => simp
  | cons x t ih => rw [List.foldl_cons, ih, List.all_cons, ← Bool.and_assoc]; rfl

/-- Once a deed is noticed, nothing is claimed any more. -/
lemma leads_of_noticed {outputs : WheelOutputs} {x : Message} (p : Progress Job Reply) :
    p.Leads (fun job => (onward s outputs).busy false job d) fun reply =>
      (onward s outputs).rest ((onward s outputs).note false (.settled x (.handled reply))) d := by
  cases p with
  | waiting wait job => rfl
  | finished reply => exact nofun

lemma steady_onward (timed : s.target = none) (outputs : WheelOutputs) :
    Subsystem.Steady (onward s outputs) Part.drivetrain.Senses fun _ => False where
  posted := by intros; simp [onward, heedless]
  quiet := by intros; simp [onward, heedless, Message.timeout, Command.isTimeout]
  enter := by
    intro g d x mode w command moves
    refine ⟨_, _, rfl, fun heeded => ?_⟩
    simp [onward, heedless, command, ignores, Command.isTimeout] at heeded
  check := by
    intro g d w moves on
    obtain ⟨session, output⟩ := moves on
    have watched := watches_position d w.now
    exact ⟨watched.session.trans session, watched.output.trans output⟩
  refuse x h tripped := nomatch tripped
  handle := by
    intro g d x w stage news moves done
    cases own : Part.drivetrain.owns x.command with
    | true =>
      -- A drivetrain command is noticed when it is taken, so nothing is to be shown of it.
      have noticed : (onward s outputs).note g (.took x) = false := by
        unfold Part.owns at own
        split at own <;> simp_all [onward, heedless, ignores, Command.isTimeout]
      rw [noticed]
      exact leads_of_noticed stage.1
    | false =>
      obtain ⟨progress, e, u⟩ := stage
      cases finished_of_handle own done
      intro heeded
      simp only [onward, heedless, Bool.and_eq_true] at heeded
      obtain ⟨⟨on, -⟩, ignored⟩ := heeded
      obtain ⟨session, output⟩ := moves on
      have command := Message.command_ne_state news
      obtain ⟨f, v, handled, -, -, went, -⟩ := exists_handle session timed own command w
      have settled : Watches f e := watches_of_settle (handled.symm.trans done)
      exact ⟨settled.session.trans (went.lasts (lasts_of_ignores ignored)),
        settled.output.trans ((went.ignored ignored).trans output)⟩
  resume := by
    rintro g d x job wake w stage rfl done
    exact leads_of_noticed stage.1
  sweep h := h.elim
  sense := by
    intro g d e moves sensed on
    obtain ⟨session, output⟩ := moves on
    have watched := watches_of_senses sensed
    exact ⟨watched.session.trans session, watched.output.trans output⟩
  feel busy _ := busy

/-- Cycles that bring nothing but what a timed move takes no notice of leave it and the motors as they
are, whatever the time is. From there, a cycle of another family ends the move exactly if it hears of a
mode, begins or completes a script session, or is quiet and finds that the time is up. It comes to its end
if the battery voltage is sound and the next cycle fits the clock. -/
theorem timed_move_of_run {a b : Stage (Cycle Job) Empty (Runner Drivetrain)} {t : List Deed}
    {limit : Option Alarm} (at_ : a.1 = .waiting (.receive .drivetrain limit) .listening)
    (moving : a.2.1.subsystem.session = .straight s) (timed : s.target = none)
    (run : (Cycle.routine Drivetrain).Run (Cycle.Sensed Part.drivetrain.Senses) a t b)
    (unnoticed : ∀ x ∈ t, heedless x = true) :
    b.2.1.subsystem.session = .straight s ∧
    b.2.1.subsystem.chassis.output = a.2.1.subsystem.chassis.output ∧
    (∃ wait c, b.1 = .waiting wait c ∧ Cycle.Calm c) ∧
    ∀ wake u, Part.drivetrain.owns wake.message.command = false →
      (∀ stage, Cycle.listening.runOn wake b.2.1 u = .ok stage →
        Went wake.message.command s u b.2.1.subsystem stage.2.1.subsystem) ∧
      (¬ Unsound b.2.1.subsystem.battery →
        u.now + b.2.1.subsystem.config.cycle < Clock.limit →
        ∃ stage, Cycle.listening.runOn wake b.2.1 u = .ok stage) := by
  have kept := Cycle.kept_of_run (g := true) Drivetrain.modest
    (steady_onward timed a.2.1.subsystem.chassis.output) run
    (by
      intro wait c h
      cases at_.symm.trans h
      exact .listening)
    ⟨_, _, at_, fun _ => ⟨moving, rfl⟩⟩
  have all : t.foldl (onward s a.2.1.subsystem.chassis.output).note true = true := by
    rw [foldl_note, Bool.true_and, List.all_eq_true]
    exact unnoticed
  rw [all] at kept
  obtain ⟨wait, c, waits, holds⟩ := kept
  have calm : Cycle.Calm c ∧ (b.2.1.subsystem.session = .straight s ∧
      b.2.1.subsystem.chassis.output = a.2.1.subsystem.chassis.output) := by
    cases c with
    | listening | replying => exact ⟨trivial, holds rfl⟩
    | entering => exact holds.elim
    | handling => cases holds
  obtain ⟨calm, session, output⟩ := calm
  refine ⟨session, output, ⟨wait, c, waits, calm⟩, fun wake u other => ?_⟩
  exact runOn_timed session timed other u

/-- A timed move of which a second goes by in quiet cycles, and another one before a report of the
battery voltage. -/
def overdue : List (Routine.Move (Runner Drivetrain)) :=
  [Part.deliver .drivetrain { command := .drive (.timedMove 0.5 1.5) }, .look, .look,
    Part.drivetrain.second, .look, Part.drivetrain.second,
    Part.deliver .drivetrain { command := .system (.constants 12) }]

/-- Whether the next cycle finds the time of a timed move over, and takes up what it does not notice. -/
def isOverdue (a : Stage (Cycle Job) Empty (Runner Drivetrain)) : Bool :=
  match a.1, a.2.1.subsystem.session with
  | .waiting (.receive .drivetrain limit) .listening, .straight s =>
    s.target.isNone && match a.2.2.poll (.receive .drivetrain limit) with
      | .over wake u =>
        decide (s.deadline ≤ u.now) && ignores wake.message.command &&
          (Cycle.deeds (.receive .drivetrain limit) .listening wake a.2.1 u).all heedless &&
          (Cycle.listening.runOn wake a.2.1 u).toOption.any fun b => s.deadline ≤ b.2.2.now
      | .pending .. => false
  | _, _ => false

lemma exists_overdue : ∃ first t a limit s wake u b,
    Cycle.start (⟨{}, 0⟩ : Runner Drivetrain) { mode := .autonomous } = .ok first ∧
    (Cycle.routine Drivetrain).Run (Cycle.Sensed Part.drivetrain.Senses) first t a ∧
    a.1 = .waiting (.receive .drivetrain limit) .listening ∧
    a.2.1.subsystem.session = .straight s ∧ s.target = none ∧
    a.2.2.poll (.receive .drivetrain limit) = .over wake u ∧ s.deadline ≤ u.now ∧
    ignores wake.message.command = true ∧
    (∀ x ∈ Cycle.deeds (.receive .drivetrain limit) .listening wake a.2.1 u, heedless x = true) ∧
    Cycle.listening.runOn wake a.2.1 u = .ok b ∧ s.deadline ≤ b.2.2.now := by
  have played : ((Cycle.start (⟨{}, 0⟩ : Runner Drivetrain)
      { mode := .autonomous }).toOption.any fun first =>
        ((Cycle.routine Drivetrain).play overdue first).any fun x => isOverdue x.2) = true := by
    decide +kernel
  obtain ⟨first, t, a, begun, run, passed⟩ :=
    Routine.exists_run_of_begun (Cycle.Sensed Part.drivetrain.Senses) played fun change h x => by
      simp only [overdue, Part.deliver, Part.second, List.mem_cons, reduceCtorEq,
        Routine.Move.around.injEq, List.not_mem_nil, or_false, false_or] at h
      rcases h with rfl | rfl | rfl | rfl <;> exact Part.Senses.refl .drivetrain _
  unfold isOverdue at passed
  split at passed
  · next limit s at_ moving =>
    rw [Bool.and_eq_true, Option.isNone_iff_eq_none] at passed
    obtain ⟨timed, passed⟩ := passed
    split at passed
    · next wake u looked =>
      simp only [Bool.and_eq_true, decide_eq_true_eq, List.all_eq_true] at passed
      obtain ⟨⟨⟨late, unnoticed⟩, deeds⟩, worked⟩ := passed
      cases done : Cycle.listening.runOn wake a.2.1 u with
      | error fault =>
        rw [done] at worked
        cases worked
      | ok b =>
        rw [done] at worked
        exact ⟨first, t, a, limit, s, wake, u, b, begun, run, at_, moving, timed, looked, late,
          unnoticed, deeds, done, of_decide_eq_true worked⟩
    · cases passed
  · cases passed

/-- A timed move goes on past its time when a report of the battery voltage is all that a cycle brings,
and the quiet cycle after that ends it. -/
theorem timed_move_outlasts_time : ∃ a limit s t b,
    a.1 = .waiting (.receive .drivetrain limit) .listening ∧
    a.2.1.subsystem.session = .straight s ∧ s.target = none ∧
    (Cycle.routine Drivetrain).Run (Cycle.Sensed Part.drivetrain.Senses) a t b ∧
    (∀ x ∈ t, heedless x = true) ∧ s.deadline ≤ b.2.2.now ∧
    b.2.1.subsystem.session = .straight s ∧
    b.2.1.subsystem.chassis.output = a.2.1.subsystem.chassis.output ∧
    ∀ stage, Cycle.listening.runOn .rang b.2.1 b.2.2 = .ok stage →
      stage.2.1.subsystem.session = .idle ∧
        stage.2.1.subsystem.chassis.output = WheelOutputs.stop := by
  obtain ⟨first, -, a, limit, s, wake, u, b, -, -, at_, moving, timed, looked, -, -, deeds, done, late⟩ :=
    exists_overdue
  obtain ⟨progress, r, v⟩ := a
  have waits : progress = .waiting (.receive .drivetrain limit) .listening := at_
  subst waits
  have run : (Cycle.routine Drivetrain).Run (Cycle.Sensed Part.drivetrain.Senses)
      (.waiting (.receive .drivetrain limit) .listening, r, v)
      (Cycle.deeds (.receive .drivetrain limit) .listening wake r u) b :=
    (Routine.Run.start _).look (.woken looked done)
  obtain ⟨session, output, -, next⟩ := timed_move_of_run rfl moving timed run deeds
  refine ⟨_, limit, s, _, b, rfl, moving, timed, run, deeds, late, session, output, fun stage worked => ?_⟩
  have went := (next .rang b.2.2 rfl).1 stage worked
  refine went.ends ?_
  have quiet : endsTimed Wake.rang.message.command s b.2.2 = timeUp s b.2.2 := rfl
  rw [quiet, timeUp, decide_eq_true late, Bool.or_true]

/-- What a timed move is expected to do: a cycle that takes up no drivetrain command ends it, once its
time is over or autonomous is. -/
def TimedMovesEnd : Prop :=
  ∀ {r : Runner Drivetrain} {w u : World} {first a b : Stage (Cycle Job) Empty (Runner Drivetrain)}
    {t : List Deed} {limit : Option Alarm} {s : StraightDrive} {wake : Wake},
    Cycle.start r w = .ok first →
    (Cycle.routine Drivetrain).Run (Cycle.Sensed Part.drivetrain.Senses) first t a →
    a.1 = .waiting (.receive .drivetrain limit) .listening →
    a.2.1.subsystem.session = .straight s → s.target = none →
    a.2.2.poll (.receive .drivetrain limit) = .over wake u →
    Part.drivetrain.owns wake.message.command = false → timeUp s u = true →
    Cycle.listening.runOn wake a.2.1 u = .ok b →
    b.2.1.subsystem.session = .idle ∧ b.2.1.subsystem.chassis.output = WheelOutputs.stop

/-- It does not: a report of the battery voltage lets it go on. -/
theorem report_prolongs_timed_move : ¬ TimedMovesEnd := by
  intro claim
  obtain ⟨first, t, a, limit, s, wake, u, b, begun, run, at_, moving, timed, looked, late, unnoticed, -,
    done, -⟩ := exists_overdue
  have other : Part.drivetrain.owns wake.message.command = false := by
    unfold Part.owns
    split <;> simp_all [ignores]
  have went := (runOn_timed moving timed other u).1 b done
  have goes := went.lasts (lasts_of_ignores unnoticed)
  obtain ⟨idle, -⟩ := claim begun run at_ moving timed looked other (by simp [timeUp, late]) done
  rw [idle] at goes
  cases goes

end Drivetrain

end MatchRobot
