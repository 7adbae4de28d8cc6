import MatchRobot.Dispatcher
import MatchRobot.Proofs.Subsystem.TimedMoves

/-!
# The battery voltage and the steering filter

The drivetrain keeps the battery voltage that was reported last, and limits the outputs of the steering
filter to it. A voltage that is negative or no number is no limit (`Drivetrain.Unsound`), and nobody looks
at it before: the next cycle that feeds the filter ends the program with a fault.

`Powered` says of a piece of work that it leaves the voltage alone, and comes to this fault exactly if it
feeds the filter and the voltage is unsound. `Drivetrain.listening_eq_error_iff` tells so of a whole cycle,
and `Drivetrain.battery_of_run` which voltage it is in a run. One report is enough to end the program
(`Drivetrain.report_stops_program`).
-/

namespace MatchRobot

/-- The battery voltage that a command reports, if it does. -/
def Command.voltage? : Command → Option Float32
  | .system (.constants volts) => some volts
  | _ => none

namespace Drivetrain

/-- Work that leaves the battery voltage `volts` behind. It comes to the fault of the filter exactly if
it feeds the filter and that voltage is unsound. -/
structure Powered (volts : Float32) (fed : Bool)
    (work : Except Fault (Stage Job Reply Drivetrain)) : Prop where
  keeps : ∀ stage, work = .ok stage → stage.2.1.battery = volts
  faults : work = .error .emptyInterval ↔ fed = true ∧ Unsound volts

/-! ### Jobs -/

section

variable {d e : Drivetrain} {w : World} {volts : Float32}

/-- The clock has a fault of its own. -/
lemma sleepFor_ne_emptyInterval (now span : Micros) :
    Wait.sleepFor now span ≠ .error .emptyInterval :=
  fun faulty => nomatch (Wait.sleepFor_eq_error_iff.1 faulty).1

lemma startDrive_ne_emptyInterval {config : DriveConfig} {speed : Float32} {goal : StraightGoal}
    {span now : Micros} : StraightDrive.start config speed goal span now ≠ .error .emptyInterval :=
  fun faulty => nomatch (startDrive_eq_error_iff.1 faulty).1

lemma startTurn_ne_emptyInterval {angle : Float32} {span now : Micros} :
    Turn.start angle span now ≠ .error .emptyInterval :=
  fun faulty => nomatch (startTurn_eq_error_iff.1 faulty).1

lemma powered_replied {fed : Bool} {reply : Reply} (h : d.battery = volts)
    (sound : fed = true → ¬ Unsound volts) : Powered volts fed (.ok (replied reply d w)) where
  keeps := by
    intro stage done
    cases done
    exact h
  faults := ⟨nofun, fun faulty => absurd faulty.2 (sound faulty.1)⟩

lemma powered_error (unsound : Unsound volts) : Powered volts true (.error .emptyInterval) where
  keeps := by
    intro stage done
    simp only [reduceCtorEq] at done
  faults := ⟨fun _ => ⟨rfl, unsound⟩, fun _ => rfl⟩

lemma powered_bind {β : Type} {x : Except Fault β} {f : β → Except Fault (Stage Job Reply Drivetrain)}
    (other : x ≠ .error .emptyInterval) (h : ∀ b, x = .ok b → Powered volts false (f b)) :
    Powered volts false (x >>= f) where
  keeps := by
    intro stage done
    obtain ⟨b, begun, done⟩ := bind_eq_ok.1 done
    exact (h b begun).keeps stage done
  faults := by
    have never : ∀ b, x = .ok b → f b ≠ .error .emptyInterval :=
      fun b begun faulty => nomatch ((h b begun).faults.1 faulty).1
    rw [bind_eq_error_iff never]
    exact ⟨fun faulty => absurd faulty other, nofun⟩

/-- A wait in the midst of a job. -/
lemma powered_sleep {span : Micros} {job : Job} (h : d.battery = volts) :
    Powered volts false (do
      let wait ← Wait.sleepFor w.now span
      return (.waiting wait job, d, w)) := by
  refine powered_bind (sleepFor_ne_emptyInterval w.now span) fun wait _ => ⟨?_, nofun, nofun⟩
  intro stage done
  cases done
  exact h

lemma powered_driveOn {s : StraightDrive} (h : d.battery = volts) :
    Powered volts false (d.driveOn s w) := by
  have tuned := tuned_straightStep d s w
  unfold driveOn
  simp only
  split
  · exact powered_sleep (tuned.battery.trans h)
  · have again := tuned_readEncoder (d.straightStep s w).2 w.now .right
    exact powered_replied (again.battery.trans (tuned.battery.trans h)) nofun

lemma powered_turnOn {t : Turn} (h : d.battery = volts) : Powered volts false (d.turnOn t w) := by
  unfold turnOn
  simp only
  split
  · exact powered_sleep h
  · exact powered_replied h nofun

lemma powered_startStraight {params : MoveParams} {goal : StraightGoal} (h : d.battery = volts) :
    Powered volts false (d.startStraight params goal w) :=
  powered_bind startDrive_ne_emptyInterval fun _ _ => powered_driveOn h

lemma powered_startMove {params : MoveParams} {proximity : Bool} (h : d.battery = volts) :
    Powered volts false (d.startMove params proximity w) := by
  unfold startMove
  simp only
  split
  · exact powered_sleep h
  · exact powered_startStraight h

lemma powered_zeroEncoders {attempts : Nat} {params : MoveParams} {proximity : Bool}
    (h : d.battery = volts) : Powered volts false (d.zeroEncoders attempts params proximity w) := by
  cases attempts with
  | zero => exact powered_replied h nofun
  | succ attempts =>
    have tuned := tuned_attempt d w.now
    unfold zeroEncoders
    simp only
    split
    · exact powered_startMove (tuned.battery.trans h)
    · split
      · exact powered_sleep (tuned.battery.trans h)
      · exact powered_replied (tuned.battery.trans h) nofun

lemma powered_startTurn {angle timeout : Float32} (h : d.battery = volts) :
    Powered volts false (d.startTurn angle timeout w) :=
  powered_bind startTurn_ne_emptyInterval fun _ _ => powered_turnOn h

/-- No job feeds the filter. -/
lemma powered_resume {job : Job} (h : d.battery = volts) :
    Powered volts false (d.resume job w) := by
  cases job with
  | zeroing attempts params proximity => exact powered_zeroEncoders h
  | settling params => exact powered_startStraight h
  | driving s => exact powered_driveOn h
  | turning t => exact powered_turnOn h

/-! ### Commands -/

/-- Whether a drivetrain command feeds the filter. -/
def DriveCommand.feeds : DriveCommand → Bool
  | .measuredMove _ | .proximityMove _ | .timedMove .. | .turn .. => false
  | _ => true

/-- Whether a cycle that takes up a command feeds the filter, given the session that it finds. -/
def feeds (c : Command) (session : Session) (w : World) : Bool :=
  match c, session with
  | .state _, _ => false
  | .drive command, _ => DriveCommand.feeds command
  | .auto .run, _ | .auto .complete, _ => true
  | .system .msgTimeout, .straight s => timeUp s w
  | _, session => session.isIdle

/-- The end of a cycle feeds the filter, unless a session is under way. -/
lemma powered_settle (d : Drivetrain) (w : World) (h : d.battery = volts) :
    Powered volts d.session.isIdle (d.settle w) := by
  by_cases sound : d.session.isIdle = true → ¬ Unsound d.battery
  · obtain ⟨e, settled, -, -, battery⟩ := exists_settle w sound
    rw [settled]
    rw [h] at sound
    exact powered_replied (battery.trans h) sound
  · obtain ⟨idle, unsound⟩ := Classical.not_imp.1 sound
    rw [h, not_not] at unsound
    rw [settle_of_unsound idle (h ▸ unsound), idle]
    exact powered_error unsound

lemma powered_steer {write : Bool} (h : d.battery = volts) : Powered volts true (do
    let d ← d.steer w.now write
    return replied .ok d w) := by
  by_cases unsound : Unsound d.battery
  · rw [steer_of_unsound unsound]
    exact powered_error (h ▸ unsound)
  · obtain ⟨e, steered, -, battery, -⟩ := exists_steer w.now write unsound
    rw [steered]
    exact powered_replied (battery.trans h) fun _ => h ▸ unsound

/-- The cycle that starts a timed move leaves the filter alone. -/
lemma powered_startTimed {speed time : Float32} (h : d.battery = volts) :
    Powered volts false (do let d ← d.startTimed speed time w; d.settle w) := by
  refine powered_bind ?_ fun e started => ?_
  · exact bind_pure_eq_error_iff.not.2 startDrive_ne_emptyInterval
  · obtain ⟨s, -, begun⟩ := bind_eq_ok.1 started
    cases begun
    exact powered_settle { d.zeroGyro w.now with session := .straight s } w h

lemma powered_obey {c : DriveCommand} (h : d.battery = volts) :
    Powered volts (DriveCommand.feeds c) (d.obey c w) := by
  let idle := { d with session := .idle }
  cases c with
  | stop => exact powered_settle (idle.drive w.now .stop) w h
  | tank left right => exact powered_settle (idle.drive w.now ⟨left, right⟩) w h
  | autoMove left right => exact powered_settle (idle.driveScaled w.now ⟨left, right⟩) w h
  | cheesy wheel throttle quickturn =>
    exact powered_steer (d := { idle with goal := goalOf wheel throttle quickturn }) h
  | measuredMove params | proximityMove params => exact powered_zeroEncoders (d := idle) h
  | timedMove speed time => exact powered_startTimed h
  | turn angle timeout => exact powered_startTurn (d := idle) h

lemma battery_iterateTimed (d : Drivetrain) (w : World) :
    (d.iterateTimed w).1.battery = d.battery := by
  unfold iterateTimed
  split
  · next s _ =>
    have tuned := tuned_straightStep d s w
    simp only
    split <;> exact tuned.battery
  · rfl

/-- A session that lasts is over after the step of a quiet cycle if its time is up. -/
lemma isIdle_iterateTimed (lasts : d.session.Lasts) (w : World) :
    (d.iterateTimed w).1.session.isIdle = feeds (.system .msgTimeout) d.session w := by
  rcases lasts.cases with idle | ⟨s, moving, timed⟩
  · simp [iterateTimed, idle, feeds]
  · obtain ⟨-, -, -, up, on⟩ := iterateTimed_cases moving timed w
    rw [moving, feeds]
    cases time : timeUp s w with
    | true => rw [(up time).1]; rfl
    | false => rw [(on time).1]; rfl

/-- A command that is no mode, whatever the session is; of a session that lasts it is known whether it
feeds the filter. -/
lemma exists_powered_handle {c : Command} (news : ∀ mode, c ≠ .state mode) (d : Drivetrain) (w : World) :
    ∃ fed, Powered (c.voltage?.getD d.battery) fed (d.handle c w) ∧
      (d.session.Lasts → fed = feeds c d.session w) := by
  unfold handle
  split
  · exact ⟨_, powered_obey rfl, fun _ => rfl⟩
  · exact ⟨_, powered_settle _ _ rfl, fun _ => rfl⟩
  · exact ⟨_, powered_settle _ _ rfl, fun _ => rfl⟩
  · exact ⟨_, powered_settle _ _ rfl, fun _ => rfl⟩
  · exact ⟨_, powered_settle _ _ (battery_iterateTimed d w), fun lasts => isIdle_iterateTimed lasts w⟩
  · next drive run complete constants quiet =>
    have silent : c.voltage? = none := by
      unfold Command.voltage?
      split
      · next volts => exact absurd rfl (constants volts)
      · rfl
    have settles : feeds c d.session w = d.session.isIdle := by
      unfold feeds
      split
      · next mode => exact absurd rfl (news mode)
      · next command => exact absurd rfl (drive command)
      · exact absurd rfl run
      · exact absurd rfl complete
      · exact absurd rfl quiet
      · rfl
    rw [silent, settles]
    exact ⟨_, powered_settle d w rfl, fun _ => rfl⟩

/-! ### Cycles -/

/-- The fault of the filter does not come from the clock. -/
lemma again_ne_emptyInterval
    (stage : Stage (Cycle (Subsystem.Job Drivetrain)) Unit (Runner Drivetrain)) :
    Cycle.again stage ≠ .error .emptyInterval := by
  obtain ⟨progress, r, w⟩ := stage
  cases progress with
  | waiting wait c => exact nofun
  | finished u =>
    have waits : Wait.receiveFor .drivetrain w.now r.subsystem.config.cycle ≠ .error .emptyInterval := by
      refine bind_pure_eq_error_iff.not.2 fun faulty => ?_
      exact nomatch (Clock.after_eq_error_iff.1 faulty).1
    exact bind_pure_eq_error_iff.not.2 waits

/-- A cycle that takes up a message comes to the fault exactly if it feeds the filter, and the voltage,
with what the message reports of it, is unsound. -/
lemma listening_eq_error_iff {r : Runner Drivetrain} (lasts : r.subsystem.session.Lasts) (wake : Wake)
    (w : World) : Cycle.listening.runOn wake r w = .error .emptyInterval ↔
      feeds wake.message.command r.subsystem.session w = true ∧
        Unsound (wake.message.command.voltage?.getD r.subsystem.battery) := by
  have taken : Cycle.listening.runOn wake r w = .error .emptyInterval ↔
      Cycle.take wake.message r w = .error .emptyInterval :=
    bind_eq_error_iff fun stage _ => again_ne_emptyInterval stage
  rw [taken]
  cases news : wake.message.isMode with
  | true =>
    obtain ⟨mode, command, entered⟩ := Cycle.take_of_isMode (r := r) (w := w) news
    rw [entered, command]
    exact ⟨nofun, fun faulty => nomatch faulty.1⟩
  | false =>
    obtain ⟨d, u, treated, watched, tuned, now, mode⟩ :=
      exists_treat wake.message { r with loops := r.loops + 1 } w
    have command := Message.command_ne_state news
    have session : d.session = r.subsystem.session := watched.session
    have battery : d.battery = r.subsystem.battery := tuned.battery
    obtain ⟨fed, powered, known⟩ := exists_powered_handle command d u
    have feeding : feeds wake.message.command d.session u =
        feeds wake.message.command r.subsystem.session w := by
      simp only [session, feeds, timeUp, now, mode]
    rw [Cycle.take_of_isMode_eq_false news, treated, bind_pure_eq_error_iff, bind_pure_eq_error_iff,
      powered.faults, known (session ▸ lasts), feeding, battery]

/-- Nothing but a message that is taken up leads to the fault. -/
lemma runOn_ne_emptyInterval {c : Cycle Job} (h : c ≠ .listening) (wake : Wake)
    (r : Runner Drivetrain) (w : World) : c.runOn wake r w ≠ .error .emptyInterval := by
  have never : ∀ job, r.subsystem.resume job w ≠ .error .emptyInterval :=
    fun job faulty => nomatch ((powered_resume rfl).faults.1 faulty).1
  refine (bind_eq_error_iff fun stage _ => again_ne_emptyInterval stage).not.2 ?_
  cases c with
  | listening => exact absurd rfl h
  | entering job => exact bind_pure_eq_error_iff.not.2 (never job)
  | handling x job => exact bind_pure_eq_error_iff.not.2 (bind_pure_eq_error_iff.not.2 (never job))
  | replying => exact nofun

end

/-! ### Runs -/

/-- The voltage that the drivetrain keeps in mind is the one that was reported last. -/
def charge : Ledger Drivetrain Float32 where
  note := Deed.latest fun x => x.command.voltage?
  rest volts d := d.battery = volts
  busy volts _ d := d.battery = volts

lemma voltage?_of_isMode {x : Message} {mode : Mode} (news : x.command = .state mode) :
    x.command.voltage? = none := by
  rw [news]
  rfl

lemma steady_charge : Subsystem.Steady charge Shaken fun _ => False where
  posted := rfl
  quiet := rfl
  enter := by
    intro volts d x mode w news here
    refine ⟨_, _, rfl, ?_⟩
    have kept : (d.enter mode w).battery = d.battery := by
      unfold enter
      split <;> rfl
    have silent : charge.note volts (.took x) = volts := by
      simp [charge, Deed.latest, voltage?_of_isMode news]
    rw [silent]
    exact kept.trans here
  check := by
    intro volts d w here
    exact (tuned_position d w.now).battery.trans here
  refuse x h tripped := nomatch tripped
  handle := by
    rintro volts d x w ⟨progress, e, u⟩ news rfl done
    have command := Message.command_ne_state news
    obtain ⟨fed, powered, -⟩ := exists_powered_handle command d w
    have kept := powered.keeps _ done
    cases progress <;> exact kept
  resume := by
    rintro volts d x job wake w ⟨progress, e, u⟩ here done
    have kept := (powered_resume here).keeps _ done
    cases progress <;> exact kept
  sweep h := h.elim
  sense := by
    rintro volts d - here ⟨⟨e, rfl⟩, -⟩
    exact here
  feel := by
    rintro volts d - job here ⟨⟨e, rfl⟩, -⟩
    exact here

variable {r : Runner Drivetrain} {w : World} {m : ControlMode}
  {first b : Stage (Cycle Job) Empty (Runner Drivetrain)} {t : List Deed}

/-- The drivetrain knows the battery voltage that was reported last, whatever its value is. The program
ends with the fault of the filter exactly if a cycle takes up a message and feeds the filter while that
voltage, or the one that this message reports, is negative or no number. -/
theorem battery_of_run (idle : r.subsystem.session = .idle) (same : r.subsystem.chassis.mode = ⟨m, m⟩)
    (begun : Cycle.start r w = .ok first)
    (run : (Cycle.routine Drivetrain).Run (Cycle.Sensed Shaken) first t b) :
    b.2.1.subsystem.battery = ((Deed.taken t).reverse.findSome? fun x => x.command.voltage?).getD
      r.subsystem.battery ∧
    ∃ wait c, b.1 = .waiting wait c ∧ ∀ wake u, c.runOn wake b.2.1 u = .error .emptyInterval ↔
      c = .listening ∧ feeds wake.message.command b.2.1.subsystem.session u = true ∧
        Unsound (wake.message.command.voltage?.getD b.2.1.subsystem.battery) := by
  obtain ⟨progress, r', w'⟩ := first
  obtain ⟨rfl, rfl, limit, rfl⟩ := Cycle.start_eq_ok begun
  have listens : ∀ wait c, (Progress.waiting (.receive .drivetrain limit) .listening :
      Progress (Cycle Job) Empty) = .waiting wait c → Cycle.Fits .drivetrain Asleep c wait := by
    intro wait c h
    cases h
    exact .listening
  have charged : Cycle.Kept charge _ b :=
    Cycle.kept_of_run Drivetrain.modest steady_charge run listens ⟨_, _, rfl, rfl⟩
  have lasts : ledger.rest m r'.subsystem := by
    refine ⟨same, ?_⟩
    rw [idle]
    trivial
  have kept : Cycle.Kept ledger _ b :=
    Cycle.kept_of_run Drivetrain.modest steady run listens ⟨_, _, rfl, lasts⟩
  obtain ⟨wait, c, waits, battery⟩ := charged
  obtain ⟨wait', c', waits', holds⟩ := kept
  cases waits.symm.trans waits'
  refine ⟨?_, wait, c, waits, fun wake u => ?_⟩
  · rw [← Deed.foldl_latest]
    cases c with
    | entering => exact battery.elim
    | listening | replying | handling => exact battery
  · by_cases idling : c = .listening
    · subst idling
      rw [listening_eq_error_iff holds.2]
      exact (and_iff_right rfl).symm
    · have other := runOn_ne_emptyInterval idling wake b.2.1 u
      exact ⟨fun faulty => absurd faulty other, fun faulty => absurd faulty.1 idling⟩

/-- The dispatcher reports a voltage of eleven, and one of `volts` after the drivetrain has taken it. -/
def reports (volts : Float32) : List (Routine.Move (Runner Drivetrain)) :=
  [.around fun x => (x.1, (Dispatcher.reportBattery 11 x.2).2), .look,
    .around fun x => (x.1, (Dispatcher.reportBattery volts x.2).2)]

/-- Whether the next cycle begins without a session, takes up the report of an unsound voltage and feeds
the filter. -/
def isDoomed (b : Stage (Cycle Job) Empty (Runner Drivetrain)) : Bool :=
  match b.1 with
  | .waiting wait .listening =>
    match b.2.2.poll wait with
    | .over wake u => b.2.1.subsystem.session.isIdle &&
        feeds wake.message.command b.2.1.subsystem.session u &&
        wake.message.command.voltage?.any fun volts => !Single.clampable (-volts) volts
    | .pending .. => false
  | _ => false

lemma exists_doomed : ∃ first t b wait wake u,
    Cycle.start (⟨{}, 0⟩ : Runner Drivetrain) {} = .ok first ∧
    (Cycle.routine Drivetrain).Run (Cycle.Sensed Shaken) first t b ∧
    b.1 = .waiting wait .listening ∧ b.2.2.poll wait = .over wake u ∧
    b.2.1.subsystem.session = .idle ∧
    feeds wake.message.command b.2.1.subsystem.session u = true ∧
    Unsound (wake.message.command.voltage?.getD b.2.1.subsystem.battery) := by
  have played : ((Cycle.start (⟨{}, 0⟩ : Runner Drivetrain) {}).toOption.any fun first =>
      ((Cycle.routine Drivetrain).play (reports (-0.5)) first).any fun x => isDoomed x.2) = true := by
    decide +kernel
  obtain ⟨first, t, b, begun, run, doomed⟩ :=
    Routine.exists_run_of_begun (Cycle.Sensed Shaken) played fun change h x => by
      simp only [reports, List.mem_cons, reduceCtorEq, Routine.Move.around.injEq, List.not_mem_nil,
        or_false, false_or] at h
      rcases h with rfl | rfl <;> exact ⟨⟨_, (Subsystem.attach_self _).symm⟩, rfl⟩
  unfold isDoomed at doomed
  split at doomed
  · next wait listens =>
    split at doomed
    · next wake u looked =>
      simp only [Bool.and_eq_true, Option.any_eq_true, Bool.not_eq_true'] at doomed
      obtain ⟨⟨idle, feeding⟩, volts, reported, unsound⟩ := doomed
      have session : b.2.1.subsystem.session = .idle := by
        cases at_ : b.2.1.subsystem.session with
        | idle => rfl
        | straight | turning =>
          rw [at_] at idle
          cases idle
      refine ⟨first, t, b, wait, wake, u, begun, run, listens, looked, session, feeding, ?_⟩
      rw [reported, Option.getD_some, unsound_iff]
      exact unsound
    · cases doomed
  · cases doomed

/-- A report of half a volt below zero, after one of eleven volts, ends the program. -/
theorem last_report_is_fatal : ∃ first t b wait wake u,
    Cycle.start (⟨{}, 0⟩ : Runner Drivetrain) {} = .ok first ∧
    (Cycle.routine Drivetrain).Run (Cycle.Sensed Shaken) first t b ∧
    b.1 = .waiting wait .listening ∧ b.2.2.poll wait = .over wake u ∧
    b.2.1.subsystem.battery = ((Deed.taken t).reverse.findSome? fun x => x.command.voltage?).getD
      Settings.nominalBattery ∧
    Cycle.listening.runOn wake b.2.1 u = .error .emptyInterval := by
  obtain ⟨first, t, b, wait, wake, u, begun, run, listens, looked, -, feeding, unsound⟩ := exists_doomed
  obtain ⟨latest, wait', c, waits, faults⟩ := battery_of_run rfl rfl begun run
  cases listens.symm.trans waits
  exact ⟨first, t, b, wait, wake, u, begun, run, listens, looked, latest,
    (faults wake u).2 ⟨rfl, feeding, unsound⟩⟩

/-- What a drivetrain is expected to withstand: any report, from a sound voltage on. -/
def WithstandsReports : Prop :=
  ∀ {r : Runner Drivetrain} {w u : World} {first b : Stage (Cycle Job) Empty (Runner Drivetrain)}
    {t : List Deed} {wait : Wait} {c : Cycle Job} {wake : Wake},
    r.subsystem.session = .idle → ¬ Unsound r.subsystem.battery → Cycle.start r w = .ok first →
    (Cycle.routine Drivetrain).Run (Cycle.Sensed Shaken) first t b → b.1 = .waiting wait c →
    b.2.2.poll wait = .over wake u → c.runOn wake b.2.1 u ≠ .error .emptyInterval

/-- It does not withstand a report of a negative voltage. -/
theorem report_stops_program : ¬ WithstandsReports := by
  intro claim
  obtain ⟨first, t, b, wait, wake, u, begun, run, listens, looked, idle, feeding, unsound⟩ :=
    exists_doomed
  have nominal : ¬ Unsound Settings.nominalBattery := by
    rw [unsound_iff]
    decide +kernel
  have lasts : b.2.1.subsystem.session.Lasts := by
    rw [idle]
    trivial
  have fault : Cycle.listening.runOn wake b.2.1 u = .error .emptyInterval :=
    (listening_eq_error_iff lasts wake u).2 ⟨feeding, unsound⟩
  have withstands := claim (r := ⟨{}, 0⟩) rfl nominal begun run listens looked
  exact withstands fault

end Drivetrain

end MatchRobot
