import MatchRobot.Proofs.Subsystem.Moves

/-!
# Leaving autonomous in the middle of a move

A move or a turn that finds its robot out of autonomous gives up: it stops the motors and answers with an
error. It looks at the mode flag once a period, while it zeroes the encoders and while its session is
driven. `Drivetrain.Paced` says of every phase when it is over at the latest and what the motors do
meanwhile, and one step lemma carries it through a run.

There is one phase that does not look. While the range finder settles before a proximity move, the motors
go on with whatever was written to them before the command was heard, and the flag is looked at only after
that (`Drivetrain.stopped_or_settling`).
-/

namespace MatchRobot

/-- Nothing is left to do at this instant: the task is finished, or the clock can move on while it
waits. -/
def Routine.Quiescent {ι α σ : Type} (b : Stage ι α σ) : Prop :=
  ∀ wait c, b.1 = .waiting wait c → ∃ time, b.2.2.now < time ∧ wait.Lasts b.2.2 time

/-- A sleep whose time has not come. -/
lemma Routine.Quiescent.now_lt {ι α σ : Type} {alarm : Alarm} {c : ι} {s : σ} {w : World}
    (h : Quiescent ((.waiting (.sleep alarm) c, s, w) : Stage ι α σ)) : w.now < alarm.time := by
  obtain ⟨time, later, lasts⟩ := h _ _ rfl
  exact Nat.lt_of_lt_of_le later (lasts.quiet _ rfl).2

/-- Who waits for nothing has something to do. -/
lemma Routine.not_quiescent_of_none {ι α σ : Type} {c : ι} {s : σ} {w : World} :
    ¬ Quiescent ((.waiting .none c, s, w) : Stage ι α σ) := by
  intro h
  obtain ⟨time, -, -, ⟨wait, v, pending⟩, -⟩ := h _ _ rfl
  cases pending

namespace Drivetrain

variable {config : DriveConfig} {c : DriveCommand} {before : WheelOutputs} {due : Micros} {a : Aim}
  {d e : Drivetrain} {w u : World} {b b' : Stage Phase Reply Drivetrain}

/-! ### The pace of a command -/

/-- How much later than the others a job may be over. -/
def Job.slack (config : DriveConfig) : Job → Micros
  | .settling _ => config.rangeSettle
  | _ => 0

/-- Where a command stands if whatever it waits for is over by `due`, but for the range finder. Up to its
session it has written no motor. -/
inductive Paced (config : DriveConfig) (c : DriveCommand) (before : WheelOutputs) (due : Micros) :
    Stage Phase Reply Drivetrain → Prop
  | heard {d : Drivetrain} {w : World} (loop : loops c = true) (same : d.config = config)
      (output : d.chassis.output = before) (soon : w.now ≤ due) :
      Paced config c before due (.waiting .none (.heard c), d, w)
  | preparing {time : Micros} {armed : Bool} {job : Job} {d : Drivetrain} {w : World}
      (prepares : Prepares c (.working job)) (same : d.config = config)
      (output : d.chassis.output = before) (early : w.now ≤ time)
      (soon : time ≤ due + job.slack config) :
      Paced config c before due (.waiting (.sleep ⟨time, armed⟩) (.working job), d, w)
  | looping {time : Micros} {armed : Bool} {a : Aim} {d : Drivetrain} {w : World}
      (same : d.config = config) (session : d.session = a.session) (early : w.now ≤ time)
      (soon : time ≤ due) :
      Paced config c before due (.waiting (.sleep ⟨time, armed⟩) (.working a.job), d, w)
  | ended {reply : Reply} {d : Drivetrain} {w : World}
      (output : d.chassis.output = WheelOutputs.stop) :
      Paced config c before due (.finished reply, d, w)

lemma Paced.mono {due' : Micros} (h : Paced config c before due b) (later : due ≤ due') :
    Paced config c before due' b := by
  cases h with
  | heard loop same output soon => exact .heard loop same output (Nat.le_trans soon later)
  | preparing prepares same output early soon =>
    exact .preparing prepares same output early
      (Nat.le_trans soon (Nat.add_le_add_right later _))
  | looping same session early soon =>
    exact .looping same session early (Nat.le_trans soon later)
  | ended output => exact .ended output

/-! ### One step -/

/-- After a look, a loop is due again in a period, unless it has found the robot out of autonomous. -/
lemma paced_of_stands {l : Look} (stands : a.Stands config l b) (same : b.2.1.config = config)
    (room : l.time + config.iteratePeriod ≤ due ∨ l.inAuto = false) :
    Paced config c before due b := by
  cases stands with
  | ended ends idle output => exact .ended output
  | waits quiet session output early late =>
    have staying : l.inAuto = true := by
      simp only [Aim.ends, Bool.or_eq_false_iff, Bool.not_eq_false'] at quiet
      exact quiet.1.1
    have soon := room.resolve_right (by simp [staying])
    exact .looping same session late soon

lemma output_zeroEncoder (d : Drivetrain) (now : Micros) (side : Side) :
    (d.zeroEncoder now side).chassis.output = d.chassis.output := by
  unfold zeroEncoder Chassis.setEncoder
  split
  · cases side <;> exact Chassis.output_touch _ _
  · rfl

/-- An attempt to zero the encoders writes no motor. -/
lemma output_attempt (d : Drivetrain) (now : Micros) :
    (d.attempt now).2.chassis.output = d.chassis.output := by
  rw [attempt, (watches_readEncoder _ now .right).output, output_zeroEncoder, output_zeroEncoder]

/-- An attempt to zero the encoders that leads to no session at once. -/
lemma paced_of_zeroed? {attempts : Nat} {params : MoveParams} {proximity : Bool}
    (h : d.zeroed? attempts params proximity w = none) (output : d.chassis.output = before)
    (now : w.now ≤ due)
    (room : w.now + d.config.iteratePeriod ≤ due ∨ w.mode.inAuto = false)
    {stage : Stage Job Reply Drivetrain}
    (done : d.zeroEncoders attempts params proximity w = .ok stage) :
    Paced d.config (if proximity then .proximityMove params else .measuredMove params) before due
      (underWay stage) := by
  have same := (tuned_attempt d w.now).config
  have written := (output_attempt d w.now).trans output
  cases attempted_of_zeroEncoders done with
  | refused e => exact .ended (output_drive _ w.now .stop)
  | again staying =>
    have soon := room.resolve_right (by simp [staying])
    cases proximity with
    | true => exact .preparing .proximity same written (Nat.le_add_right _ _) soon
    | false => exact .preparing .measured same written (Nat.le_add_right _ _) soon
  | settles zero proximate =>
    rw [if_pos proximate]
    exact .preparing .settling same ((Chassis.output_touch _ _).trans written) (Nat.le_add_right _ _)
      (Nat.add_le_add_right now _)
  | starts zero apart begun =>
    rw [zeroed?_of_zero zero apart] at h
    exact absurd begun (startStraight_ne_ok h _)

lemma mode_of_loop? {p : Phase} (h : loop? p d w = some (a, e, u)) : u.mode = w.mode := by
  have straight : ∀ {d : Drivetrain} {params : MoveParams} {goal : StraightGoal} {v : World},
      d.straight? params goal v = some (a, e, u) → u.mode = v.mode := by
    intro d params goal v h
    obtain ⟨s, -, -, -, -, rfl, -⟩ := straight?_eq_some h
    rfl
  cases p with
  | heard command =>
    cases command with
    | measuredMove params =>
      obtain ⟨s, -, -, -, -, -, rfl, -⟩ := zeroed?_eq_some h
      rfl
    | turn angle timeout =>
      obtain ⟨t, -, -, -, -, rfl, -⟩ := turn?_eq_some h
      rfl
    | _ => cases h
  | working job =>
    cases job with
    | zeroing attempts params proximity =>
      obtain ⟨s, -, -, -, -, -, rfl, -⟩ := zeroed?_eq_some h
      rfl
    | settling params =>
      have noticed : u.mode = (w.notice (.rangeTaken d.range params.distance)).mode := straight h
      exact noticed
    | driving | turning =>
      cases h
      rfl

/-- A stretch of work of a command that is prepared. -/
lemma paced_of_prepared {p : Phase} {wake : Wake} (prepares : Prepares c p)
    (output : d.chassis.output = before)
    (now : (∀ params, p ≠ .working (.settling params)) → w.now ≤ due)
    (room : w.now + d.config.iteratePeriod ≤ due ∨ w.mode.inAuto = false)
    (worked : orders.resume p wake d w = .ok b) : Paced d.config c before due b := by
  cases loop : loop? p d w with
  | some x =>
    obtain ⟨a, e, u⟩ := x
    have mode := mode_of_loop? loop
    obtain ⟨-, session, same, same_now, stage, looked, rfl⟩ := serves_of_loop? prepares loop worked
    obtain ⟨config, stands⟩ := stands_of_resume session looked
    rw [← same, ← same_now, ← mode] at room
    rw [← same]
    exact paced_of_stands stands config room
  | none =>
    cases prepares with
    | heard loops =>
      have soon : w.now ≤ due := now fun params same => by cases same
      obtain ⟨stage, began, done⟩ := bind_eq_ok.1 worked
      cases done
      cases c with
      | measuredMove params => exact paced_of_zeroed? loop output soon room began
      | proximityMove params =>
        have none : { d with session := .idle }.zeroed? d.config.zeroAttempts params true w = none := by
          simp [zeroed?]
        exact paced_of_zeroed? none output soon room began
      | turn angle timeout =>
        obtain ⟨t, begun, -⟩ := bind_eq_ok.1 began
        simp only [loop?, turn?, begun] at loop
        cases loop
      | _ => cases loops
    | measured | proximity =>
      have soon : w.now ≤ due := now fun params same => by cases same
      obtain ⟨stage, began, done⟩ := bind_eq_ok.1 worked
      cases done
      exact paced_of_zeroed? loop output soon room began
    | settling =>
      obtain ⟨stage, began, -⟩ := bind_eq_ok.1 worked
      exact absurd began (startStraight_ne_ok loop _)

/-- One look at a command, while there is time for another period or the robot is out of autonomous. -/
lemma paced_of_step {l : List Look} (h : Paced config c before due b)
    (room : b.2.2.now + config.iteratePeriod ≤ due ∨ b.2.2.mode.inAuto = false)
    (step : orders.Step b l b') : Paced config c before due b' := by
  cases step with
  | pending looked =>
    cases h with
    | heard => cases looked
    | preparing prepares same output early soon =>
      obtain ⟨rfl, still⟩ := World.poll_sleep_eq_pending looked
      exact .preparing prepares same output (still ▸ early) soon
    | looping same session early soon =>
      obtain ⟨rfl, still⟩ := World.poll_sleep_eq_pending looked
      exact .looping same session (still ▸ early) soon
  | @woken wait wake p d v w stage looked worked =>
    obtain ⟨same_now, same_mode⟩ := (World.ended_of_poll looked).untouched
    simp only [← same_now, ← same_mode] at room
    cases h with
    | heard loop same output soon =>
      subst same
      exact paced_of_prepared (.heard loop) output (fun _ => same_now ▸ soon) room worked
    | @preparing time armed job _ _ prepares same output early soon =>
      subst same
      have on_time : (∀ params, Phase.working job ≠ .working (.settling params)) → v.now ≤ due := by
        intro other
        cases job with
        | settling params => exact absurd rfl (other params)
        | zeroing | driving | turning => exact Nat.le_trans early soon
      exact paced_of_prepared prepares output (fun other => same_now ▸ on_time other) room worked
    | looping same session early soon =>
      subst same
      obtain ⟨stage, done, worked⟩ := bind_eq_ok.1 worked
      cases worked
      obtain ⟨config, stands⟩ := stands_of_resume session done
      exact paced_of_stands stands config room

/-! ### Runs -/

/-- What the surroundings may do to a command whose robot is out of autonomous: whatever they may do to
any, but they do not bring it back. -/
def Left (x y : Drivetrain × World) : Prop :=
  Beside x y ∧ y.2.mode.inAuto = false

lemma paced_of_beside {q : Progress Phase Reply} (h : Paced config c before due (q, d, w))
    (beside : Beside (d, w) (e, u)) (still : u.now = w.now) :
    Paced config c before due (q, e, u) := by
  have written : e.chassis.output = d.chassis.output := (watches_of_senses beside).output
  obtain ⟨⟨f, rfl⟩, -⟩ := beside
  cases h with
  | heard loop same output soon => exact .heard loop same (written.trans output) (still ▸ soon)
  | preparing prepares same output early soon =>
    exact .preparing prepares same (written.trans output) (still ▸ early) soon
  | looping same session early soon => exact .looping same session (still ▸ early) soon
  | ended output => exact .ended (written.trans output)

/-- Time goes by for a command, at most up to its alarm. -/
lemma paced_of_lasts {wait : Wait} {p : Phase} {time : Micros}
    (h : Paced config c before due (.waiting wait p, d, w)) (lasts : wait.Lasts w time) :
    Paced config c before due (.waiting wait p, d, { w with now := time }) := by
  cases h with
  | heard =>
    obtain ⟨-, ⟨wait, v, pending⟩, -⟩ := lasts
    cases pending
  | preparing prepares same output early soon =>
    exact .preparing prepares same output (lasts.quiet _ rfl).2 soon
  | looping same session early soon => exact .looping same session (lasts.quiet _ rfl).2 soon

/-- Work takes no time and leaves the mode flag alone. -/
lemma kept_of_step {l : List Look} (h : Paced config c before due b) (step : orders.Step b l b') :
    b'.2.2.now = b.2.2.now ∧ b'.2.2.mode = b.2.2.mode := by
  cases step with
  | pending looked =>
    have kept := (World.rearmed_of_poll looked).2
    exact ⟨kept.now, kept.mode⟩
  | @woken wait wake p d v w stage looked worked =>
    obtain ⟨same_now, same_mode⟩ := (World.ended_of_poll looked).untouched
    have work : ∀ {stage}, orders.resume p wake d w = .ok stage → World.Kept none w stage.2.2 := by
      intro stage worked
      cases p with
      | heard command =>
        obtain ⟨⟨q, e, u⟩, done, worked⟩ := bind_eq_ok.1 worked
        cases worked
        exact (keeps_obey d command w _ _ _ done).1
      | working job =>
        obtain ⟨⟨q, e, u⟩, done, worked⟩ := bind_eq_ok.1 worked
        cases worked
        exact (keeps_resume job d w _ _ _ done).1
    exact ⟨(work worked).now.trans same_now, (work worked).mode.trans same_mode⟩

/-- All through a command, whatever it waits for is over in a period, but for the range finder. -/
lemma paced_of_run {t : List (Passage Look)} (loop : loops c = true)
    (run : orders.TimedRun Beside (.waiting .none (.heard c), d, w) t b) :
    Paced d.config c d.chassis.output (b.2.2.now + d.config.iteratePeriod) b := by
  induction run with
  | start => exact .heard loop rfl rfl (Nat.le_add_right _ _)
  | look run step ih =>
    have now := (kept_of_step ih step).1
    rw [now]
    exact paced_of_step ih (.inl (Nat.le_refl _)) step
  | around run change still ih =>
    have later := paced_of_beside ih change still
    simp only [still]
    exact later
  | tick run lasts ih =>
    exact paced_of_lasts (ih.mono (Nat.add_le_add_right lasts.later _)) lasts

/-- Out of autonomous, the waits are not renewed. -/
lemma paced_of_left {t : List (Passage Look)} (h : Paced config c before due b)
    (left : b.2.2.mode.inAuto = false) (run : orders.TimedRun Left b t b') :
    Paced config c before due b' ∧ b'.2.2.mode.inAuto = false := by
  induction run with
  | start => exact ⟨h, left⟩
  | look run step ih =>
    obtain ⟨paced, left⟩ := ih
    exact ⟨paced_of_step paced (.inr left) step, (kept_of_step paced step).2 ▸ left⟩
  | around run change still ih => exact ⟨paced_of_beside ih.1 change.1 still, change.2⟩
  | tick run lasts ih => exact ⟨paced_of_lasts ih.1 lasts, ih.2⟩

/-- A command that is carried out, and whose robot leaves autonomous and stays out of it for a period.
At the end of the period it is over and both motors stand still, or it is a proximity move whose range
finder settles. Then the motors do what they did when the command was heard, and they do so until the
range finder has settled at the latest. -/
theorem stopped_or_settling {t l : List (Passage Look)} (loop : loops c = true)
    (run : orders.TimedRun Beside (.waiting .none (.heard c), d, w) t b)
    (left : b.2.2.mode.inAuto = false) (after : orders.TimedRun Left b l b')
    (quiet : Routine.Quiescent b') (long : b.2.2.now + d.config.iteratePeriod ≤ b'.2.2.now) :
    ((∃ reply, b'.1 = .finished reply) ∧ b'.2.1.chassis.output = WheelOutputs.stop) ∨
      ∃ wait params, c = .proximityMove params ∧
        b'.1 = .waiting wait (.working (.settling params)) ∧
        b'.2.1.chassis.output = d.chassis.output ∧
        b'.2.2.now < b.2.2.now + d.config.iteratePeriod + d.config.rangeSettle := by
  obtain ⟨paced, -⟩ := paced_of_left (paced_of_run loop run) left after
  cases paced with
  | heard => exact absurd quiet Routine.not_quiescent_of_none
  | ended output => exact .inl ⟨⟨_, rfl⟩, output⟩
  | looping same session early soon =>
    have before_alarm := quiet.now_lt
    exact absurd (Nat.le_trans soon long) (Nat.not_le_of_lt before_alarm)
  | @preparing time armed job e u prepares same output early soon =>
    have before_alarm := quiet.now_lt
    cases prepares with
    | measured | proximity => exact absurd (Nat.le_trans soon long) (Nat.not_le_of_lt before_alarm)
    | settling => exact .inr ⟨_, _, rfl, rfl, output, Nat.lt_of_lt_of_le before_alarm soon⟩

/-- A drivetrain that spins on the spot. -/
def spinning : Drivetrain :=
  { chassis := { output := ⟨-0.25, -0.25⟩ }, range := 40 }

/-- A move up to ten inches from whatever is in front of the robot. -/
def approach : DriveCommand :=
  .proximityMove { speed := 0.5, distance := 10, timeout := 2 }

/-- The robot is told to approach while it spins, and leaves autonomous at once. Five milliseconds later
it waits for the range finder, and spins. -/
lemma exists_spin : ∃ t b l b',
    orders.TimedRun Beside (.waiting .none (.heard approach), spinning, { mode := .autonomous }) t b ∧
      b.2.2.mode.inAuto = false ∧ orders.TimedRun Left b l b' ∧ Routine.Quiescent b' ∧
      b.2.2.now + spinning.config.iteratePeriod ≤ b'.2.2.now ∧ b'.1.isWaiting = true ∧
      (b'.2.1.chassis.output.right == 0) = false := by
  have played : ((orders.playTimed [.look, .look, .around fun w => { w with mode := .teleoperated }]
      (.waiting .none (.heard approach), spinning, { mode := .autonomous })).any fun x =>
        match x.2 with
        | (.waiting wait _, d, w) => !w.mode.inAuto && decide (w.now = 0) &&
          Routine.lasts? wait w 5000 && Routine.lasts? wait { w with now := 5000 } 6000 &&
          !(d.chassis.output.right == 0)
        | _ => false) = true := by
    decide +kernel
  obtain ⟨⟨t, b⟩, played, passed⟩ := (Option.any_eq_true _ _).1 played
  have free : ∀ (d : Drivetrain) (v w : World), Beside (d, v) (d, w) :=
    fun d _ _ => Part.Senses.refl .drivetrain d
  have run := Routine.timedRun_of_playTimed free played
  obtain ⟨_ | _, d, w⟩ := b
  · simp only [Bool.and_eq_true, Bool.not_eq_true', decide_eq_true_eq] at passed
    obtain ⟨⟨⟨⟨left, start⟩, period⟩, longer⟩, spins⟩ := passed
    refine ⟨t, _, _, _, run, left, (Routine.TimedRun.start _).tick (Routine.lasts_of_lasts? period), ?_,
      ?_, rfl, spins⟩
    · intro wait p waits
      cases waits
      exact ⟨6000, (by decide : 5000 < 6000), Routine.lasts_of_lasts? longer⟩
    · have iterates : spinning.config.iteratePeriod = 5000 := rfl
      simp only [start, iterates, Nat.zero_add, Nat.le_refl]
  · cases passed

/-- So it goes on to spin for half a second. -/
theorem spins_while_settling : ∃ t b l b',
    orders.TimedRun Beside (.waiting .none (.heard approach), spinning, { mode := .autonomous }) t b ∧
      b.2.2.mode.inAuto = false ∧ orders.TimedRun Left b l b' ∧ Routine.Quiescent b' ∧
      b.2.2.now + spinning.config.iteratePeriod ≤ b'.2.2.now ∧
      ∃ wait params, b'.1 = .waiting wait (.working (.settling params)) ∧
        b'.2.1.chassis.output = ⟨-0.25, -0.25⟩ ∧ b'.2.2.now < b.2.2.now + 5000 + 500000 := by
  obtain ⟨t, b, l, b', run, left, after, quiet, long, waits, -⟩ := exists_spin
  rcases stopped_or_settling rfl run left after quiet long with ⟨⟨reply, ended⟩, -⟩ | settles
  · rw [ended] at waits
    cases waits
  · obtain ⟨wait, params, -, settles, output, soon⟩ := settles
    exact ⟨t, b, l, b', run, left, after, quiet, long, wait, params, settles, output, soon⟩

/-- A period out of autonomous does not always stop the motors. -/
theorem exists_run_on : ¬ ∀ {c : DriveCommand} {d : Drivetrain} {w : World}
    {t l : List (Passage Look)} {b b' : Stage Phase Reply Drivetrain}, loops c = true →
    orders.TimedRun Beside (.waiting .none (.heard c), d, w) t b → b.2.2.mode.inAuto = false →
    orders.TimedRun Left b l b' → Routine.Quiescent b' →
    b.2.2.now + d.config.iteratePeriod ≤ b'.2.2.now →
    (b'.2.1.chassis.output.left == 0) = true ∧ (b'.2.1.chassis.output.right == 0) = true := by
  intro stops
  obtain ⟨t, b, l, b', run, left, after, quiet, long, -, spins⟩ := exists_spin
  have stopped := (stops rfl run left after quiet long).2
  cases spins.symm.trans stopped

end Drivetrain

end MatchRobot
