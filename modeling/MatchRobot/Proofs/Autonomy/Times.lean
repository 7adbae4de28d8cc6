import MatchRobot.Proofs.Autonomy.Course
import MatchRobot.Proofs.Number.Single
import MatchRobot.Proofs.Subsystem.Moves

/-!
# The times of a script

The moves and turns of a script carry a time, and a session that begins adds it to the clock. The parser
takes any number for a time, `inf` included. What is too much for a count of microseconds takes the span
to the end of the clock, and then there is no room left for the deadline: the program ends with a fault.

`Clock.beyond_iff` says which times these are while the clock is young, and `Drivetrain.overflows_iff` which
stretch of work comes to the fault. `Script.times_of_line` follows a line from its text to the end of its
command.
-/

namespace MatchRobot

namespace Clock

/-- From the first microsecond on and for twelve days, a deadline is beyond the clock exactly if its time
is endless. -/
lemma beyond_iff {now : Micros} {x : Float32} (begun : 0 < now) (young : now < 2 ^ 40) :
    limit ≤ now + seconds x ↔ endless ≤ x := by
  rcases seconds_cases x with ⟨long, span⟩ | ⟨short, span⟩
  · refine iff_of_true ?_ long
    calc limit = 1 + (limit - 1) := (Nat.add_sub_cancel' (by decide)).symm
      _ ≤ now + seconds x := Nat.add_le_add begun (Nat.le_of_eq span.symm)
  · refine iff_of_false (Nat.not_le_of_lt ?_) short
    calc now + seconds x < 2 ^ 40 + (limit - 2 ^ 40) := Nat.add_lt_add_of_lt_of_le young span
      _ = limit := Nat.add_sub_cancel' (by decide)

end Clock

/-- The time that a drivetrain command gives its session, if it begins one. -/
def DriveCommand.time? : DriveCommand → Option Float32
  | .measuredMove params | .proximityMove params => some params.timeout
  | .timedMove _ time => some time
  | .turn _ timeout => some timeout
  | .stop | .tank .. | .cheesy .. | .autoMove .. => none

namespace Drivetrain

variable {d : Drivetrain} {w : World} {x : Float32}

/-! ### Where a session begins -/

/-- Whether an attempt to zero the encoders succeeds. -/
def zeroes (d : Drivetrain) (attempts : Nat) (now : Micros) : Bool :=
  attempts != 0 && (((d.zeroEncoder now .left).zeroEncoder now .right).readEncoder now .right).1 == 0

/-- Whether a stretch of work begins the session of a command. -/
def begins : Phase → Drivetrain → Micros → Bool
  | .heard (.measuredMove _), d, now => { d with session := .idle }.zeroes d.config.zeroAttempts now
  | .heard (.timedMove ..), _, _ | .heard (.turn ..), _, _ => true
  | .working (.zeroing attempts _ false), d, now => d.zeroes attempts now
  | .working (.settling _), _, _ => true
  | _, _, _ => false

/-- A phase of a command that gives its session the time `x`. -/
inductive Carries (x : Float32) : Phase → Prop
  | heard {c : DriveCommand} (h : c.time? = some x) : Carries x (.heard c)
  | zeroing {attempts : Nat} {params : MoveParams} {proximity : Bool} (h : params.timeout = x) :
      Carries x (.working (.zeroing attempts params proximity))
  | settling {params : MoveParams} (h : params.timeout = x) : Carries x (.working (.settling params))
  | moving (a : Aim) : Carries x (.working a.job)

/-- The sleeps of a command fit the clock. -/
structure Sleeps (d : Drivetrain) (now : Micros) : Prop where
  look : now + d.config.iteratePeriod < Clock.limit
  settle : now + d.config.rangeSettle < Clock.limit

/-! ### The fault of the clock -/

/-- A loop whose next look fits the clock comes to no fault. -/
lemma resume_ne_error (a : Aim) (sleeps : w.now + d.config.iteratePeriod < Clock.limit) (fault : Fault) :
    d.resume a.job w ≠ .error fault := by
  intro faulty
  obtain ⟨-, -, beyond⟩ := (resume_eq_error_iff a d w fault).1 faulty
  exact absurd sleeps (Nat.not_lt_of_le beyond)

lemma sleepFor_ne_error {now span : Micros} (fits : now + span < Clock.limit) (fault : Fault) :
    Wait.sleepFor now span ≠ .error fault :=
  fun faulty => absurd fits (Nat.not_lt_of_le (Wait.sleepFor_eq_error_iff.1 faulty).2)

lemma startStraight_eq_error_iff {params : MoveParams} {goal : StraightGoal}
    (sleeps : w.now + d.config.iteratePeriod < Clock.limit) :
    d.startStraight params goal w = .error .clockOverflow ↔
      Clock.limit ≤ w.now + Clock.seconds params.timeout := by
  refine (bind_eq_error_iff fun s _ => ?_).trans (startDrive_eq_error_iff.trans (and_iff_right rfl))
  exact resume_ne_error (d := { d with session := .straight s }) (.straight s) sleeps _

lemma beginTurn_eq_error_iff {angle timeout : Float32}
    (sleeps : w.now + d.config.iteratePeriod < Clock.limit) :
    d.startTurn angle timeout w = .error .clockOverflow ↔
      Clock.limit ≤ w.now + Clock.seconds timeout := by
  refine (bind_eq_error_iff fun t _ => ?_).trans (startTurn_eq_error_iff.trans (and_iff_right rfl))
  exact resume_ne_error (d := { d.zeroGyro w.now with session := .turning t }) (.turn t) sleeps _

/-- A timed move has no deadline but that of its session, and its cycle looks no further. -/
lemma startTimed_eq_error_iff {speed time : Float32} :
    (do let d ← d.startTimed speed time w; d.settle w) = .error .clockOverflow ↔
      Clock.limit ≤ w.now + Clock.seconds time := by
  refine (bind_eq_error_iff fun e started => ?_).trans
    (bind_pure_eq_error_iff.trans (startDrive_eq_error_iff.trans (and_iff_right rfl)))
  obtain ⟨s, -, begun⟩ := bind_eq_ok.1 started
  cases begun
  exact nofun

lemma zeroEncoders_eq_error_iff {attempts : Nat} {params : MoveParams} {proximity : Bool}
    (sleeps : d.Sleeps w.now) : d.zeroEncoders attempts params proximity w = .error .clockOverflow ↔
      (proximity = false ∧ d.zeroes attempts w.now = true) ∧
        Clock.limit ≤ w.now + Clock.seconds params.timeout := by
  let e := (((d.zeroEncoder w.now .left).zeroEncoder w.now .right).readEncoder w.now .right).2
  have same : e.config = d.config := (tuned_attempt d w.now).config
  have look : w.now + e.config.iteratePeriod < Clock.limit := same ▸ sleeps.look
  have settle : w.now + e.config.rangeSettle < Clock.limit := same ▸ sleeps.settle
  cases attempts with
  | zero => simp [zeroEncoders, zeroes]
  | succ attempts =>
    simp only [zeroEncoders, zeroes, bne_iff_ne, ne_eq, Nat.add_one_ne_zero, not_false_eq_true,
      Bool.and_eq_true, true_and, beq_iff_eq]
    split
    · next zero =>
      unfold startMove
      cases proximity with
      | true =>
        refine iff_of_false ?_ fun h => absurd h.1.1.symm Bool.false_ne_true
        exact bind_pure_eq_error_iff.not.2 (sleepFor_ne_error settle _)
      | false =>
        rw [and_iff_right ⟨rfl, zero⟩]
        exact startStraight_eq_error_iff (d := e.zeroGyro w.now) look
    · next off =>
      refine iff_of_false ?_ fun h => off h.1.2
      split
      · exact bind_pure_eq_error_iff.not.2 (sleepFor_ne_error look _)
      · simp

/-- Provided that its sleeps fit the clock, a command comes to the fault of the clock exactly where its
session begins and the deadline is beyond the clock. -/
lemma overflows_iff {p : Phase} (carries : Carries x p) (wake : Wake) (sleeps : d.Sleeps w.now) :
    orders.resume p wake d w = .error .clockOverflow ↔
      begins p d w.now = true ∧ Clock.limit ≤ w.now + Clock.seconds x := by
  cases carries with
  | @heard c time =>
    refine bind_pure_eq_error_iff.trans ?_
    let idle := { d with session := .idle }
    have idle_sleeps : idle.Sleeps w.now := ⟨sleeps.look, sleeps.settle⟩
    cases c with
    | measuredMove params =>
      obtain rfl := Option.some.inj time
      refine (zeroEncoders_eq_error_iff (d := idle) idle_sleeps).trans ?_
      exact and_congr_left' (and_iff_right rfl)
    | proximityMove params =>
      refine iff_of_false ?_ nofun
      exact fun faulty => nomatch ((zeroEncoders_eq_error_iff (d := idle) idle_sleeps).1 faulty).1.1
    | timedMove speed time' =>
      obtain rfl := Option.some.inj time
      exact startTimed_eq_error_iff.trans (and_iff_right rfl).symm
    | turn angle timeout =>
      obtain rfl := Option.some.inj time
      exact (beginTurn_eq_error_iff (d := idle) sleeps.look).trans (and_iff_right rfl).symm
    | _ => cases time
  | @zeroing attempts params proximity time =>
    subst time
    refine bind_pure_eq_error_iff.trans ((zeroEncoders_eq_error_iff sleeps).trans ?_)
    cases proximity with
    | true => exact iff_of_false (fun h => nomatch h.1.1) nofun
    | false => exact and_congr_left' (and_iff_right rfl)
  | @settling params time =>
    subst time
    let u := w.notice (.rangeTaken d.range params.distance)
    have started : d.startStraight params (.standOff d.range params.distance) u =
        .error .clockOverflow ↔ Clock.limit ≤ u.now + Clock.seconds params.timeout :=
      startStraight_eq_error_iff sleeps.look
    exact bind_pure_eq_error_iff.trans (started.trans (and_iff_right rfl).symm)
  | moving a =>
    refine iff_of_false (bind_pure_eq_error_iff.not.2 (resume_ne_error a sleeps.look _)) ?_
    cases a <;> nofun

/-! ### The phases of a command -/

variable {stage : Stage Job Reply Drivetrain}

/-- A loop leads to nothing but itself. -/
lemma leads_resume (a : Aim) (done : d.resume a.job w = .ok stage) :
    stage.1.Leads (fun job => Carries x (.working job)) fun _ => True := by
  cases ends : a.ends d.config (a.look d w) with
  | true =>
    obtain ⟨e, u, ended, -⟩ := resume_of_ends ends
    cases ended.symm.trans done
    trivial
  | false =>
    obtain ⟨e, quiet, -⟩ := resume_of_quiet ends
    obtain ⟨wait, -, slept⟩ := bind_eq_ok.1 (quiet.symm.trans done)
    cases slept
    exact .moving a

lemma leads_startStraight {params : MoveParams} {goal : StraightGoal}
    (done : d.startStraight params goal w = .ok stage) :
    stage.1.Leads (fun job => Carries x (.working job)) fun _ => True := by
  obtain ⟨s, -, done⟩ := bind_eq_ok.1 done
  exact leads_resume (d := { d with session := .straight s }) (.straight s) done

lemma leads_zeroEncoders {attempts : Nat} {params : MoveParams} {proximity : Bool}
    (time : params.timeout = x) (done : d.zeroEncoders attempts params proximity w = .ok stage) :
    stage.1.Leads (fun job => Carries x (.working job)) fun _ => True := by
  cases attempted_of_zeroEncoders done with
  | refused => trivial
  | again => exact .zeroing time
  | settles => exact .settling time
  | starts zero apart begun => exact leads_startStraight begun

/-- The time of a command stays with it until its session has begun. -/
lemma carries_of_resume {p q : Phase} {wake : Wake} {wait : Wait} {b : Stage Phase Reply Drivetrain}
    (carries : Carries x p) (done : orders.resume p wake d w = .ok b) (waits : b.1 = .waiting wait q) :
    Carries x q := by
  obtain ⟨stage, worked, leads⟩ : ∃ stage : Stage Job Reply Drivetrain, b = underWay stage ∧
      stage.1.Leads (fun job => Carries x (.working job)) fun _ => True := by
    cases carries with
    | @heard c time =>
      obtain ⟨stage, worked, same⟩ := bind_eq_ok.1 done
      cases same
      refine ⟨stage, rfl, ?_⟩
      cases c with
      | measuredMove params | proximityMove params =>
        exact leads_zeroEncoders (Option.some.inj time) worked
      | timedMove speed time' =>
        obtain ⟨e, -, settled⟩ := bind_eq_ok.1 worked
        rw [(inGear_settle settled).1]
        trivial
      | turn angle timeout =>
        obtain ⟨t, -, turned⟩ := bind_eq_ok.1 worked
        exact leads_resume (.turn t) turned
      | _ => cases time
    | zeroing time =>
      obtain ⟨stage, worked, same⟩ := bind_eq_ok.1 done
      cases same
      exact ⟨stage, rfl, leads_zeroEncoders time worked⟩
    | settling time =>
      obtain ⟨stage, worked, same⟩ := bind_eq_ok.1 done
      cases same
      exact ⟨stage, rfl, leads_startStraight worked⟩
    | moving a =>
      obtain ⟨stage, worked, same⟩ := bind_eq_ok.1 done
      cases same
      exact ⟨stage, rfl, leads_resume a worked⟩
  obtain ⟨progress, e, u⟩ := stage
  subst worked
  cases progress with
  | waiting wait job =>
    cases waits
    exact leads
  | finished reply => cases waits

lemma carries_of_run {c : DriveCommand} {t : List Look} {b : Stage Phase Reply Drivetrain}
    (time : c.time? = some x)
    (run : orders.Run Beside (.waiting .none (.heard c), d, w) t b) :
    ∀ wait p, b.1 = .waiting wait p → Carries x p := by
  refine run.fitting (fun carries _ => carries) ?_ ?_
  · intro wait wake p d w b carries done wait' q waits
    exact carries_of_resume carries done waits
  · intro wait p heard
    cases heard
    exact .heard time

end Drivetrain

/-! ### Lines -/

/-- Whether the command of a keyword has a session with a time. -/
def Keyword.isTimed : Keyword → Bool
  | measuredMove | proximityMove | timedMove | turn => true
  | _ => false

namespace Script

lemma length_of_numbers {key : Keyword} {n : Nat} {args : List Char} {xs : List Float32}
    (h : numbers key n args = .ok xs) : xs.length = n := by
  induction n generalizing args xs with
  | zero =>
    cases h
    rfl
  | succ n ih =>
    obtain ⟨⟨x, rest⟩, -, h⟩ := bind_eq_ok.1 h
    obtain ⟨ys, later, h⟩ := bind_eq_ok.1 h
    cases h
    exact congrArg Nat.succ (ih later)

/-- A line of such a keyword posts one drivetrain command, and the last number of the line is its
time. -/
lemma order_of_parse (config : AutoConfig) {key : Keyword} {args : List Char} {s : Statement}
    (timed : key.isTimed = true) (parsed : Statement.parse key args = .ok s) :
    ∃ xs x c, numbers key key.arity args = .ok xs ∧ xs.getLast? = some x ∧
      s.outlines config = [⟨.drivetrain, .drive c, key != .timedMove⟩] ∧ c.time? = some x := by
  obtain ⟨xs, read, built⟩ := bind_eq_ok.1 parsed
  have long := length_of_numbers read
  cases key with
  | measuredMove | proximityMove =>
    obtain ⟨x, y, z, rfl⟩ := List.length_eq_three.1 long
    cases built
    exact ⟨_, z, _, read, rfl, rfl, rfl⟩
  | timedMove | turn =>
    obtain ⟨x, y, rfl⟩ := List.length_eq_two.1 long
    cases built
    exact ⟨_, y, _, read, rfl, rfl, rfl⟩
  | _ => cases timed

/-- A line whose keyword is that of a move with a time or of a turn posts one command. As long as its
sleeps fit the clock, the command comes to the fault of the clock exactly where its session begins, if the
last number of the line takes the deadline beyond the clock; while the clock is young, that is the case
exactly for times that are endless. -/
theorem times_of_line {config : AutoConfig} {line : String} {key : Keyword} {args : List Char}
    {s : Statement} (taken : reading config.keywordMatch line.toList = .command key args)
    (timed : key.isTimed = true) (parsed : Statement.parse key args = .ok s) :
    ∃ xs x c, numbers key key.arity args = .ok xs ∧ xs.getLast? = some x ∧
      (share config line).posts = [⟨.drivetrain, .drive c, key != .timedMove⟩] ∧ c.time? = some x ∧
      ∀ {d : Drivetrain} {w : World} {t : List Drivetrain.Look}
        {b : Stage Drivetrain.Phase Reply Drivetrain},
        Drivetrain.orders.Run Drivetrain.Beside (.waiting .none (.heard c), d, w) t b →
        ∀ wait p, b.1 = .waiting wait p → ∀ wake u, b.2.1.Sleeps u.now →
          (Drivetrain.orders.resume p wake b.2.1 u = .error .clockOverflow ↔
            Drivetrain.begins p b.2.1 u.now = true ∧ Clock.limit ≤ u.now + Clock.seconds x) ∧
          (0 < u.now → u.now < 2 ^ 40 →
            (Clock.limit ≤ u.now + Clock.seconds x ↔ Clock.endless ≤ x)) := by
  obtain ⟨xs, x, c, read, last, posts, time⟩ := order_of_parse config timed parsed
  refine ⟨xs, x, c, read, last, ?_, time, fun run wait p waits wake u sleeps => ?_⟩
  · simp only [share, taken, Reading.share, parsed]
    exact posts
  · have carries := Drivetrain.carries_of_run time run wait p waits
    exact ⟨Drivetrain.overflows_iff carries wake sleeps, Clock.beyond_iff⟩

/-- A timed move for ever. -/
def forever : String :=
  "TMOVE 0.5 inf"

/-- The time of a line that is taken as a timed move. -/
def timedMove? (line : String) : Option Float32 :=
  match reading .exact line.toList with
  | .command .timedMove args => match Statement.parse .timedMove args with
    | .ok (.timedMove _ time) => some time
    | _ => none
  | _ => none

lemma exists_forever : ∃ args speed time,
    reading ({} : AutoConfig).keywordMatch forever.toList = .command .timedMove args ∧
    Statement.parse .timedMove args = .ok (.timedMove speed time) ∧ Clock.endless ≤ time ∧
    (share {} forever).posts = [⟨.drivetrain, .drive (.timedMove speed time), false⟩] := by
  have read : (timedMove? forever).any (fun time => Clock.endless ≤ time) = true := by
    decide +kernel
  obtain ⟨time, moves, long⟩ := (Option.any_eq_true _ _).1 read
  unfold timedMove? at moves
  split at moves
  · next args taken =>
    split at moves
    · next speed time' parsed =>
      obtain rfl := Option.some.inj moves
      have posts : (Reading.command .timedMove args).share {} =
          ⟨[⟨.drivetrain, .drive (.timedMove speed time'), false⟩], 1, false⟩ := by
        simp only [Reading.share, parsed]
        rfl
      refine ⟨args, speed, _, taken, parsed, of_decide_eq_true long, ?_⟩
      exact (congrArg (fun r => (Reading.share {} r).posts) taken).trans (congrArg Share.posts posts)
    · cases moves
  · cases moves

/-- A millisecond after power-on, a timed move for ever ends the program. -/
theorem forever_outlasts_clock : ∃ c, (share {} forever).posts = [⟨.drivetrain, .drive c, false⟩] ∧
    Drivetrain.orders.resume (.heard c) .go {} { now := 1000 } = .error .clockOverflow := by
  obtain ⟨args, speed, time, taken, parsed, long, posted⟩ := exists_forever
  obtain ⟨xs, x, c, -, -, posts, given, faults⟩ := times_of_line taken rfl parsed
  obtain rfl : c = .timedMove speed time := by
    have same := posts.symm.trans posted
    simpa using same
  obtain rfl := Option.some.inj given
  have sleeps : Drivetrain.Sleeps {} 1000 := ⟨by decide, by decide⟩
  obtain ⟨overflows, beyond⟩ :=
    faults (d := {}) (w := { now := 1000 }) (.start _) .none _ rfl .go { now := 1000 } sleeps
  refine ⟨_, posts, overflows.2 ⟨rfl, ?_⟩⟩
  exact (beyond (by decide) (by decide)).2 long

/-- What is expected of the times of a script: no line leads to the fault of the clock. -/
def TimesFit : Prop :=
  ∀ {config : AutoConfig} {line : String} {key : Keyword} {args : List Char} {s : Statement}
    {c : DriveCommand} {asks : Bool} {d : Drivetrain} {w : World},
    reading config.keywordMatch line.toList = .command key args → key.isTimed = true →
    Statement.parse key args = .ok s →
    (share config line).posts = [⟨.drivetrain, .drive c, asks⟩] → d.Sleeps w.now →
    d.obey c w ≠ .error .clockOverflow

/-- A timed move for ever does. -/
theorem time_outlasts_clock : ¬ TimesFit := by
  intro claim
  obtain ⟨args, speed, time, taken, parsed, long, posted⟩ := exists_forever
  have sleeps : Drivetrain.Sleeps {} 1000 := ⟨by decide, by decide⟩
  have beyond : Clock.limit ≤ 1000 + Clock.seconds time :=
    (Clock.beyond_iff (by decide) (by decide)).2 long
  have fault : Drivetrain.obey {} (.timedMove speed time) { now := 1000 } = .error .clockOverflow :=
    Drivetrain.startTimed_eq_error_iff.2 beyond
  exact claim taken rfl parsed posted sleeps fault

end Script

end MatchRobot
