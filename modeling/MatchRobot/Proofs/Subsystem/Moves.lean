import MatchRobot.Proofs.Subsystem.Looks
import MatchRobot.Proofs.Task.Timed

/-!
# Moves and turns to their end

`Drivetrain.orders` is a drivetrain command from the time when it is heard to its reply, with the looks of
its loop as notes. Before the session of a move, the encoders are zeroed, and if that fails there is none.

Whatever the sensors show and whatever becomes of the mode flag, a run of such a command still prepares
its session, has been refused, or has kept to the `Aim.Course` of its session: one look each period, none
but the last of which ends the loop. And a loop whose looks fit the clock cannot help coming to its end
(`Drivetrain.moves_of_run`). Where a look does not fit the clock, the program ends with a fault, even if
the deadline fits (`Drivetrain.turn_outruns_clock`).
-/

namespace MatchRobot

namespace Drivetrain

variable {a : Aim} {d e : Drivetrain} {w : World}

/-! ### A command and its loop -/

/-- Whether the session of a command is driven to its end before the next message is read. -/
def loops : DriveCommand → Bool
  | .measuredMove _ | .proximityMove _ | .turn .. => true
  | _ => false

/-- Where the drivetrain stands with a command. -/
inductive Phase
  | heard (command : DriveCommand)
  | working (job : Job)

/-- A stage of a job, seen from the command that it belongs to. -/
def underWay (stage : Stage Job Reply Drivetrain) : Stage Phase Reply Drivetrain :=
  (stage.1.inside .working, stage.2)

/-- The loop of a straight drive that is begun at a time, if its deadline fits the clock. -/
def straight? (d : Drivetrain) (params : MoveParams) (goal : StraightGoal) (w : World) :
    Option (Aim × Drivetrain × World) :=
  (StraightDrive.start d.config params.speed goal (Clock.seconds params.timeout) w.now).toOption.map
    fun s => (.straight s, { d with session := .straight s }, w)

/-- The loop that an attempt to zero the encoders leads to at once. -/
def zeroed? (d : Drivetrain) (attempts : Nat) (params : MoveParams) (proximity : Bool) (w : World) :
    Option (Aim × Drivetrain × World) :=
  let (right, d) := ((d.zeroEncoder w.now .left).zeroEncoder w.now .right).readEncoder w.now .right
  if attempts = 0 ∨ right ≠ 0 ∨ proximity then none
  else (d.zeroGyro w.now).straight? params (.distance params.distance) w

/-- The loop that a turn leads to at once. -/
def turn? (d : Drivetrain) (angle timeout : Float32) (w : World) :
    Option (Aim × Drivetrain × World) :=
  (Turn.start angle (Clock.seconds timeout) w.now).toOption.map fun t =>
    (.turn t, { d.zeroGyro w.now with session := .turning t }, w)

/-- The loop that looks at its sensors in a stretch of work, if there is one, with the state and the
world that it finds. -/
def loop? : Phase → Drivetrain → World → Option (Aim × Drivetrain × World)
  | .heard (.measuredMove params), d, w =>
    { d with session := .idle }.zeroed? d.config.zeroAttempts params false w
  | .heard (.turn angle timeout), d, w => { d with session := .idle }.turn? angle timeout w
  | .working (.zeroing attempts params proximity), d, w => d.zeroed? attempts params proximity w
  | .working (.settling params), d, w =>
    d.straight? params (.standOff d.range params.distance)
      (w.notice (.rangeTaken d.range params.distance))
  | .working (.driving s), d, w => some (.straight s, d, w)
  | .working (.turning t), d, w => some (.turn t, d, w)
  | _, _, _ => none

/-- A drivetrain command from the time when it is heard to its reply; noted are the looks of its loop. -/
def orders : Routine Phase Reply Drivetrain Look where
  resume p _ d w := match p with
    | .heard c => do return underWay (← d.obey c w)
    | .working job => do return underWay (← d.resume job w)
  notes _ p _ d w := (loop? p d w).toList.map fun (a, d, w) => a.look d w

/-- What the surroundings may do to a command: whatever they like to the world, the mode flag included,
and to all that the sensors show. -/
def Beside (x y : Drivetrain × World) : Prop :=
  Part.drivetrain.Senses x.1 y.1

/-- The session that a command begins at a time. -/
inductive Serves (config : DriveConfig) (start : Micros) : DriveCommand → Aim → Prop
  | measured {params : MoveParams} {s : StraightDrive}
      (begun : StraightDrive.start config params.speed (.distance params.distance)
        (Clock.seconds params.timeout) start = .ok s) :
      Serves config start (.measuredMove params) (.straight s)
  | proximity {params : MoveParams} {s : StraightDrive} {range : Float32}
      (begun : StraightDrive.start config params.speed (.standOff range params.distance)
        (Clock.seconds params.timeout) start = .ok s) :
      Serves config start (.proximityMove params) (.straight s)
  | turn {angle timeout : Float32} {t : Turn}
      (begun : Turn.start angle (Clock.seconds timeout) start = .ok t) :
      Serves config start (.turn angle timeout) (.turn t)

/-- The phases of a command before its session. -/
inductive Prepares : DriveCommand → Phase → Prop
  | heard {c : DriveCommand} (h : loops c = true) : Prepares c (.heard c)
  | measured {params : MoveParams} {attempts : Nat} :
      Prepares (.measuredMove params) (.working (.zeroing attempts params false))
  | proximity {params : MoveParams} {attempts : Nat} :
      Prepares (.proximityMove params) (.working (.zeroing attempts params true))
  | settling {params : MoveParams} : Prepares (.proximityMove params) (.working (.settling params))

/-- Where a loop stands after a look: it sleeps until the next one is due, or it has ended. -/
inductive Aim.Stands (config : DriveConfig) (a : Aim) (l : Look) : Stage Phase Reply Drivetrain → Prop
  | waits {armed : Bool} {d : Drivetrain} {w : World} (quiet : a.ends config l = false)
      (session : d.session = a.session) (output : d.chassis.output = a.wheels config l)
      (early : l.time ≤ w.now) (late : w.now ≤ l.time + config.iteratePeriod) :
      Stands config a l
        (.waiting (.sleep ⟨l.time + config.iteratePeriod, armed⟩) (.working a.job), d, w)
  | ended {d : Drivetrain} {w : World} (ends : a.ends config l = true) (idle : d.session = .idle)
      (output : d.chassis.output = WheelOutputs.stop) :
      Stands config a l (.finished (a.answer config l), d, w)

/-- How a loop that was begun at `start` has come to stand: it has looked once each period, no look but
the last one ended it, and that one comes within a period of the deadline. -/
structure Aim.Course (config : DriveConfig) (start : Micros) (a : Aim) (looks : List Look)
    (b : Stage Phase Reply Drivetrain) : Prop where
  same : b.2.1.config = config
  times : ∀ (i : Nat) l, looks[i]? = some l → l.time = start + i * config.iteratePeriod
  quiet : ∀ l ∈ looks.dropLast, a.ends config l = false
  stands : ∃ l, looks.getLast? = some l ∧ l.time < a.deadline + config.iteratePeriod ∧
    a.Stands config l b

/-- How a command has come to stand. -/
inductive Standing (config : DriveConfig) (c : DriveCommand) :
    List Look → Stage Phase Reply Drivetrain → Prop
  /-- It has no session yet. -/
  | preparing {wait : Wait} {p : Phase} {d : Drivetrain} {w : World} (prepares : Prepares c p)
      (idle : p = .heard c ∨ d.session = .idle) (same : d.config = config) :
      Standing config c [] (.waiting wait p, d, w)
  /-- The encoders could not be zeroed. -/
  | refused {d : Drivetrain} {w : World} (idle : d.session = .idle)
      (output : d.chassis.output = WheelOutputs.stop) : Standing config c [] (.finished .error, d, w)
  | looping {looks : List Look} {b : Stage Phase Reply Drivetrain} {a : Aim} {start : Micros}
      (serves : Serves config start c a) (course : a.Course config start looks b) :
      Standing config c looks b

/-! ### Where a command comes to stand -/

section

variable {config : DriveConfig} {start : Micros} {u : World} {c : DriveCommand} {p : Phase}
  {looks : List Look} {wake : Wake} {b b' : Stage Phase Reply Drivetrain}

/-- After a look, a loop sleeps until the next one or has ended. -/
lemma stands_of_resume {stage : Stage Job Reply Drivetrain} (session : d.session = a.session)
    (done : d.resume a.job w = .ok stage) :
    (underWay stage).2.1.config = d.config ∧ a.Stands d.config (a.look d w) (underWay stage) := by
  cases ends : a.ends d.config (a.look d w) with
  | true =>
    obtain ⟨e, u, ended, idle, config, output, -⟩ := resume_of_ends ends
    cases ended.symm.trans done
    exact ⟨config, .ended ends idle output⟩
  | false =>
    obtain ⟨e, quiet, same, config, output⟩ := resume_of_quiet ends
    rw [quiet] at done
    obtain ⟨wait, slept, done⟩ := bind_eq_ok.1 done
    obtain rfl := Wait.eq_of_sleepFor slept
    cases done
    rw [config]
    exact ⟨config, .waits ends (same.trans session) output (Nat.le_refl _) (Nat.le_add_right _ _)⟩

/-- The first look of a loop. -/
lemma course_of_first {stage : Stage Job Reply Drivetrain} (period : 0 < d.config.iteratePeriod)
    (session : d.session = a.session) (later : w.now ≤ a.deadline)
    (done : d.resume a.job w = .ok stage) :
    a.Course d.config w.now [a.look d w] (underWay stage) := by
  obtain ⟨same, stands⟩ := stands_of_resume session done
  have time : (a.look d w).time = w.now := rfl
  have soon : (a.look d w).time < a.deadline + d.config.iteratePeriod :=
    Nat.lt_of_le_of_lt later (Nat.lt_add_of_pos_right period)
  refine ⟨same, fun i l h => ?_, nofun, a.look d w, rfl, soon, stands⟩
  obtain ⟨rfl, rfl⟩ : i = 0 ∧ a.look d w = l := by
    cases i with
    | zero => exact ⟨rfl, Option.some.inj h⟩
    | succ i => cases h
  simpa using time

/-- A look that goes on is taken before the deadline. -/
lemma time_lt_deadline {l : Look} (quiet : a.ends config l = false) : l.time < a.deadline := by
  simp only [Aim.ends, Bool.or_eq_false_iff, decide_eq_false_iff_not] at quiet
  exact Nat.lt_of_not_le quiet.1.2

/-- Looks that follow each other by a period go on to do so with one that comes a period after the last
one. -/
lemma times_concat {period : Micros} {before : List Look} {l k : Look}
    (times : ∀ (i : Nat) x, (before ++ [l])[i]? = some x → x.time = start + i * period)
    (next : k.time = l.time + period) :
    ∀ (i : Nat) x, (before ++ [l] ++ [k])[i]? = some x → x.time = start + i * period := by
  intro i x h
  rw [List.getElem?_append] at h
  split at h
  · exact times i x h
  · next beyond =>
    rw [List.getElem?_singleton] at h
    split at h
    · next last =>
      obtain rfl := Option.some.inj h
      have l_time : l.time = start + before.length * period := times before.length l (by simp)
      have i_eq : i = before.length + 1 := by
        simp at last beyond
        omega
      calc k.time = start + before.length * period + period := by rw [next, l_time]
        _ = start + i * period := by rw [i_eq, Nat.succ_mul, Nat.add_assoc]
    · cases h

/-- A loop that is woken looks at its sensors, a period after the look before. -/
lemma stands_of_woken {l : Look} {wait : Wait} (h : a.Stands d.config l (.waiting wait p, d, w))
    (looked : w.poll wait = .over wake u) (worked : orders.resume p wake d u = .ok b) :
    orders.notes wait p wake d u = [a.look d u] ∧ a.ends d.config l = false ∧
      u.now = l.time + d.config.iteratePeriod ∧ b.2.1.config = d.config ∧
      a.Stands d.config (a.look d u) b := by
  cases h with
  | waits goes session output early late =>
    obtain ⟨due, rfl⟩ := World.poll_sleep_eq_over looked
    have loop : loop? (.working a.job) d u = some (a, d, u) := by cases a <;> rfl
    obtain ⟨stage, done, worked⟩ := bind_eq_ok.1 worked
    cases worked
    refine ⟨?_, goes, Nat.le_antisymm late due, stands_of_resume session done⟩
    simp only [orders, loop, Option.toList_some, List.map_cons, List.map_nil]

/-- Another look of a loop, when its alarm rings. -/
lemma course_of_next {wait : Wait} (course : a.Course config start looks (.waiting wait p, d, w))
    (looked : w.poll wait = .over wake u) (worked : orders.resume p wake d u = .ok b) :
    a.Course config start (looks ++ orders.notes wait p wake d u) b := by
  obtain ⟨same, times, quiet, l, last, -, stands⟩ := course
  have same : d.config = config := same
  subst same
  obtain ⟨noted, goes, now, same, stands⟩ := stands_of_woken stands looked worked
  rw [noted]
  obtain ⟨before, rfl⟩ := List.getLast?_eq_some_iff.1 last
  have goes_on : ∀ k ∈ (before ++ [l] ++ [a.look d u]).dropLast, a.ends d.config k = false := by
    intro k hk
    rw [List.dropLast_concat] at hk
    rcases List.mem_append.1 hk with hk | hk
    · exact quiet k (by rw [List.dropLast_concat]; exact hk)
    · rw [List.mem_singleton.1 hk]
      exact goes
  have soon : (a.look d u).time < a.deadline + d.config.iteratePeriod :=
    calc (a.look d u).time = l.time + d.config.iteratePeriod := now
      _ < a.deadline + d.config.iteratePeriod := Nat.add_lt_add_right (time_lt_deadline goes) _
  exact ⟨same, times_concat times now, goes_on, a.look d u, by simp, soon, stands⟩

/-! #### The loop that a stretch of work leads to -/

lemma straight?_eq_some {params : MoveParams} {goal : StraightGoal}
    (h : d.straight? params goal w = some (a, e, u)) :
    ∃ s, StraightDrive.start d.config params.speed goal (Clock.seconds params.timeout) w.now = .ok s ∧
      a = .straight s ∧ e.session = a.session ∧ e.config = d.config ∧ u = w ∧
      d.startStraight params goal w = e.resume a.job u := by
  obtain ⟨s, started, same⟩ := Option.map_eq_some_iff.1 h
  cases same
  cases begun : StraightDrive.start d.config params.speed goal (Clock.seconds params.timeout) w.now with
  | error fault =>
    rw [begun] at started
    cases started
  | ok s' =>
    rw [begun] at started
    cases started
    exact ⟨s, rfl, rfl, rfl, rfl, rfl, by rw [startStraight, begun]; rfl⟩

/-- A straight drive whose deadline is beyond the clock is not begun. -/
lemma startStraight_ne_ok {params : MoveParams} {goal : StraightGoal}
    (h : d.straight? params goal w = none) (stage : Stage Job Reply Drivetrain) :
    d.startStraight params goal w ≠ .ok stage := by
  intro done
  obtain ⟨s, begun, -⟩ := bind_eq_ok.1 done
  rw [straight?, begun] at h
  cases h

lemma turn?_eq_some {angle timeout : Float32} (h : d.turn? angle timeout w = some (a, e, u)) :
    ∃ t, Turn.start angle (Clock.seconds timeout) w.now = .ok t ∧ a = .turn t ∧
      e.session = a.session ∧ e.config = d.config ∧ u = w ∧
      d.startTurn angle timeout w = e.resume a.job u := by
  obtain ⟨t, started, same⟩ := Option.map_eq_some_iff.1 h
  cases same
  cases begun : Turn.start angle (Clock.seconds timeout) w.now with
  | error fault =>
    rw [begun] at started
    cases started
  | ok t' =>
    rw [begun] at started
    cases started
    exact ⟨t, rfl, rfl, rfl, rfl, rfl, by rw [startTurn, begun]; rfl⟩

lemma session_attempt (d : Drivetrain) (now : Micros) : (d.attempt now).2.session = d.session :=
  ((inGear_zeroEncoder d now .left).trans ((inGear_zeroEncoder _ now .right).trans
    (inGear_readEncoder _ now .right))).session

/-- What an attempt to zero the encoders before a move comes to. -/
inductive Attempted (d : Drivetrain) (params : MoveParams) (proximity : Bool) (w : World) :
    Nat → Stage Job Reply Drivetrain → Prop
  | refused {attempts : Nat} (e : Drivetrain) : Attempted d params proximity w attempts (e.refuseMove w)
  | again {attempts : Nat} (staying : w.mode.inAuto = true) :
      Attempted d params proximity w (attempts + 1)
        (.waiting (.sleep ⟨w.now + d.config.iteratePeriod, false⟩) (.zeroing attempts params proximity),
          (d.attempt w.now).2, w)
  | settles {attempts : Nat} (zero : (d.attempt w.now).1 = 0) (proximate : proximity = true) :
      Attempted d params proximity w (attempts + 1)
        (.waiting (.sleep ⟨w.now + d.config.rangeSettle, false⟩) (.settling params),
          (d.attempt w.now).2.zeroGyro w.now, w)
  | starts {attempts : Nat} {stage : Stage Job Reply Drivetrain} (zero : (d.attempt w.now).1 = 0)
      (apart : proximity = false)
      (begun : ((d.attempt w.now).2.zeroGyro w.now).startStraight params (.distance params.distance) w =
        .ok stage) :
      Attempted d params proximity w (attempts + 1) stage

lemma attempted_of_zeroEncoders {attempts : Nat} {params : MoveParams} {proximity : Bool}
    {stage : Stage Job Reply Drivetrain} (done : d.zeroEncoders attempts params proximity w = .ok stage) :
    d.Attempted params proximity w attempts stage := by
  have same := (tuned_attempt d w.now).config
  cases attempts with
  | zero =>
    cases done
    exact .refused d
  | succ attempts =>
    unfold zeroEncoders startMove at done
    simp only at done
    split at done
    · next zero =>
      split at done
      · next proximate =>
        obtain ⟨wait, slept, done⟩ := bind_eq_ok.1 done
        obtain rfl := Wait.eq_of_sleepFor slept
        cases done
        have settles : d.Attempted params proximity w (attempts + 1) _ := .settles zero proximate
        rw [← same] at settles
        exact settles
      · next apart => exact .starts zero (Bool.eq_false_iff.2 apart) done
    · split at done
      · next staying =>
        obtain ⟨wait, slept, done⟩ := bind_eq_ok.1 done
        obtain rfl := Wait.eq_of_sleepFor slept
        cases done
        have again : d.Attempted params proximity w (attempts + 1) _ := .again staying
        rw [← same] at again
        exact again
      · cases done
        exact .refused _

/-- An attempt that succeeds leads to the loop of a measured move. -/
lemma zeroed?_of_zero {attempts : Nat} {params : MoveParams} {proximity : Bool}
    (zero : (d.attempt w.now).1 = 0) (apart : proximity = false) :
    d.zeroed? (attempts + 1) params proximity w =
      ((d.attempt w.now).2.zeroGyro w.now).straight? params (.distance params.distance) w := by
  unfold attempt at zero
  simp only [zeroed?, zero, apart, ne_eq, not_true, Nat.add_one_ne_zero, Bool.false_eq_true, or_self,
    if_false]
  rfl

/-- An attempt that succeeds starts the session of a measured move. -/
lemma zeroed?_eq_some {attempts : Nat} {params : MoveParams} {proximity : Bool}
    (h : d.zeroed? attempts params proximity w = some (a, e, u)) :
    ∃ s, StraightDrive.start d.config params.speed (.distance params.distance)
        (Clock.seconds params.timeout) w.now = .ok s ∧ proximity = false ∧
      a = .straight s ∧ e.session = a.session ∧ e.config = d.config ∧ u = w ∧
      d.zeroEncoders attempts params proximity w = e.resume a.job u := by
  unfold zeroed? at h
  simp only at h
  split at h
  · cases h
  · next zeroed =>
    simp only [not_or, not_not, Bool.not_eq_true] at zeroed
    obtain ⟨some_left, zero, rfl⟩ := zeroed
    obtain ⟨attempts, rfl⟩ := Nat.exists_eq_succ_of_ne_zero some_left
    have same := (tuned_attempt d w.now).config
    obtain ⟨s, begun, at_, session, config, rfl, work⟩ := straight?_eq_some h
    refine ⟨s, ?_, rfl, at_, session, config.trans same, rfl, ?_⟩
    · rw [← same]
      exact begun
    · rw [← work]
      simp only [zeroEncoders, zero, startMove]
      rfl

/-- An attempt that does not lead to a session at once leaves the move to be gone on with, or ends it. -/
lemma standing_of_zeroed? {attempts : Nat} {params : MoveParams} {proximity : Bool}
    (h : d.zeroed? attempts params proximity w = none) (idle : d.session = .idle)
    {stage : Stage Job Reply Drivetrain} (done : d.zeroEncoders attempts params proximity w = .ok stage) :
    Standing d.config (if proximity then .proximityMove params else .measuredMove params) []
      (underWay stage) := by
  have same := (tuned_attempt d w.now).config
  have still := (session_attempt d w.now).trans idle
  cases attempted_of_zeroEncoders done with
  | refused e => exact .refused rfl (output_drive _ w.now .stop)
  | again =>
    cases proximity with
    | true => exact .preparing .proximity (.inr still) same
    | false => exact .preparing .measured (.inr still) same
  | settles zero proximate =>
    rw [if_pos proximate]
    exact .preparing .settling (.inr still) same
  | starts zero apart begun =>
    rw [zeroed?_of_zero zero apart] at h
    exact absurd begun (startStraight_ne_ok h _)

/-- A session is begun before its deadline. -/
lemma Serves.start_le (h : Serves config start c a) : start ≤ a.deadline := by
  have later : ∀ {span deadline : Micros}, Clock.after start span = .ok deadline → start ≤ deadline := by
    intro span deadline h
    unfold Clock.after at h
    split at h
    · cases h
      exact Nat.le_add_right _ _
    · cases h
  cases h with
  | measured begun | proximity begun | turn begun =>
    obtain ⟨deadline, fits, begun⟩ := bind_eq_ok.1 begun
    cases begun
    exact later fits

/-- A stretch of work that comes to a loop begins the session of the command and looks at the sensors. -/
lemma serves_of_loop? (prepares : Prepares c p) (h : loop? p d w = some (a, e, u))
    (done : orders.resume p wake d w = .ok b) :
    Serves d.config w.now c a ∧ e.session = a.session ∧ e.config = d.config ∧ u.now = w.now ∧
      ∃ stage, e.resume a.job u = .ok stage ∧ b = underWay stage := by
  cases prepares with
  | @heard c loop =>
    cases c with
    | measuredMove params =>
      obtain ⟨s, begun, -, rfl, session, same, rfl, work⟩ := zeroed?_eq_some h
      obtain ⟨stage, worked, done⟩ := bind_eq_ok.1 done
      cases done
      exact ⟨.measured begun, session, same, rfl, stage, work ▸ worked, rfl⟩
    | turn angle timeout =>
      obtain ⟨t, begun, rfl, session, same, rfl, work⟩ := turn?_eq_some h
      obtain ⟨stage, worked, done⟩ := bind_eq_ok.1 done
      cases done
      exact ⟨.turn begun, session, same, rfl, stage, work ▸ worked, rfl⟩
    | _ => cases h
  | @measured params attempts =>
    obtain ⟨s, begun, -, rfl, session, same, rfl, work⟩ := zeroed?_eq_some h
    obtain ⟨stage, worked, done⟩ := bind_eq_ok.1 done
    cases done
    exact ⟨.measured begun, session, same, rfl, stage, work ▸ worked, rfl⟩
  | proximity =>
    obtain ⟨s, -, false, -⟩ := zeroed?_eq_some h
    cases false
  | @settling params =>
    obtain ⟨s, begun, rfl, session, same, rfl, work⟩ := straight?_eq_some h
    obtain ⟨stage, worked, done⟩ := bind_eq_ok.1 done
    cases done
    exact ⟨.proximity begun, session, same, rfl, stage, work ▸ worked, rfl⟩

/-- A stretch of work that comes to no loop leaves the command in preparation, or refuses it. -/
lemma standing_of_loop? (prepares : Prepares c p) (idle : p = .heard c ∨ d.session = .idle)
    (h : loop? p d w = none) (done : orders.resume p wake d w = .ok b) :
    Standing d.config c [] b := by
  cases prepares with
  | @heard c loop =>
    obtain ⟨stage, worked, done⟩ := bind_eq_ok.1 done
    cases done
    cases c with
    | measuredMove params => exact standing_of_zeroed? h rfl worked
    | proximityMove params =>
      have none : { d with session := .idle }.zeroed? d.config.zeroAttempts params true w = none := by
        simp [zeroed?]
      exact standing_of_zeroed? none rfl worked
    | turn angle timeout =>
      obtain ⟨t, begun, -⟩ := bind_eq_ok.1 worked
      simp only [loop?, turn?, begun] at h
      cases h
    | _ => cases loop
  | @measured params attempts =>
    obtain ⟨stage, worked, done⟩ := bind_eq_ok.1 done
    cases done
    exact standing_of_zeroed? h (idle.resolve_left nofun) worked
  | @proximity params attempts =>
    obtain ⟨stage, worked, done⟩ := bind_eq_ok.1 done
    cases done
    exact standing_of_zeroed? h (idle.resolve_left nofun) worked
  | settling =>
    obtain ⟨stage, worked, done⟩ := bind_eq_ok.1 done
    exact absurd worked (startStraight_ne_ok h _)

/-! #### Runs -/

/-- The surroundings change nothing of where a loop stands. -/
lemma stands_of_beside {l : Look} {q : Progress Phase Reply} (h : a.Stands config l (q, d, w))
    (beside : Beside (d, w) (e, u)) (still : u.now = w.now) :
    e.config = d.config ∧ a.Stands config l (q, e, u) := by
  have written : e.chassis.output = d.chassis.output := (watches_of_senses beside).output
  obtain ⟨⟨f, rfl⟩, -⟩ := beside
  refine ⟨rfl, ?_⟩
  cases h with
  | waits quiet session output early late =>
    rw [← still] at early late
    exact .waits quiet session (written.trans output) early late
  | ended ends idle output => exact .ended ends idle (written.trans output)

/-- Time goes by for a loop that sleeps, at most up to its alarm. -/
lemma stands_of_lasts {l : Look} {wait : Wait} {time : Micros}
    (h : a.Stands config l (.waiting wait p, d, w)) (lasts : wait.Lasts w time) :
    a.Stands config l (.waiting wait p, d, { w with now := time }) := by
  cases h with
  | waits quiet session output early late =>
    exact .waits quiet session output (Nat.le_trans early lasts.later) (lasts.quiet _ rfl).2

/-- A look at the alarm of a loop that goes on to sleep. -/
lemma stands_of_pending {l : Look} {wait wait' : Wait}
    (h : a.Stands config l (.waiting wait p, d, w)) (looked : w.poll wait = .pending wait' u) :
    a.Stands config l (.waiting wait' p, d, u) := by
  cases h with
  | waits quiet session output early late =>
    obtain ⟨rfl, still⟩ := World.poll_sleep_eq_pending looked
    rw [← still] at early late
    exact .waits quiet session output early late

/-- The surroundings change nothing of what a loop has come to. -/
lemma course_of_beside {q : Progress Phase Reply} (h : a.Course config start looks (q, d, w))
    (beside : Beside (d, w) (e, u)) (still : u.now = w.now) :
    a.Course config start looks (q, e, u) := by
  obtain ⟨same, times, quiet, l, last, soon, stands⟩ := h
  obtain ⟨unchanged, stands⟩ := stands_of_beside stands beside still
  exact ⟨unchanged.trans same, times, quiet, l, last, soon, stands⟩

/-- Time goes by for a loop that sleeps, at most up to its alarm. -/
lemma course_of_lasts {wait : Wait} {time : Micros}
    (h : a.Course config start looks (.waiting wait p, d, w)) (lasts : wait.Lasts w time) :
    a.Course config start looks (.waiting wait p, d, { w with now := time }) := by
  obtain ⟨same, times, quiet, l, last, soon, stands⟩ := h
  exact ⟨same, times, quiet, l, last, soon, stands_of_lasts stands lasts⟩

/-- One look at a loop keeps it on its course. -/
lemma course_of_step {l : List Look} (h : a.Course config start looks b)
    (step : orders.Step b l b') : a.Course config start (looks ++ l) b' := by
  cases step with
  | woken looked worked => exact course_of_next h looked worked
  | pending looked =>
    obtain ⟨same, times, quiet, l, last, soon, stands⟩ := h
    rw [List.append_nil]
    exact ⟨same, times, quiet, l, last, soon, stands_of_pending stands looked⟩

/-- A loop keeps to its course. -/
lemma course_of_run {t : List (Passage Look)} (h : a.Course config start looks b)
    (run : orders.TimedRun Beside b t b') :
    a.Course config start (looks ++ Passage.notes t) b' := by
  induction run with
  | start => exact (List.append_nil looks).symm ▸ h
  | look run step ih =>
    rw [Passage.notes_append, Passage.notes_noted, ← List.append_assoc]
    exact course_of_step ih step
  | around run change still ih => exact course_of_beside ih change still
  | tick run lasts ih =>
    rw [Passage.notes_append, Passage.notes_elapsed, List.append_nil]
    exact course_of_lasts ih lasts

/-- One look at a command that is prepared. -/
lemma standing_of_prepared (wait : Wait) (period : 0 < d.config.iteratePeriod)
    (prepares : Prepares c p) (idle : p = .heard c ∨ d.session = .idle)
    (worked : orders.resume p wake d w = .ok b) :
    Standing d.config c (orders.notes wait p wake d w) b := by
  cases loop : loop? p d w with
  | none =>
    simp only [orders, loop, Option.toList_none, List.map_nil]
    exact standing_of_loop? prepares idle loop worked
  | some x =>
    obtain ⟨a, e, u⟩ := x
    obtain ⟨serves, session, same, same_now, stage, looked, rfl⟩ :=
      serves_of_loop? prepares loop worked
    simp only [orders, loop, Option.toList_some, List.map_cons, List.map_nil]
    rw [← same, ← same_now] at serves
    rw [← same] at period ⊢
    exact .looping serves (course_of_first period session serves.start_le looked)

lemma standing_of_step {l : List Look} (period : 0 < config.iteratePeriod)
    (h : Standing config c looks b) (step : orders.Step b l b') :
    Standing config c (looks ++ l) b' := by
  cases h with
  | @preparing wait _ _ _ prepares idle same =>
    cases step with
    | pending looked => exact .preparing prepares idle same
    | woken looked worked =>
      subst same
      exact standing_of_prepared wait period prepares idle worked
  | refused => cases step
  | looping serves course => exact .looping serves (course_of_step course step)

/-- The surroundings change nothing of what a command has come to. -/
lemma standing_of_beside {q : Progress Phase Reply} (h : Standing config c looks (q, d, w))
    (beside : Beside (d, w) (e, u)) (still : u.now = w.now) : Standing config c looks (q, e, u) := by
  cases h with
  | preparing prepares idle same =>
    obtain ⟨⟨f, rfl⟩, -⟩ := beside
    exact .preparing prepares idle same
  | refused idle output =>
    have written : e.chassis.output = d.chassis.output := (watches_of_senses beside).output
    obtain ⟨⟨f, rfl⟩, -⟩ := beside
    exact .refused idle (written.trans output)
  | looping serves course => exact .looping serves (course_of_beside course beside still)

/-- Time goes by for a command, at most up to its alarm. -/
lemma standing_of_lasts {wait : Wait} {time : Micros}
    (h : Standing config c looks (.waiting wait p, d, w)) (lasts : wait.Lasts w time) :
    Standing config c looks (.waiting wait p, d, { w with now := time }) := by
  cases h with
  | preparing prepares idle same => exact .preparing prepares idle same
  | looping serves course => exact .looping serves (course_of_lasts course lasts)

/-- A command stands where it may all through a run. -/
lemma standing_of_run {t : List (Passage Look)} (period : 0 < config.iteratePeriod)
    (h : Standing config c [] b) (run : orders.TimedRun Beside b t b') :
    Standing config c (Passage.notes t) b' := by
  induction run with
  | start => exact h
  | look run step ih =>
    rw [Passage.notes_append, Passage.notes_noted]
    exact standing_of_step period ih step
  | around run change still ih => exact standing_of_beside ih change still
  | tick run lasts ih =>
    rw [Passage.notes_append, Passage.notes_elapsed, List.append_nil]
    exact standing_of_lasts ih lasts

/-! #### The end of a loop -/

/-- Every time at which a loop that was begun at `start` may have to look again fits the clock. -/
def Aim.Fits (config : DriveConfig) (start : Micros) (a : Aim) : Prop :=
  ∀ i : Nat, start + i * config.iteratePeriod < a.deadline →
    start + (i + 1) * config.iteratePeriod < Clock.limit

/-- So the look after the next one fits it, if the next one comes before the deadline. -/
lemma Aim.Fits.next {n : Nat} {time : Micros} (fits : a.Fits config start)
    (at_ : time = start + n * config.iteratePeriod) (early : time + config.iteratePeriod < a.deadline) :
    time + config.iteratePeriod + config.iteratePeriod < Clock.limit := by
  have next : time + config.iteratePeriod = start + (n + 1) * config.iteratePeriod := by
    rw [at_, Nat.succ_mul, Nat.add_assoc]
  rw [next] at early ⊢
  have later := fits (n + 1) early
  rw [Nat.succ_mul, ← Nat.add_assoc] at later
  exact later

variable {env : Drivetrain × World → Drivetrain × World}

/-- A loop that sleeps looks again when its alarm rings, at whatever the surroundings have made of its
sensors by then. -/
lemma exists_look {l : Look} {wait : Wait} (stands : a.Stands d.config l (.waiting wait p, d, w))
    (allowed : ∀ x, Beside x (env x) ∧ (env x).2.now = x.2.now)
    (fits : l.time + d.config.iteratePeriod < a.deadline →
      l.time + d.config.iteratePeriod + d.config.iteratePeriod < Clock.limit) :
    ∃ t b' x, orders.TimedRun Beside (.waiting wait p, d, w) t b' ∧
      Passage.notes t = [a.look (env x).1 (env x).2] ∧
      (env x).2.now = l.time + d.config.iteratePeriod := by
  cases stands with
  | waits quiet session output early late =>
    obtain ⟨t, v, slept, silent, due⟩ :=
      orders.exists_run_to_alarm Beside ⟨_, _⟩ (.working a.job) d late
    obtain ⟨beside, still⟩ := allowed (d, v)
    have now : (env (d, v)).2.now = l.time + d.config.iteratePeriod := still.trans due
    have same : (env (d, v)).1.config = d.config := by
      obtain ⟨⟨f, attached⟩, -⟩ := beside
      rw [attached]
      rfl
    have looked : (env (d, v)).2.poll (.sleep ⟨l.time + d.config.iteratePeriod, true⟩) =
        .over .rang (env (d, v)).2 := by
      simp [World.poll, World.pollAlarm, Alarm.rings, now]
    have loop : loop? (.working a.job) (env (d, v)).1 (env (d, v)).2 = some (a, env (d, v)) := by
      cases a <;> rfl
    cases done : (env (d, v)).1.resume a.job (env (d, v)).2 with
    | error fault =>
      obtain ⟨-, goes, beyond⟩ := (resume_eq_error_iff a _ _ _).1 done
      have before : (env (d, v)).2.now < a.deadline := time_lt_deadline goes
      rw [now] at before
      rw [now, same] at beyond
      exact absurd (fits before) (Nat.not_lt_of_le beyond)
    | ok stage =>
      have worked : orders.resume (.working a.job) .rang (env (d, v)).1 (env (d, v)).2 =
          .ok (underWay stage) := by
        simp only [orders, done]
        rfl
      refine ⟨_, _, (d, v), (slept.around beside still).look (.woken looked worked), ?_, now⟩
      rw [Passage.notes_append, Passage.notes_noted, silent, List.nil_append]
      simp only [orders, loop, Option.toList_some, List.map_cons, List.map_nil]

/-- A loop comes to its end. -/
lemma exists_end (period : 0 < config.iteratePeriod) (fits : a.Fits config start)
    (allowed : ∀ x, Beside x (env x) ∧ (env x).2.now = x.2.now)
    (course : a.Course config start looks b) :
    ∃ t b' reply, orders.TimedRun Beside b t b' ∧ b'.1 = .finished reply ∧
      ∀ l ∈ Passage.notes t, ∃ x, l = a.look (env x).1 (env x).2 := by
  -- the induction is on the time that the last look leaves until the deadline
  obtain ⟨n, left⟩ : ∃ n : Nat, ∀ l, looks.getLast? = some l → a.deadline ≤ l.time + n :=
    ⟨a.deadline, fun _ _ => Nat.le_add_left _ _⟩
  induction n using Nat.strongRecOn generalizing looks b with
  | ind n ih =>
    obtain ⟨progress, d, w⟩ := b
    obtain ⟨same, times, quiet, l, last, soon, stands⟩ := id course
    have same : d.config = config := same
    subst same
    cases stands with
    | ended ends idle output => exact ⟨[], _, _, .start _, rfl, nofun⟩
    | waits goes session output early late =>
      obtain ⟨before, rfl⟩ := List.getLast?_eq_some_iff.1 last
      have time : l.time = start + before.length * d.config.iteratePeriod :=
        times before.length l (by simp)
      obtain ⟨t, b', x, run, looked, now⟩ :=
        exists_look (.waits goes session output early late) allowed (fits.next time)
      have kept := course_of_run course run
      rw [looked] at kept
      have before_deadline : l.time < a.deadline := time_lt_deadline goes
      have reach : a.deadline ≤ l.time + n := left l last
      have some_left : 0 < n := Nat.pos_of_lt_add_right (Nat.lt_of_lt_of_le before_deadline reach)
      have closer : ∀ k, (before ++ [l] ++ [a.look (env x).1 (env x).2]).getLast? = some k →
          a.deadline ≤ k.time + (n - d.config.iteratePeriod) := by
        intro k hk
        rw [List.getLast?_concat] at hk
        cases hk
        calc a.deadline ≤ l.time + n := reach
          _ ≤ l.time + (d.config.iteratePeriod + (n - d.config.iteratePeriod)) :=
            Nat.add_le_add_left (Nat.sub_le_iff_le_add'.1 (Nat.le_refl _)) _
          _ = (env x).2.now + (n - d.config.iteratePeriod) := by rw [now, Nat.add_assoc]
      obtain ⟨t', b'', reply, rest, ended, seen⟩ :=
        ih (n - d.config.iteratePeriod) (Nat.sub_lt some_left period) kept closer
      refine ⟨t ++ t', b'', reply, run.trans rest, ended, fun k hk => ?_⟩
      rw [Passage.notes_append, looked] at hk
      rcases List.mem_append.1 hk with hk | hk
      · exact ⟨x, List.mem_singleton.1 hk⟩
      · exact seen k hk

end

/-- A command that begins a session of its own, from the time when it is heard: no look but the last one
of its loop ends the loop, and the looks follow each other by a period; before the session and after it
the drivetrain is idle, and a loop whose looks fit the clock comes to its end. -/
theorem moves_of_run {c : DriveCommand} {d : Drivetrain} {w : World} {t : List (Passage Look)}
    {b : Stage Phase Reply Drivetrain} (loop : loops c = true) (period : 0 < d.config.iteratePeriod)
    (run : orders.TimedRun Beside (.waiting .none (.heard c), d, w) t b) :
    Standing d.config c (Passage.notes t) b ∧
      ∀ a start, Serves d.config start c a → a.Course d.config start (Passage.notes t) b →
        a.Fits d.config start → ∀ env : Drivetrain × World → Drivetrain × World,
          (∀ x, Beside x (env x) ∧ (env x).2.now = x.2.now) →
          ∃ l b' reply, orders.TimedRun Beside b l b' ∧ b'.1 = .finished reply ∧
            ∀ k ∈ Passage.notes l, ∃ x, k = a.look (env x).1 (env x).2 :=
  ⟨standing_of_run period (.preparing (.heard loop) (.inl rfl) rfl) run,
    fun _ _ _ course fits _ allowed => exists_end period fits allowed course⟩

/-- A turn that is left out of autonomous after two periods is looked at three times, and answers with an
error. -/
theorem turn_is_cancelled : ∃ t b,
    orders.TimedRun Beside (.waiting .none (.heard (.turn 90 1)), {}, { mode := .autonomous }) t b ∧
      (Passage.notes t).map Look.time = [0, 5000, 10000] ∧ b.1 = .finished .error ∧
      Standing {} (.turn 90 1) (Passage.notes t) b := by
  have played : ((orders.playTimed [.look, .look, .tick 5000, .look, .look, .tick 10000,
      .around fun w => { w with mode := .teleoperated }, .look]
        (.waiting .none (.heard (.turn 90 1)), {}, { mode := .autonomous })).any fun x =>
      (Passage.notes x.1).map Look.time == [0, 5000, 10000] && x.2.1.result? == some .error) = true := by
    decide +kernel
  obtain ⟨⟨t, b⟩, played, passed⟩ := (Option.any_eq_true _ _).1 played
  have free : ∀ (d : Drivetrain) (v w : World), Beside (d, v) (d, w) :=
    fun d _ _ => Part.Senses.refl .drivetrain d
  have run := Routine.timedRun_of_playTimed free played
  obtain ⟨times, ended⟩ := Bool.and_eq_true_iff.1 passed
  have answered : b.1 = .finished .error := Progress.result?_eq_some_iff.1 (beq_iff_eq.1 ended)
  exact ⟨t, b, run, beq_iff_eq.1 times, answered, (moves_of_run rfl (by decide) run).1⟩

/-- A deadline that fits the clock is not enough for a loop to come to its end: the look after it may not
fit. -/
theorem turn_outruns_clock : ¬ ∀ (d : Drivetrain) (w : World) (angle timeout : Float32) (t : Turn),
    0 < d.config.iteratePeriod → Turn.start angle (Clock.seconds timeout) w.now = .ok t →
    ∃ stage, d.obey (.turn angle timeout) w = .ok stage := by
  intro claim
  have late : (Turn.start 90 (Clock.seconds 0.001) (Clock.limit - 2501)).toOption.isSome = true ∧
      (Drivetrain.obey {} (.turn 90 0.001)
        { mode := .autonomous, now := Clock.limit - 2501 }).toOption.isSome = false := by
    decide +kernel
  cases begun : Turn.start 90 (Clock.seconds 0.001) (Clock.limit - 2501) with
  | error fault =>
    rw [begun] at late
    cases late.1
  | ok t =>
    obtain ⟨stage, done⟩ := claim {} { mode := .autonomous, now := Clock.limit - 2501 } 90 0.001 t
      (by decide) begun
    rw [done] at late
    cases late.2

end Drivetrain

end MatchRobot
