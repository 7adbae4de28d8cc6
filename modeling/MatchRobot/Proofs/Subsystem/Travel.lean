import MatchRobot.Proofs.Number.Arithmetic
import MatchRobot.Proofs.Subsystem.Moves

/-!
# What a proximity move has travelled

A proximity move zeroes its encoders, waits for the range finder to settle, samples it, and drives until
the right encoder has come to the gap. The gap is measured from where the range was sampled, and the
encoder counts from where it was zeroed.

No motor is written in between. So at the moment of the sample (`Drivetrain.Samples`) the encoder shows
what the motors of the command before have rolled in the time of settling (`Drivetrain.rolled`), and the
move falls short of the gap by just that (`Drivetrain.travel_since_sampling`).
-/

namespace MatchRobot

/-! ### The counts of a chassis -/

namespace Chassis

/-- The counts per second of the right side. -/
def pace (c : Chassis) : Float32 :=
  c.fraction .right * c.config.countsPerSecond

variable {c : Chassis} {pace x : Float32} {now last : Micros}

lemma pace_touch (c : Chassis) (now : Micros) : (c.touch now).pace = c.pace := by
  unfold touch move
  split <;> rfl

lemma pace_setEncoder (c : Chassis) (now : Micros) (side : Side) (n : Int32) :
    (c.setEncoder now side n).pace = c.pace := by
  cases side <;> exact pace_touch c now

/-- The right side runs at a pace, and at its last access it had come to the given counts. -/
structure Metered (c : Chassis) (pace x : Float32) (last : Micros) : Prop where
  pace : c.pace = pace
  last : c.last = some last
  counts : c.counts.right = x

/-- An access counts what was rolled since the last one. -/
lemma Metered.touch (h : c.Metered pace x last) (now : Micros) :
    (c.touch now).Metered pace (x + pace * (Single.ofCount (now - last) / 1000000)) now where
  pace := (pace_touch c now).trans h.pace
  last := by simp only [Chassis.touch, h.last]
  counts := by
    rw [← h.pace, ← h.counts]
    simp only [Chassis.touch, h.last]
    rfl

/-- Another access at the same time. -/
lemma Metered.again (h : c.Metered pace x now) : (c.touch now).Metered pace (x + pace * 0) now := by
  have nothing : Single.ofCount 0 / 1000000 = 0 := by decide
  have touched := h.touch now
  rw [Nat.sub_self, nothing] at touched
  exact touched

lemma Metered.zeroGyro (h : c.Metered pace x now) :
    (c.zeroGyro now).Metered pace (x + pace * 0) now :=
  ⟨h.again.pace, h.again.last, h.again.counts⟩

lemma metered_setEncoder (c : Chassis) (now : Micros) :
    (c.setEncoder now .right 0).Metered c.pace 0 now where
  pace := pace_setEncoder c now .right 0
  last := by
    simp only [setEncoder, Chassis.touch]
    split <;> rfl
  counts := (by decide : Single.ofInt32 0 = 0)

end Chassis

namespace Drivetrain

/-- What the right encoder shows when the range finder has settled, if it was zeroed before and nobody
touched the motors meanwhile. At a pace that is not finite there is nothing to show. -/
def rolled (d : Drivetrain) : Int32 :=
  match d.encoders with
  | .stuck _ => 0
  | .working =>
    if d.chassis.pace.isFinite then
      Single.toInt32 (d.chassis.pace * (Single.ofCount d.config.rangeSettle / 1000000))
    else 0

variable {params : MoveParams} {s : StraightDrive} {first : Look} {d e : Drivetrain} {w u : World}
  {b b' : Stage Phase Reply Drivetrain}

/-! ### The encoder before the session -/

lemma rolled_congr (encoders : e.encoders = d.encoders) (pace : e.chassis.pace = d.chassis.pace)
    (config : e.config = d.config) : e.rolled = d.rolled := by
  simp only [rolled, encoders, pace, config]

lemma rolled_zeroEncoder (d : Drivetrain) (now : Micros) (side : Side) :
    (d.zeroEncoder now side).rolled = d.rolled := by
  unfold zeroEncoder
  split
  · exact rolled_congr rfl (Chassis.pace_setEncoder _ _ _ _) rfl
  · rfl

lemma rolled_readEncoder (d : Drivetrain) (now : Micros) (side : Side) :
    (d.readEncoder now side).2.rolled = d.rolled := by
  unfold readEncoder
  split
  · cases side <;> exact rolled_congr rfl (Chassis.pace_touch _ _) rfl
  · rfl

lemma rolled_attempt (d : Drivetrain) (now : Micros) : (d.attempt now).2.rolled = d.rolled := by
  rw [attempt, rolled_readEncoder, rolled_zeroEncoder, rolled_zeroEncoder]

/-- What was rolled by the time of the sample, counted in the steps in which the chassis is looked at:
two of no length when the encoders and the gyro are zeroed, then one. -/
lemma toInt32_steps (x t : Float32) : Single.toInt32 (0 + x * 0 + x * 0 + x * t) =
    if x.isFinite then Single.toInt32 (x * t) else 0 := by
  cases finite : x.isFinite with
  | true =>
    rw [Single.zero_add_mul_zero finite, Single.zero_add_mul_zero finite, Single.toInt32_zero_add]
    rfl
  | false =>
    have lost := Single.isNaN_mul_zero finite
    have sum := Single.isNaN_add_left (y := x * t) (Single.isNaN_add_right (x := 0 + x * 0) lost)
    exact Single.toInt32_of_nought (Single.nought_of_isNaN sum)

/-- A robot that stands still rolls nothing. -/
lemma rolled_of_rest (rest : (d.chassis.pace == 0) = true) : d.rolled = 0 := by
  obtain ⟨s, zero⟩ := (Single.beq_zero_iff _).1 rest
  have nought : ∀ t, Single.Nought (Single.unpacked (d.chassis.pace * t)) := by
    intro t
    have paceless : Single.Nought (Single.unpacked d.chassis.pace) := by
      rw [zero]
      trivial
    rw [Single.unpacked_mul]
    exact Single.nought_repacked (Single.nought_mul paceless _)
  unfold rolled
  split
  · rfl
  · split
    · exact Single.toInt32_of_nought (nought _)
    · rfl

/-- From zero, the encoder comes to what is rolled in the time of settling. -/
lemma readEncoder_settled {now : Micros} (zero : (d.attempt now).1 = 0) :
    (((d.attempt now).2.zeroGyro now).readEncoder (now + d.config.rangeSettle) .right).1 = d.rolled := by
  cases working : d.encoders with
  | stuck n =>
    simp only [attempt, zeroEncoder, readEncoder, zeroGyro, rolled, working] at zero ⊢
    exact zero
  | working =>
    simp only [attempt, zeroEncoder, readEncoder, zeroGyro, rolled, working, Chassis.readEncoder]
    have zeroed := Chassis.metered_setEncoder (d.chassis.setEncoder now .left 0) now
    rw [Chassis.pace_setEncoder] at zeroed
    have settled := zeroed.again.zeroGyro.touch (now + d.config.rangeSettle)
    rw [Nat.add_sub_cancel_left] at settled
    exact (congrArg Single.toInt32 settled.counts).trans (toInt32_steps _ _)

/-! ### The way to the sample -/

/-- What the surroundings may do to a robot whose chassis nobody touches: whatever they like to the
world, the mode flag included, and to what the range finder shows. -/
def Untouched (x y : Drivetrain × World) : Prop :=
  ∃ range, y.1 = { x.1 with range := range }

/-- A look at a proximity move samples the range finder and begins the session, and the session takes its
first look at the sensors. -/
structure Samples (params : MoveParams) (s : StraightDrive) (first : Look)
    (b b' : Stage Phase Reply Drivetrain) : Prop where
  settled : ∃ wait, b.1 = .waiting wait (.working (.settling params))
  begun : StraightDrive.start b.2.1.config params.speed (.standOff b.2.1.range params.distance)
    (Clock.seconds params.timeout) b.2.2.now = .ok s
  time : first.time = b.2.2.now
  encoder : first.encoder = (b.2.1.readEncoder b.2.2.now .right).1
  step : orders.Step b [first] b'

/-- Where a proximity move stands on the way to the sample, if its encoder will show the given counts
there. -/
inductive Approaches (params : MoveParams) (n : Int32) : Stage Phase Reply Drivetrain → Prop
  | heard {d : Drivetrain} {w : World} (counts : d.rolled = n) :
      Approaches params n (.waiting .none (.heard (.proximityMove params)), d, w)
  | zeroing {wait : Wait} {attempts : Nat} {d : Drivetrain} {w : World} (counts : d.rolled = n) :
      Approaches params n (.waiting wait (.working (.zeroing attempts params true)), d, w)
  | settling {time : Micros} {armed : Bool} {d : Drivetrain} {w : World} (early : w.now ≤ time)
      (shows : (d.readEncoder time .right).1 = n) :
      Approaches params n (.waiting (.sleep ⟨time, armed⟩) (.working (.settling params)), d, w)
  | refused {reply : Reply} {d : Drivetrain} {w : World} :
      Approaches params n (.finished reply, d, w)

variable {n : Int32}

lemma approaches_of_zeroEncoders {attempts : Nat} {stage : Stage Job Reply Drivetrain}
    (counts : d.rolled = n) (done : d.zeroEncoders attempts params true w = .ok stage) :
    Approaches params n (underWay stage) := by
  cases attempted_of_zeroEncoders done with
  | refused e => exact .refused
  | again => exact .zeroing ((rolled_attempt d w.now).trans counts)
  | settles zero => exact .settling (Nat.le_add_right _ _) ((readEncoder_settled zero).trans counts)
  | starts zero apart => cases apart

/-- The session that begins when the range finder has settled. -/
lemma loop?_settling (begun : StraightDrive.start d.config params.speed
      (.standOff d.range params.distance) (Clock.seconds params.timeout) w.now = .ok s) :
    loop? (.working (.settling params)) d w = some (.straight s, { d with session := .straight s },
      w.notice (.rangeTaken d.range params.distance)) := by
  have noticed : StraightDrive.start d.config params.speed (.standOff d.range params.distance)
      (Clock.seconds params.timeout) (w.notice (.rangeTaken d.range params.distance)).now = .ok s := begun
  simp only [loop?, straight?, noticed]
  rfl

/-- What the right encoder shows depends on the chassis and on how the encoders behave. -/
lemma readEncoder_congr (chassis : e.chassis = d.chassis) (encoders : e.encoders = d.encoders)
    (now : Micros) (side : Side) : (e.readEncoder now side).1 = (d.readEncoder now side).1 := by
  simp only [readEncoder, chassis, encoders]
  cases d.encoders <;> rfl

/-- A look at a move on its way to the sample does not end the way, or is the sample. -/
lemma approaches_of_step {l : List Look} (h : Approaches params n b) (step : orders.Step b l b') :
    l = [] ∧ Approaches params n b' ∨
      ∃ s first, l = [first] ∧ Samples params s first b b' ∧ first.encoder = n := by
  cases id step with
  | pending looked =>
    refine .inl ⟨rfl, ?_⟩
    cases h with
    | heard => cases looked
    | zeroing counts => exact .zeroing counts
    | settling early shows =>
      obtain ⟨rfl, still⟩ := World.poll_sleep_eq_pending looked
      exact .settling (still ▸ early) shows
  | @woken wait wake p d v u stage looked worked =>
    cases h with
    | heard counts =>
      obtain ⟨stage, done, worked⟩ := bind_eq_ok.1 worked
      cases worked
      have idle : { d with session := .idle }.rolled = n := counts
      exact .inl ⟨rfl, approaches_of_zeroEncoders idle done⟩
    | zeroing counts =>
      obtain ⟨stage, done, worked⟩ := bind_eq_ok.1 worked
      cases worked
      refine .inl ⟨?_, approaches_of_zeroEncoders counts done⟩
      simp [orders, loop?, zeroed?]
    | @settling time armed _ _ early shows =>
      obtain ⟨due, rfl⟩ := World.poll_sleep_eq_over looked
      obtain rfl := Nat.le_antisymm early due
      obtain ⟨stage, done, -⟩ := bind_eq_ok.1 worked
      obtain ⟨s, begun, -⟩ := bind_eq_ok.1 done
      have loop := loop?_settling (w := u) begun
      have encoder : ({ d with session := .straight s }.readEncoder u.now .right).1 =
          (d.readEncoder u.now .right).1 := by
        apply readEncoder_congr <;> rfl
      have noted : orders.notes (.sleep ⟨u.now, armed⟩) (.working (.settling params)) wake d u =
          [(Aim.straight s).look { d with session := .straight s }
            (u.notice (.rangeTaken d.range params.distance))] := by
        simp only [orders, loop, Option.toList_some, List.map_cons, List.map_nil]
      rw [noted] at step ⊢
      exact .inr ⟨s, _, rfl, ⟨⟨_, rfl⟩, begun, rfl, encoder, step⟩, encoder.trans shows⟩

/-- Time goes by for a move on its way to the sample, at most up to its alarm. -/
lemma approaches_of_lasts {p : Phase} {wait : Wait} {time : Micros}
    (h : Approaches params n (.waiting wait p, d, w)) (lasts : wait.Lasts w time) :
    Approaches params n (.waiting wait p, d, { w with now := time }) := by
  cases h with
  | heard counts => exact .heard counts
  | zeroing counts => exact .zeroing counts
  | settling early shows => exact .settling (lasts.quiet _ rfl).2 shows

/-- Untouched, a move on its way to the sample comes to show what was rolled. -/
lemma approaches_of_untouched {t : List (Passage Look)}
    (run : orders.TimedRun Untouched (.waiting .none (.heard (.proximityMove params)), d, w) t b)
    (silent : Passage.notes t = []) : Approaches params d.rolled b := by
  induction run with
  | start => exact .heard rfl
  | look run step ih =>
    rw [Passage.notes_append, Passage.notes_noted, List.append_eq_nil_iff] at silent
    obtain ⟨silent, unnoted⟩ := silent
    rcases approaches_of_step (ih silent) step with ⟨-, approaches⟩ | ⟨s, first, noted, -⟩
    · exact approaches
    · cases noted.symm.trans unnoted
  | around run change still ih =>
    obtain ⟨range, same⟩ := change
    have same : _ = _ := same
    subst same
    cases ih silent with
    | heard counts => exact .heard counts
    | zeroing counts => exact .zeroing counts
    | settling early shows =>
      refine .settling (still ▸ early) (Eq.trans ?_ shows)
      apply readEncoder_congr <;> rfl
    | refused => exact .refused
  | tick run lasts ih =>
    rw [Passage.notes_append, Passage.notes_elapsed, List.append_nil] at silent
    exact approaches_of_lasts (ih silent) lasts

/-- The surroundings cannot make a move miss the sample, only change what its encoder will show. -/
lemma approaches_of_beside {q : Progress Phase Reply} (h : Approaches params n (q, d, w))
    (still : u.now = w.now) : ∃ m, Approaches params m (q, e, u) := by
  cases h with
  | heard => exact ⟨_, .heard rfl⟩
  | zeroing => exact ⟨_, .zeroing rfl⟩
  | settling early => exact ⟨_, .settling (still ▸ early) rfl⟩
  | refused => exact ⟨0, .refused⟩

/-- A run in which a proximity move has looked at its sensors parts at the sample. -/
lemma exists_sampling {t : List (Passage Look)}
    (run : orders.TimedRun Beside (.waiting .none (.heard (.proximityMove params)), d, w) t b) :
    (Passage.notes t = [] ∧ ∃ n, Approaches params n b) ∨
      ∃ t₁ x s first y t₂, t = t₁ ++ .noted first :: t₂ ∧ Passage.notes t₁ = [] ∧
        orders.TimedRun Beside (.waiting .none (.heard (.proximityMove params)), d, w) t₁ x ∧
        Samples params s first x y ∧ orders.TimedRun Beside y t₂ b := by
  induction run with
  | start => exact .inl ⟨rfl, _, .heard rfl⟩
  | @look _ _ _ l run step ih =>
    rcases ih with ⟨silent, n, approaches⟩ |
      ⟨t₁, x, s, first, y, t₂, rfl, silent, approach, samples, rest⟩
    · rcases approaches_of_step approaches step with ⟨rfl, approaches⟩ | ⟨s, first, rfl, samples, -⟩
      · exact .inl ⟨by simpa using silent, n, approaches⟩
      · exact .inr ⟨_, _, s, first, _, [], rfl, silent, run, samples, .start _⟩
    · exact .inr ⟨t₁, x, s, first, y, t₂ ++ l.map .noted, by simp, silent, approach, samples,
        rest.look step⟩
  | around run change still ih =>
    rcases ih with ⟨silent, n, approaches⟩ |
      ⟨t₁, x, s, first, y, t₂, rfl, silent, approach, samples, rest⟩
    · exact .inl ⟨silent, approaches_of_beside approaches still⟩
    · exact .inr ⟨t₁, x, s, first, y, t₂, rfl, silent, approach, samples, rest.around change still⟩
  | tick run lasts ih =>
    rcases ih with ⟨silent, n, approaches⟩ |
      ⟨t₁, x, s, first, y, t₂, rfl, silent, approach, samples, rest⟩
    · exact .inl ⟨by simpa using silent, n, approaches_of_lasts approaches lasts⟩
    · exact .inr ⟨t₁, x, s, first, y, _, by simp, silent, approach, samples, rest.tick lasts⟩

/-! ### From the sample to the end -/

/-- After the sample, the session has begun. -/
lemma stands_of_samples (samples : Samples params s first b b') :
    b'.2.1.config = b.2.1.config ∧ (Aim.straight s).Stands b.2.1.config first b' := by
  obtain ⟨⟨wait, settled⟩, begun, time, encoder, step⟩ := samples
  generalize noted : [first] = l at step
  cases step with
  | pending => cases noted
  | @woken wait wake p d v u stage looked worked =>
    cases settled
    have now := (World.ended_of_poll looked).untouched.1
    have begun : StraightDrive.start d.config params.speed (.standOff d.range params.distance)
        (Clock.seconds params.timeout) u.now = .ok s := now ▸ begun
    have loop := loop?_settling begun
    obtain ⟨-, session, config, -, stage, resumed, rfl⟩ := serves_of_loop? .settling loop worked
    simp only [orders, loop, Option.toList_some, List.map_cons, List.map_nil] at noted
    obtain rfl := List.singleton_inj.1 noted
    obtain ⟨same, stands⟩ := stands_of_resume session resumed
    rw [config] at stands
    exact ⟨same.trans config, stands⟩

/-- All through a run, a loop stands where its last look has brought it. -/
lemma stands_of_run {a : Aim} {config : DriveConfig} {l : Look} {t : List (Passage Look)}
    (same : b.2.1.config = config) (stands : a.Stands config l b)
    (run : orders.TimedRun Beside b t b') :
    ∃ k, (l :: Passage.notes t).getLast? = some k ∧ b'.2.1.config = config ∧ a.Stands config k b' := by
  induction run with
  | start => exact ⟨l, rfl, same, stands⟩
  | look run step ih =>
    obtain ⟨k, last, same, stands⟩ := ih
    cases step with
    | pending looked => exact ⟨k, by simpa using last, same, stands_of_pending stands looked⟩
    | woken looked worked =>
      have same : _ = config := same
      subst same
      obtain ⟨noted, -, -, same, stands⟩ := stands_of_woken stands looked worked
      refine ⟨_, ?_, same, stands⟩
      rw [Passage.notes_append, Passage.notes_noted, noted, ← List.cons_append, List.getLast?_concat]
  | around run change still ih =>
    obtain ⟨k, last, same, stands⟩ := ih
    obtain ⟨unchanged, stands⟩ := stands_of_beside stands change still
    exact ⟨k, last, unchanged.trans same, stands⟩
  | tick run lasts ih =>
    obtain ⟨k, last, same, stands⟩ := ih
    exact ⟨k, by simpa using last, same, stands_of_lasts stands lasts⟩

/-- A look in autonomous and before the deadline ends a straight drive only if the goal is met. -/
lemma isReached_of_ends {config : DriveConfig} {l : Look} (ends : (Aim.straight s).ends config l = true)
    (staying : l.inAuto = true) (early : l.time < s.deadline) : s.isReached l.encoder = true := by
  have in_time : ¬ (Aim.straight s).deadline ≤ l.time := Nat.not_le_of_lt early
  simp only [Aim.ends, staying, in_time, decide_false, Bool.not_true, Bool.or_false, Bool.false_or,
    Aim.met] at ends
  unfold StraightDrive.isReached
  cases target : s.target with
  | none =>
    rw [target] at ends
    cases ends
  | some goal =>
    rw [target] at ends
    exact ends

/-- Before the sample, a proximity move has not looked at its sensors. -/
lemma silent_of_samples {t : List (Passage Look)} (samples : Samples params s first b b')
    (run : orders.TimedRun Beside (.waiting .none (.heard (.proximityMove params)), d, w) t b) :
    Passage.notes t = [] := by
  rcases exists_sampling run with ⟨silent, -⟩ | ⟨_, x, _, _, y, _, -, -, -, earlier, rest⟩
  · exact silent
  · obtain ⟨same, stands⟩ := stands_of_samples earlier
    obtain ⟨k, -, -, stands⟩ := stands_of_run same stands rest
    obtain ⟨wait, settled⟩ := samples.settled
    cases stands with
    | waits => cases settled
    | ended => cases settled

/-- Who touches nothing but the range finder is beside the command. -/
lemma beside_of_untouched {x y : Drivetrain × World} (h : Untouched x y) : Beside x y := by
  obtain ⟨range, same⟩ := h
  exact ⟨⟨y.1, by rw [same]; rfl⟩, by rw [same]; rfl⟩

/-- At the sample, the encoder of an untouched robot shows what the motors have rolled in the time of
settling. -/
lemma encoder_of_samples {t : List (Passage Look)}
    (approach : orders.TimedRun Untouched (.waiting .none (.heard (.proximityMove params)), d, w) t b)
    (samples : Samples params s first b b') : first.encoder = d.rolled := by
  have silent := silent_of_samples samples (approach.mono fun _ _ => beside_of_untouched)
  rcases approaches_of_step (approaches_of_untouched approach silent) samples.step with
    ⟨noted, -⟩ | ⟨_, _, noted, -, shows⟩
  · cases noted
  · rw [List.singleton_inj.1 noted, shows]

section

variable {t l : List (Passage Look)} {x y : Stage Phase Reply Drivetrain} {last : Look} {reply : Reply}

/-- A proximity move that ends in autonomous and before its deadline has come to its target since the
encoders were zeroed. -/
lemma isReached_of_finished (samples : Samples params s first x y) (rest : orders.TimedRun Beside y l b)
    (looked : (first :: Passage.notes l).getLast? = some last) (ended : b.1 = .finished reply)
    (staying : last.inAuto = true) (early : last.time < s.deadline) :
    s.isReached last.encoder = true := by
  obtain ⟨same, stands⟩ := stands_of_samples samples
  obtain ⟨k, last_look, -, stands⟩ := stands_of_run same stands rest
  rw [last_look] at looked
  cases looked
  cases stands with
  | waits => cases ended
  | ended ends => exact isReached_of_ends ends staying early

/-- A robot that stood still when the command was heard has come to its target since the sample. -/
theorem travel_from_rest (still : (d.chassis.pace == 0) = true)
    (approach : orders.TimedRun Untouched (.waiting .none (.heard (.proximityMove params)), d, w) t x)
    (samples : Samples params s first x y) (rest : orders.TimedRun Beside y l b)
    (looked : (first :: Passage.notes l).getLast? = some last) (ended : b.1 = .finished reply)
    (staying : last.inAuto = true) (early : last.time < s.deadline) :
    s.isReached (last.encoder - first.encoder) = true := by
  have reached := isReached_of_finished samples rest looked ended staying early
  rw [encoder_of_samples approach samples, rolled_of_rest still, Int32.sub_zero]
  exact reached

/-- A proximity move that ends because its goal is met has not come to its target since the sample. It has
come to it since the encoders were zeroed, and in between the motors, as the command before left them,
have rolled on while the range finder settled. -/
theorem travel_since_sampling
    (approach : orders.TimedRun Untouched (.waiting .none (.heard (.proximityMove params)), d, w) t x)
    (samples : Samples params s first x y) (rest : orders.TimedRun Beside y l b)
    (looked : (first :: Passage.notes l).getLast? = some last) (ended : b.1 = .finished reply)
    (staying : last.inAuto = true) (early : last.time < s.deadline) :
    first.encoder = d.rolled ∧ s.isReached (last.encoder - first.encoder + d.rolled) = true := by
  have rolled := encoder_of_samples approach samples
  have reached := isReached_of_finished samples rest looked ended staying early
  refine ⟨rolled, ?_⟩
  rw [← rolled, Int32.sub_add_cancel]
  exact reached

end

/-- A drivetrain that rolls forward, a foot from whatever is in front of it. -/
def rolling : Drivetrain :=
  { chassis := { output := ⟨-0.25, 0.25⟩ }, range := 12 }

/-- The two inches up to ten inches from there. -/
def closing : MoveParams :=
  { speed := 0.5, distance := 10, timeout := 2 }

/-- The robot rolls on for half a second, 250 counts, while the range finder settles. At the sample, these
pass for the 38 counts that are to be travelled from there, and the move ends at once. -/
lemma exists_overrun : ∃ t x s first y reply,
    orders.TimedRun Untouched (.waiting .none (.heard (.proximityMove closing)), rolling,
        { mode := .autonomous }) t x ∧
      Samples closing s first x y ∧ y.1 = .finished reply ∧ first.inAuto = true ∧
      first.time < s.deadline ∧
      (s.target.any fun target => target.abs ≤ (Single.ofInt32 0).abs + 1) = false := by
  have played : ((orders.playTimed [.look, .look, .tick 500000]
      (.waiting .none (.heard (.proximityMove closing)), rolling, { mode := .autonomous })).any fun x =>
        (Passage.notes x.1).isEmpty &&
        (orders.look? x.2).any (fun y => y.2.1.result? == some .ok &&
          y.1.any fun first => first.inAuto && decide (first.time = 500000)) &&
        (StraightDrive.start x.2.2.1.config closing.speed (.standOff x.2.2.1.range closing.distance)
          (Clock.seconds closing.timeout) x.2.2.2.now).toOption.any fun s => decide (500000 < s.deadline) &&
            !s.target.any fun target => target.abs ≤ (Single.ofInt32 0).abs + 1) = true := by
    decide +kernel
  obtain ⟨⟨t, x⟩, played, passed⟩ := (Option.any_eq_true _ _).1 played
  have free : ∀ (d : Drivetrain) (v w : World), Untouched (d, v) (d, w) := fun d _ _ => ⟨d.range, rfl⟩
  have run := Routine.timedRun_of_playTimed free played
  simp only [Bool.and_eq_true] at passed
  obtain ⟨⟨silent, looked⟩, begins⟩ := passed
  obtain ⟨⟨l, y⟩, looked, passed⟩ := (Option.any_eq_true _ _).1 looked
  obtain ⟨ended, passed⟩ := Bool.and_eq_true_iff.1 passed
  have approaches := approaches_of_untouched run (List.isEmpty_iff.1 silent)
  rcases approaches_of_step approaches (Routine.step_of_look? looked) with
    ⟨rfl, -⟩ | ⟨s, first, rfl, samples, -⟩
  · cases passed
  · simp only [List.any_cons, List.any_nil, Bool.or_false, Bool.and_eq_true, decide_eq_true_eq] at passed
    obtain ⟨staying, time⟩ := passed
    rw [samples.begun] at begins
    obtain ⟨early, short⟩ := Bool.and_eq_true_iff.1 begins
    refine ⟨t, x, s, first, y, .ok, run, samples, Progress.result?_eq_some_iff.1 (beq_iff_eq.1 ended),
      staying, ?_, by simpa using short⟩
    rw [time]
    exact of_decide_eq_true early

/-- The move ends although it has only rolled, and not travelled, the counts of its target. -/
theorem closing_has_only_rolled : ∃ t x s first y,
    orders.TimedRun Untouched (.waiting .none (.heard (.proximityMove closing)), rolling,
        { mode := .autonomous }) t x ∧
      Samples closing s first x y ∧ first.encoder = 250 ∧ s.isReached 250 = true := by
  obtain ⟨t, x, s, first, y, reply, approach, samples, ended, staying, early, -⟩ := exists_overrun
  have last : (first :: Passage.notes []).getLast? = some first := rfl
  obtain ⟨shows, reached⟩ :=
    travel_since_sampling approach samples (.start y) last ended staying early
  have rolled : rolling.rolled = 250 := by decide +kernel
  rw [rolled] at shows reached
  rw [shows] at reached
  exact ⟨t, x, s, first, y, approach, samples, shows, reached⟩

/-- A proximity move that ends because its goal is met has not always travelled the counts of its target
since the range finder was sampled, not even up to a count. -/
theorem exists_untravelled : ¬ ∀ {params : MoveParams} {s : StraightDrive} {first last : Look}
    {d : Drivetrain} {w : World} {t l : List (Passage Look)} {x y b : Stage Phase Reply Drivetrain}
    {reply : Reply},
    orders.TimedRun Untouched (.waiting .none (.heard (.proximityMove params)), d, w) t x →
    Samples params s first x y → orders.TimedRun Beside y l b →
    (first :: Passage.notes l).getLast? = some last → b.1 = .finished reply → last.inAuto = true →
    last.time < s.deadline →
    (s.target.any fun target =>
      target.abs ≤ (Single.ofInt32 (last.encoder - first.encoder)).abs + 1) = true := by
  intro travels
  obtain ⟨t, x, s, first, y, reply, approach, samples, ended, staying, early, short⟩ := exists_overrun
  have last : (first :: Passage.notes []).getLast? = some first := rfl
  have travelled := travels approach samples (.start y) last ended staying early
  rw [Int32.sub_self, short] at travelled
  cases travelled

end Drivetrain

end MatchRobot
