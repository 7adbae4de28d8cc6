import Mathlib.Data.List.Chain
import MatchRobot.Proofs.Number.Arithmetic
import MatchRobot.Proofs.Assembly.Attempts

/-!
# Posting the driver's commands

The dispatcher alone, among surroundings that may do anything to the world: they may drain the mailboxes
or fill them, move the mode flag and report whatever they like. It samples the driver's controls and
changes the mode, in any order, but it does nothing else while it tells the tasks of a mode.

`Dispatcher.posting_law` says what such a run is like. A lever is remembered by the last command that its
mailbox has accepted since the mode was changed (`Lever.since`), and no command is accepted twice in a
row. `Dispatcher.Lawful` is the law of the next sample, whatever it is. Of the run before it, the next
sample only needs to know the sample that came last, in whatever mode that was.
-/

namespace MatchRobot

namespace Dispatcher

/-! ### Runs of the dispatcher -/

/-- Something that the dispatcher does. -/
inductive Event
  /-- It changes the mode. -/
  | changed (mode : Mode)
  /-- It gives out the commands of a sample between two worlds. -/
  | sampled (i : DriverInput) (v w : World)

/-- What can happen next. -/
inductive Step : Stage Broadcast Bool Dispatcher → List Event → Stage Broadcast Bool Dispatcher → Prop
  | change {r : Bool} {d : Dispatcher} {w : World} {m : Mode} :
      Step (.finished r, d, w) (if w.mode = m then [] else [.changed m]) (d.changeState m w)
  | tell {a b : Stage Broadcast Bool Dispatcher} {told : List Occurrence}
      (step : Broadcast.routine.Step a told b) : Step a [] b
  | sample {r : Bool} {d : Dispatcher} {w : World} {i : DriverInput} :
      Step (.finished r, d, w) [.sampled i w (d.teleop i w).2.2] (.finished r, (d.teleop i w).2)
  /-- The surroundings do something. -/
  | around {p : Progress Broadcast Bool} {d : Dispatcher} {v w : World} : Step (p, d, v) [] (p, d, w)

/-- What can happen in any order; the events come in order. -/
inductive Run : Stage Broadcast Bool Dispatcher → List Event → Stage Broadcast Bool Dispatcher → Prop
  | start (a : Stage Broadcast Bool Dispatcher) : Run a [] a
  | step {a b c : Stage Broadcast Bool Dispatcher} {t l : List Event} (run : Run a t b)
      (step : Step b l c) : Run a (t ++ l) c

/-- The samples that were taken in any mode, in order. -/
def samples (t : List Event) : List DriverInput :=
  t.filterMap fun | .sampled i _ _ => some i | .changed _ => none

/-- The sample that was taken last; before the first one the controls count as released. -/
def lastSample (t : List Event) : DriverInput :=
  (samples t).getLastD {}

end Dispatcher

/-- The commands of a lever that its mailbox has accepted since the last change of mode. -/
def Lever.since (l : Lever) (t : List Dispatcher.Event) : List Command :=
  t.foldl (fun accepted e => match e with
    | .changed _ => []
    | .sampled _ v w => accepted ++ (v.arrivals w l.part.address).filter l.owns) []

namespace Dispatcher

/-- The law of a sample that is taken in a world after some events. -/
structure Lawful (t : List Event) (d : Dispatcher) (v : World) (i : DriverInput) : Prop where
  /-- A lever is remembered by what is asked of it, unless that met a full mailbox. -/
  remembers : v.mode = .teleoperated ∨ v.mode = .test → ∀ l : Lever,
    l.remembered (d.teleop i v).2.1 = l.asked i ∨
      (l.part.address, l.asked i) ∈ v.rejects (d.teleop i v).2.2
  /-- Nothing is dropped but for a full mailbox. -/
  full : ∀ x ∈ v.rejects (d.teleop i v).2.2,
    Settings.mailboxDepth ≤ ((d.teleop i v).2.2.post.queue x.1).length
  /-- The arm is tried once if a button of it is newly pressed, and otherwise not at all. -/
  arm : ∀ a, v.tries (d.teleop i v).2.2 a Command.isArm =
    if (v.mode = .teleoperated ∨ v.mode = .test) ∧ a = .gearFloor ∧ armPressed (lastSample t) i then 1
    else 0
  /-- The same holds of the gripper. -/
  gear : ∀ a, v.tries (d.teleop i v).2.2 a Command.isGear =
    if (v.mode = .teleoperated ∨ v.mode = .test) ∧ a = .gearIntake ∧ gearPressed (lastSample t) i then 1
    else 0
  /-- What is in a mailbox stays there. -/
  grows : ∀ a, v.post.queue a <+: (d.teleop i v).2.2.post.queue a
  /-- What is counted are the messages that the mailboxes have accepted. -/
  count : (d.teleop i v).1 = (Address.all.flatMap (v.arrivals (d.teleop i v).2.2)).length
  /-- Nothing is posted or dropped in any other mode. -/
  silent : ¬ (v.mode = .teleoperated ∨ v.mode = .test) → (d.teleop i v).1 = 0 ∧
    (∀ a, (d.teleop i v).2.2.post.queue a = v.post.queue a) ∧ v.rejects (d.teleop i v).2.2 = []

end Dispatcher

/-! ### What is asked of a lever -/

namespace Lever

/-- The command of a lever that is held in one of its two directions. -/
def held : Lever → Bool → Float32 → Command
  | climber, forth, x => .climber (if forth then .up x else .down x)
  | hopper, forth, x => .hopper (if forth then .up x else .down x)
  | roller, forth, x => .floor (if forth then .pullIn x else .pushOut x)

/-- What a sample asks of a lever is to stop, or to move with a positive speed. -/
lemma asked_cases (l : Lever) (i : DriverInput) :
    l.asked i = l.stop ∨ ∃ forth x, 0 < x ∧ l.asked i = l.held forth x := by
  cases l with
  | climber | hopper =>
    simp only [asked]
    split
    · exact .inr ⟨true, _, by decide, rfl⟩
    · split
      · exact .inr ⟨false, _, by decide, rfl⟩
      · exact .inl rfl
  | roller =>
    have pos : ∀ {x : Float32}, 0.1 < x → 0 < x := Single.pos_of_lt (by decide)
    simp only [asked]
    split
    · next pulls => exact .inr ⟨true, _, pos pulls, rfl⟩
    · split
      · next pushes => exact .inr ⟨false, _, pos pushes, rfl⟩
      · exact .inl rfl

/-- What is asked of a lever is what it is remembered by if the two compare equal, since no speed is zero or
`NaN`. -/
lemma eq_of_beq_asked (l : Lever) {i : DriverInput} {d : Dispatcher}
    (h : (l.asked i == l.remembered d) = true) : l.asked i = l.remembered d := by
  obtain ⟨before, climber, hopper, roller⟩ := d
  rcases l.asked_cases i with stop | ⟨forth, x, pos, held⟩
  · rw [stop] at h ⊢
    cases l with
    | climber => cases climber <;> first | rfl | cases h
    | hopper => cases hopper <;> first | rfl | cases h
    | roller => cases roller <;> first | rfl | cases h
  · rw [held] at h ⊢
    -- The same direction at a speed that compares equal, or another command.
    have same : ∀ l : Lever, ∀ {y}, (x == y) = true → l.held forth x = l.held forth y :=
      fun l _ equal => congrArg (l.held forth) (Single.eq_of_beq pos equal)
    cases l with
    | climber => cases forth <;> cases climber <;> first | exact same .climber h | cases h
    | hopper => cases forth <;> cases hopper <;> first | exact same .hopper h | cases h
    | roller => cases forth <;> cases roller <;> first | exact same .roller h | cases h

/-! ### What is accepted of it -/

section

variable {a : Address} {asked last new : Command} {es : List Attempt} {v w : World}

/-- The commands of a lever that have come to its mailbox are those of its attempts that were sent. -/
lemma accepted_eq (l : Lever) (h : World.Offered es v w) :
    (v.arrivals w l.part.address).filter l.owns =
      (es.filter fun e => l.owns e.command).filterMap (Attempt.arrival? l.part.address) := by
  rw [World.arrivals_eq h, List.filter_filterMap, List.filterMap_filter]
  congr 1
  funext e
  unfold Attempt.arrival?
  cases e.sent && e.address == l.part.address <;> cases owned : l.owns e.command <;> simp [owned]

/-- Either nothing new is accepted and remembered, or it is what is asked, and differs from what was
remembered before. -/
lemma Worked.accepted (h : Worked a asked last es new) :
    es.filterMap (Attempt.arrival? a) = [] ∧ new = last ∨
      es.filterMap (Attempt.arrival? a) = [asked] ∧ new = asked ∧ (asked == last) = false := by
  cases h with
  | kept same => exact .inl ⟨rfl, rfl⟩
  | tried differs sent =>
    cases sent with
    | false => exact .inl ⟨rfl, rfl⟩
    | true => exact .inr ⟨by simp [Attempt.arrival?], rfl, differs⟩

/-- What is asked is remembered in the end, unless the attempt fails. -/
lemma Worked.remembers (h : Worked a asked last es new)
    (compared : (asked == last) = true → asked = last) :
    new = asked ∨ ⟨a, asked, false⟩ ∈ es := by
  cases h with
  | kept same => exact .inl (compared same).symm
  | tried differs sent =>
    cases sent with
    | false => exact .inr (List.mem_singleton.2 rfl)
    | true => exact .inl rfl

end

end Lever

namespace Dispatcher

variable {t l : List Event} {d : Dispatcher} {v : World}

/-! ### The next sample -/

/-- A sample is lawful if the dispatcher has not lost sight of the sample that came last. -/
lemma lawful_of_previous (previous : d.previous = lastSample t) (v : World) (i : DriverInput) :
    Lawful t d v i := by
  by_cases driven : v.mode = .teleoperated ∨ v.mode = .test
  · obtain ⟨es, offered, count, sampled⟩ := d.sampled_teleop i (Mode.obeysDriver_iff.2 driven)
    refine ⟨fun _ l => ?_, fun x => World.length_of_rejected offered, fun a => ?_, fun a => ?_,
      fun a => ?_, ?_, fun other => absurd driven other⟩
    · rcases (sampled.lever l).remembers l.eq_of_beq_asked with remembered | failed
      · exact .inl remembered
      · rw [World.rejects_eq offered]
        exact .inr (List.mem_filterMap.2 ⟨_, (List.mem_filter.1 failed).1, rfl⟩)
    · rw [World.tries_eq offered, sampled.arm, previous]
      simp only [driven, true_and]
    · rw [World.tries_eq offered, sampled.gear, previous]
      simp only [driven, true_and]
    · exact ⟨_, (offered.queue a).symm⟩
    · rw [count, World.length_arrivals offered]
  · have ignores : v.mode.obeysDriver = false :=
      Bool.eq_false_iff.2 fun obeys => driven (Mode.obeysDriver_iff.1 obeys)
    obtain ⟨offered, count, -⟩ := d.idle_teleop i ignores
    have same : ∀ a, (d.teleop i v).2.2.post.queue a = v.post.queue a := by
      intro a
      rw [offered.queue a]
      exact List.append_nil _
    refine ⟨fun contrary => absurd contrary driven, fun x => World.length_of_rejected offered,
      fun a => ?_, fun a => ?_, fun a => ?_, ?_, fun _ => ⟨count, same, World.rejects_eq offered⟩⟩
    · rw [World.tries_eq offered, if_neg fun h => driven h.1]
      rfl
    · rw [World.tries_eq offered, if_neg fun h => driven h.1]
      rfl
    · rw [same a]
    · rw [count, World.length_arrivals offered]
      rfl

/-! ### Runs -/

/-- The account of a dispatcher after some events. -/
structure Recalls (t : List Event) (d : Dispatcher) : Prop where
  previous : d.previous = lastSample t
  last : ∀ l : Lever, l.remembered d = (l.since t).getLastD l.stop
  differ : ∀ l : Lever, (l.stop :: l.since t).IsChain fun c c' => (c' == c) = false

lemma recalls_of_change {m : Mode} (h : Recalls t d) (w : World) :
    Recalls (t ++ if w.mode = m then [] else [.changed m]) (d.changeState m w).2.1 := by
  unfold changeState changeMode
  split
  · rw [List.append_nil]
    exact h
  · have samples : lastSample (t ++ [.changed m]) = lastSample t := by
      simp [lastSample, samples]
    have forgotten : ∀ l : Lever, l.since (t ++ [.changed m]) = [] := by
      intro l
      simp [Lever.since]
    refine ⟨h.previous.trans samples.symm, fun l => ?_, fun l => ?_⟩
    · rw [forgotten l]
      cases l <;> rfl
    · rw [forgotten l]
      exact List.isChain_singleton _

/-- What is accepted of a lever is remembered from then on. -/
lemma Recalls.of_accepted {d' : Dispatcher} {i : DriverInput} {w : World} (h : Recalls t d)
    (previous : d'.previous = i)
    (accepted : ∀ l : Lever, (v.arrivals w l.part.address).filter l.owns = [] ∧
        l.remembered d' = l.remembered d ∨
      (v.arrivals w l.part.address).filter l.owns = [l.remembered d'] ∧
        (l.remembered d' == l.remembered d) = false) : Recalls (t ++ [.sampled i v w]) d' := by
  have sampled : lastSample (t ++ [.sampled i v w]) = i := by
    simp [lastSample, samples]
  have grown : ∀ l : Lever, l.since (t ++ [.sampled i v w]) =
      l.since t ++ (v.arrivals w l.part.address).filter l.owns := by
    intro l
    simp [Lever.since]
  refine ⟨previous.trans sampled.symm, fun l => ?_, fun l => ?_⟩
  · rcases accepted l with ⟨nothing, same⟩ | ⟨new, -⟩
    · rw [grown, nothing, List.append_nil, same]
      exact h.last l
    · rw [grown, new, List.getLastD_concat]
  · rcases accepted l with ⟨nothing, -⟩ | ⟨new, differs⟩
    · rw [grown, nothing, List.append_nil]
      exact h.differ l
    · -- The new command comes after the one that was remembered, which is the last one so far.
      rw [grown, new, ← List.cons_append, List.isChain_append]
      refine ⟨h.differ l, List.isChain_singleton _, fun x hx y hy => ?_⟩
      rw [List.getLast?_cons, ← List.getLastD_eq_getLast?, ← h.last l] at hx
      cases hx
      cases hy
      exact differs

lemma recalls_of_step {a b : Stage Broadcast Bool Dispatcher} (h : Recalls t a.2.1)
    (step : Step a l b) : Recalls (t ++ l) b.2.1 := by
  cases step with
  | @change r d w m => exact recalls_of_change h w
  | tell step =>
    rw [List.append_nil]
    cases step with
    | pending => exact h
    | woken looked worked =>
      cases worked
      exact h
  | @sample r d w i =>
    cases obeys : w.mode.obeysDriver with
    | true =>
      obtain ⟨es, offered, -, sampled⟩ := d.sampled_teleop i obeys
      refine h.of_accepted sampled.previous fun l => ?_
      -- What has come to the mailbox of the lever and is its own are its attempts that were sent.
      rw [Lever.accepted_eq l offered]
      rcases (sampled.lever l).accepted with nothing | ⟨new, remembered, differs⟩
      · exact .inl nothing
      · rw [new, remembered]
        exact .inr ⟨rfl, differs⟩
    | false =>
      obtain ⟨offered, -, same⟩ := d.idle_teleop i obeys
      refine h.of_accepted (by rw [same]) fun l => .inl ⟨?_, ?_⟩
      · rw [World.arrivals_eq offered]
        rfl
      · rw [same]
        cases l <;> rfl
  | around =>
    rw [List.append_nil]
    exact h

lemma recalls_of_run {w : World} {r : Bool} {b : Stage Broadcast Bool Dispatcher}
    (run : Run (.finished r, {}, w) t b) : Recalls t b.2.1 := by
  induction run with
  | start => exact ⟨rfl, fun l => by cases l <;> rfl, fun l => List.isChain_singleton _⟩
  | step run step ih => exact recalls_of_step ih step

/-- A dispatcher that begins with the levers released remembers a lever by the last command that was
accepted since the mode was changed, and by the release of the lever if there was none. No command is
accepted that compares equal to the one before it. The next sample is lawful. -/
theorem posting_law {w : World} {r : Bool} {b : Stage Broadcast Bool Dispatcher}
    (run : Run (.finished r, {}, w) t b) :
    (∀ l : Lever, l.remembered b.2.1 = (l.since t).getLastD l.stop ∧
      (l.stop :: l.since t).IsChain fun c c' => (c' == c) = false) ∧
      ∀ i, Lawful t b.2.1 b.2.2 i := by
  have recalls := recalls_of_run run
  exact ⟨fun l => ⟨recalls.last l, recalls.differ l⟩, lawful_of_previous recalls.previous b.2.2⟩

/-- The mailbox of the climber is full when the driver lets go of both levers, so that the climber is
remembered as held until it has been let go of again. The next sample presses a button of the arm, which
counts once, and the sample after that holds it and presses one of the gripper. -/
theorem dropped_release_is_posted_again :
    let armed : DriverInput := { armNext := true }
    let geared : DriverInput := { armNext := true, gearHold := true }
    ∃ t u b c, Run (.finished false, {}, { mode := .teleoperated }) t b ∧
      (lastSample t).climbUp = false ∧ b.2.1.climber = .up 1 ∧ b.2.1.hopper = .stop ∧
      b.2.2.tries (b.2.1.teleop armed b.2.2).2.2 .gearFloor Command.isArm = 1 ∧
      Run (.finished false, {}, { mode := .teleoperated }) (t ++ u) c ∧
      (Lever.climber.since (t ++ u)).length = 2 ∧ Lever.climber.Released c.2.1 ∧
      c.2.2.tries (c.2.1.teleop geared c.2.2).2.2 .gearFloor Command.isArm = 0 ∧
      c.2.2.tries (c.2.1.teleop geared c.2.2).2.2 .gearIntake Command.isGear = 1 := by
  intro armed geared
  let v : World := { mode := .teleoperated }
  let full : List Message := List.replicate Settings.mailboxDepth { command := .climber .stop }
  let crowded : World := { v with post := v.post.setQueue .climber full }
  have held := (Run.start (.finished false, {}, v)).step
    (.sample (i := { climbUp := true, hopperUp := true }))
  have dropped := (held.step (.around (w := crowded))).step (.sample (i := {}))
  have drained := dropped.step (.around (w := v))
  rw [List.append_nil] at drained
  have again := drained.step (.sample (i := armed))
  obtain ⟨levers, next⟩ := posting_law drained
  have next' := (posting_law again).2
  refine ⟨_, _, _, _, drained, by decide +kernel, ?_, ?_, ?_, again, by decide +kernel,
    by decide +kernel, ?_, ?_⟩
  · exact Command.climber.inj ((levers .climber).1.trans rfl)
  · exact Command.hopper.inj ((levers .hopper).1.trans rfl)
  · exact ((next armed).arm _).trans (if_pos (by decide +kernel))
  · exact ((next' geared).arm _).trans (if_neg (by decide +kernel))
  · exact ((next' geared).gear _).trans (if_pos (by decide +kernel))

end Dispatcher

end MatchRobot
