import MatchRobot.Proofs.Subsystem.Battery

/-!
# The mode flag and the steering filter

The drivetrain feeds the steering filter in every cycle, whether the robot is enabled or not. What the
filter makes of it depends on its memory, the goal and the battery voltage (`Feed`); the encoders and the
gyro get into its report and no further (`Steering.exists_update`). So the commands determine the feed
(`Drivetrain.feed_of_run`), and two drivetrains with different chassis, under different mode flags, compute the same
voltages as long as they handle the same commands (`Drivetrain.feed_of_same_commands`).

This is about plain commands. A move or a turn would not do: while its session is under way the filter is
not fed, and the flag and the sensors decide when it is over.

`Drivetrain.Heeds` says what the flag is good for: it decides whether a command that steers gets its
voltages written. Apart from that write, the cycle of such a command only looks at the chassis.
-/

namespace MatchRobot

/-- Between two states of the chassis it is only looked at: nobody writes a motor or sets a sensor. -/
def Chassis.Looked (c c' : Chassis) : Prop :=
  ∃ times : List Micros, c' = times.foldl touch c

namespace Chassis

variable {c c' c'' : Chassis}

lemma looked_touch (c : Chassis) (now : Micros) : c.Looked (c.touch now) :=
  ⟨[now], rfl⟩

lemma Looked.trans (h : c.Looked c') (k : c'.Looked c'') : c.Looked c'' := by
  obtain ⟨before, rfl⟩ := h
  obtain ⟨after, rfl⟩ := k
  exact ⟨before ++ after, List.foldl_append.symm⟩

/-- Who only looks leaves the outputs as they are. -/
lemma Looked.output (h : c.Looked c') : c'.output = c.output := by
  obtain ⟨times, rfl⟩ := h
  induction times generalizing c with
  | nil => rfl
  | cons now times ih => exact (ih (c := c.touch now)).trans (output_touch c now)

end Chassis

/-! ### What an update depends on -/

namespace Steering

/-- The filter without its report. -/
def forget (s : Steering) : Steering :=
  { s with status := {}, primed := false }

/-- The voltages of the last update, which met the given battery voltage. -/
def voltages (s : Steering) (battery : Float32) : DriveOutput :=
  ⟨Single.clamp (-battery) battery s.status.uncappedLeft,
    Single.clamp (-battery) battery s.status.uncappedRight⟩

variable {s s' : Steering}

/-- The report stays out of what the filter works with. -/
lemma mix_forget (s : Steering) (curve : Float32 → Float32) (goal : DriveGoal) :
    s.forget.mix curve goal = ((s.mix curve goal).1.forget, (s.mix curve goal).2) := by
  simp only [mix, forget]

/-- The outputs of the two sides at a battery voltage, and limited to it. -/
def limited (battery left right : Float32) : DriveOutput :=
  ⟨Single.clamp (-battery) battery (left * battery),
    Single.clamp (-battery) battery (right * battery)⟩

/-- What an update makes of the outputs that the filter mixes. -/
lemma update_eq_ok {goal : DriveGoal} {p : DrivePosition} {left right : Float32}
    (mixed : s.mix remap goal = (s', left, right)) (sound : ¬ Drivetrain.Unsound p.battery) :
    s.update goal p = .ok (limited p.battery left right, { s' with
      status := s'.report p (left * p.battery) (right * p.battery) (limited p.battery left right)
      primed := true }) := by
  rw [Drivetrain.unsound_iff, Bool.not_eq_false] at sound
  unfold update updateBy
  rw [mixed]
  simp only [sound, if_true]
  rfl

lemma voltages_report (s : Steering) (p : DrivePosition) (left right battery : Float32) :
    { s with
      status := s.report p (left * battery) (right * battery) (limited battery left right)
      primed := true }.voltages battery = limited battery left right := by
  unfold voltages report
  simp only [limited]

lemma forget_report (s : Steering) (t t' : DriveStatus) :
    { s.forget with status := t, primed := true }.forget =
      { s with status := t', primed := true }.forget :=
  rfl

/-- An update takes nothing but the battery voltage from the position, and nothing from the report. -/
lemma exists_update (s : Steering) (goal : DriveGoal) (p p' : DrivePosition)
    (volts : p'.battery = p.battery) (sound : ¬ Drivetrain.Unsound p.battery) :
    ∃ o s₁ s₂, s.update goal p = .ok (o, s₁) ∧ s.forget.update goal p' = .ok (o, s₂) ∧
      s₂.forget = s₁.forget ∧ s₁.voltages p.battery = o := by
  obtain ⟨⟨after, left, right⟩, mixed⟩ : ∃ m, s.mix remap goal = m := ⟨_, rfl⟩
  have forgot : s.forget.mix remap goal = (after.forget, left, right) := by
    rw [mix_forget, mixed]
  have updated := update_eq_ok forgot (p := p') (volts.symm ▸ sound)
  rw [volts] at updated
  -- The reports of the two updates differ, so they must not be compared.
  exact ⟨_, _, _, update_eq_ok mixed sound, updated, forget_report .., voltages_report ..⟩

end Steering

/-- What decides about the next update of the steering filter, together with the voltages of the last
one. -/
structure Feed where
  /-- The previous steering and both accumulators; there is no report in it. -/
  memory : Steering
  goal : DriveGoal
  battery : Float32
  voltages : DriveOutput

/-- What decides about the next update of the filter of a drivetrain. -/
def Drivetrain.feed (d : Drivetrain) : Feed where
  memory := d.steering.forget
  goal := d.goal
  battery := d.battery
  voltages := d.steering.voltages d.battery

namespace Feed

/-- One update; an unsound battery voltage has none. -/
def update (f : Feed) : Option Feed :=
  (f.memory.update f.goal { battery := f.battery }).toOption.map fun x =>
    { f with memory := x.2.forget, voltages := x.1 }

/-- The voltages of the update before do not matter. -/
lemma update_congr {f g : Feed} (memory : f.memory = g.memory) (goal : f.goal = g.goal)
    (battery : f.battery = g.battery) : f.update = g.update := by
  unfold update
  rw [memory, goal, battery]

/-- What is left behind by a cycle that takes up a command, if no session is under way. -/
def after (f : Feed) : Command → Option Feed
  | .state _ => some f
  | .drive (.cheesy wheel throttle quickturn) =>
    { f with goal := Drivetrain.goalOf wheel throttle quickturn }.update
  | .system (.constants volts) => { f with battery := volts }.update
  | _ => f.update

end Feed

namespace Command

/-- Whether a command steers by the filter. -/
def steers : Command → Bool
  | .drive (.cheesy ..) => true
  | _ => false

/-- A command that begins no session, and reports no unsound battery voltage. -/
def Plain : Command → Prop
  | .drive command => Drivetrain.DriveCommand.feeds command = true
  | .system (.constants volts) => ¬ Drivetrain.Unsound volts
  | _ => True

lemma plain_of_steers {c : Command} (h : c.steers = true) : c.Plain := by
  unfold steers at h
  split at h
  · rfl
  · cases h

end Command

namespace Drivetrain

variable {d : Drivetrain} {w : World} {c : Command} {now : Micros}

/-- Gives the voltages of the last update to the motors, on request: each as a share of twelve volts, and the
left one with the opposite sign, for its motor is mounted the other way round. -/
def applied (d : Drivetrain) (now : Micros) (on : Bool) : Drivetrain :=
  let v := d.feed.voltages
  let c := (d.chassis.setOutput now .left (-v.left / 12)).setOutput now .right (v.right / 12)
  if on then { d with chassis := c } else d

/-- What is written to both motors, the left one first, is what they put out then. -/
lemma output_applied (d : Drivetrain) (now : Micros) :
    (d.applied now true).chassis.output = ⟨-d.feed.voltages.left / 12, d.feed.voltages.right / 12⟩ := by
  simp only [applied, if_true, Chassis.setOutput, Chassis.output_touch, Sides.set]

/-- The position takes some looks at the chassis. -/
lemma exists_position (d : Drivetrain) (now : Micros) :
    ∃ c, (d.position now).2 = { d with chassis := c } ∧ d.chassis.Looked c := by
  have twice := fun c : Chassis => (c.looked_touch now).trans ((c.touch now).looked_touch now)
  cases encoders : d.encoders with
  | working =>
    simp only [position, readEncoder, encoders]
    exact ⟨_, rfl, (twice _).trans (twice _)⟩
  | stuck n =>
    simp only [position, readEncoder, encoders]
    exact ⟨_, rfl, twice _⟩

/-- Feeding the filter takes some looks at the chassis; a write comes after that, on request. -/
lemma exists_fed (now : Micros) (sound : ¬ Unsound d.battery) :
    ∃ e : Drivetrain, (∀ write, d.steer now write = .ok (e.applied now write)) ∧
      d.feed.update = some e.feed ∧ e.session = d.session ∧ e.battery = d.battery ∧
      d.chassis.Looked e.chassis := by
  have known : (d.position now).1.battery = d.battery :=
    ((tuned_readEncoder d now .left).trans (tuned_readEncoder _ now .right)).battery
  obtain ⟨c, position, looked⟩ := exists_position d now
  obtain ⟨o, s, s', updated, fed, same, volts⟩ := d.steering.exists_update d.goal
    (d.position now).1 { battery := d.battery } known.symm (known.symm ▸ sound)
  rw [known] at volts
  let e : Drivetrain := { d with chassis := c, steering := s }
  have feed : e.feed = { d.feed with memory := s.forget, voltages := o } := by
    rw [← volts]
    rfl
  refine ⟨e, fun write => ?_, ?_, rfl, rfl, looked⟩
  · have steered : d.steer now write =
        .ok (if write then e.drive now (ofVoltages o) else e) := by
      simp only [steer, position, updated, bind, Except.bind, pure, Except.pure, e]
    rw [steered, applied, feed]
    rfl
  · have feeding : d.feed.memory.update d.feed.goal { battery := d.feed.battery } = .ok (o, s') := fed
    rw [feed, Feed.update, feeding, ← same]
    rfl

/-! ### One cycle under any mode flag -/

/-- Handling a command leads to one drivetrain `e`, whatever the mode flag is. The flag decides whether
the voltages of a command that steers go to the motors; up to then such a command looks at the chassis
only. -/
def Obeys (c : Command) (d : Drivetrain) (w : World) : Prop :=
  ∃ (e : Drivetrain) (u : World), (∀ m : Mode, d.handle c { w with mode := m } =
      .ok (replied .ok (e.applied w.now (c.steers && m.isEnabled)) { u with mode := m })) ∧
    d.feed.after c = some e.feed ∧ e.session = .idle ∧ ¬ Unsound e.battery ∧
    (c.steers = true → d.chassis.Looked e.chassis)

/-- A command whose work ends a cycle, with no session under way. -/
lemma obeys_of_settle {e : Drivetrain} {u : World}
    (settles : ∀ m : Mode, d.handle c { w with mode := m } = e.settle { u with mode := m })
    (now : u.now = w.now) (idle : e.session = .idle) (sound : ¬ Unsound e.battery)
    (fed : d.feed.after c = e.feed.update) (aside : c.steers = false) : Obeys c d w := by
  obtain ⟨f, steered, updated, session, battery, -⟩ := exists_fed w.now sound
  refine ⟨f, u, fun m => ?_, fed.trans updated, session.trans idle, battery.symm ▸ sound, ?_⟩
  · rw [settles, settle, idle, aside]
    simp only [now, steered, applied, Session.isIdle, if_true, if_false, Bool.false_and,
      Bool.false_eq_true, bind, Except.bind, pure, Except.pure]
  · intro steers
    rw [aside] at steers
    cases steers

lemma exists_driven (d : Drivetrain) (now : Micros) (x : WheelOutputs) :
    ∃ k, { d with session := .idle }.drive now x = { d with session := .idle, chassis := k } :=
  ⟨_, rfl⟩

lemma exists_driven_scaled (d : Drivetrain) (now : Micros) (x : WheelOutputs) :
    ∃ k, { d with session := .idle }.driveScaled now x = { d with session := .idle, chassis := k } :=
  ⟨_, rfl⟩

/-- Most of these commands change nothing but the chassis. -/
lemma obeys_of_chassis {k : Chassis} {u : World}
    (settles : ∀ m : Mode, d.handle c { w with mode := m } =
      { d with session := .idle, chassis := k }.settle { u with mode := m })
    (now : u.now = w.now) (sound : ¬ Unsound d.battery) (fed : d.feed.after c = d.feed.update)
    (aside : c.steers = false) : Obeys c d w :=
  obeys_of_settle settles now rfl sound fed aside

lemma obeys_of_plain (plain : c.Plain) (news : ∀ mode, c ≠ .state mode) (idle : d.session = .idle)
    (sound : ¬ Unsound d.battery) (w : World) : Obeys c d w := by
  have still : { d with session := .idle } = d := by rw [← idle]
  cases c with
  | state mode => exact absurd rfl (news mode)
  | drive command =>
    cases command with
    | stop =>
      obtain ⟨k, driven⟩ := exists_driven d w.now .stop
      refine obeys_of_chassis (k := k) (u := w) (fun m => ?_) rfl sound rfl rfl
      rw [← driven]
      rfl
    | tank left right =>
      obtain ⟨k, driven⟩ := exists_driven d w.now ⟨left, right⟩
      refine obeys_of_chassis (k := k) (u := w) (fun m => ?_) rfl sound rfl rfl
      rw [← driven]
      rfl
    | autoMove left right =>
      obtain ⟨k, driven⟩ := exists_driven_scaled d w.now ⟨left, right⟩
      refine obeys_of_chassis (k := k) (u := w) (fun m => ?_) rfl sound rfl rfl
      rw [← driven]
      rfl
    | cheesy wheel throttle quickturn =>
      obtain ⟨e, steered, updated, session, battery, looked⟩ := exists_fed
        (d := { d with session := .idle, goal := goalOf wheel throttle quickturn }) w.now sound
      refine ⟨e, w, fun m => ?_, updated, session, battery.symm ▸ sound, fun _ => looked⟩
      simp only [handle, obey, steered, Command.steers, Bool.true_and, bind, Except.bind, pure,
        Except.pure]
    | measuredMove | proximityMove | timedMove | turn => cases plain
  | auto command =>
    cases command with
    | run =>
      exact obeys_of_chassis (k := (d.beginSession w).1.chassis) (u := (d.beginSession w).2)
        (fun _ => rfl) rfl sound rfl rfl
    | complete =>
      exact obeys_of_chassis (k := (d.completeSession w).1.chassis) (u := (d.completeSession w).2)
        (fun _ => rfl) rfl sound rfl rfl
    | responseOk | responseError =>
      refine obeys_of_chassis (k := d.chassis) (u := w) (fun m => ?_) rfl sound rfl rfl
      rw [still]
      rfl
  | system command =>
    cases command with
    | msgTimeout =>
      refine obeys_of_chassis (k := d.chassis) (u := w) (fun m => ?_) rfl sound rfl rfl
      rw [still, handle, iterateTimed, idle]
    | constants volts =>
      have fed : d.feed.after (.system (.constants volts)) = { d with battery := volts }.feed.update :=
        Feed.update_congr rfl rfl rfl
      exact obeys_of_settle (u := w) (fun _ => rfl) rfl idle plain fed rfl
  | gear | floor | climber | hopper =>
    refine obeys_of_chassis (k := d.chassis) (u := w) (fun m => ?_) rfl sound rfl rfl
    rw [still]
    rfl

@[simp] lemma feed_applied (d : Drivetrain) (now : Micros) (on : Bool) :
    (d.applied now on).feed = d.feed := by
  cases on <;> rfl

@[simp] lemma battery_applied (d : Drivetrain) (now : Micros) (on : Bool) :
    (d.applied now on).battery = d.battery := by
  cases on <;> rfl

@[simp] lemma session_applied (d : Drivetrain) (now : Micros) (on : Bool) :
    (d.applied now on).session = d.session := by
  cases on <;> rfl

/-- Handling a plain command is over at once, and the feed follows from it. -/
lemma followed_of_handle {stage : Stage Job Reply Drivetrain} (plain : c.Plain)
    (news : ∀ mode, c ≠ .state mode) (idle : d.session = .idle) (sound : ¬ Unsound d.battery)
    (done : d.handle c w = .ok stage) : stage.1 = .finished .ok ∧ stage.2.1.session = .idle ∧
      ¬ Unsound stage.2.1.battery ∧ d.feed.after c = some stage.2.1.feed := by
  obtain ⟨e, u, handled, fed, session, sound', -⟩ := obeys_of_plain plain news idle sound w
  cases (handled w.mode).symm.trans done
  simp only [replied, feed_applied, battery_applied, session_applied]
  exact ⟨trivial, session, sound', fed⟩

/-- A cycle that takes up a message leads to one drivetrain `e`, whatever the mode flag is, and its feed
follows from the feed before. As for `Obeys`, the flag decides about the voltages of a command that
steers. -/
def Heeds (x : Message) (r : Runner Drivetrain) (w : World) : Prop :=
  ∃ (p : Progress (Cycle Job) Unit) (e : Drivetrain) (u : World),
    (∀ m : Mode, Cycle.take x r { w with mode := m } = .ok (p,
      ⟨e.applied w.now (x.command.steers && m.isEnabled), r.loops + 1⟩, { u with mode := m })) ∧
    r.subsystem.feed.after x.command = some e.feed ∧
    (x.command.steers = true → r.subsystem.chassis.Looked e.chassis)

/-- The safety check looks at the chassis, and the flag does not matter to it. -/
lemma exists_inspected (r : Runner Drivetrain) (w : World) :
    ∃ (k : Chassis) (u : World), r.subsystem.chassis.Looked k ∧ u.now = w.now ∧
      ∀ m : Mode, Cycle.inspect r { w with mode := m } =
        (false, { r with subsystem := { r.subsystem with chassis := k } }, { u with mode := m }) := by
  by_cases due : Cycle.checkDue r.loops = true
  · obtain ⟨k, position, looked⟩ := exists_position r.subsystem w.now
    refine ⟨k, (r.subsystem.check w).2.2, looked, rfl, fun m => ?_⟩
    simp only [Cycle.inspect, due, if_true]
    rw [← position]
    rfl
  · refine ⟨r.subsystem.chassis, w, ⟨[], rfl⟩, rfl, fun m => ?_⟩
    simp only [Cycle.inspect, due, if_false, Bool.false_eq_true]

lemma feed_enter (mode : Mode) (d : Drivetrain) (w : World) : (d.enter mode w).feed = d.feed := by
  unfold enter
  split <;> rfl

/-- Reporting a message has nothing to do with the mode flag. -/
lemma announce_mode (x : Message) (w : World) (m : Mode) :
    Cycle.announce stamp x { w with mode := m } = { Cycle.announce stamp x w with mode := m } := by
  unfold Cycle.announce
  split <;> rfl

/-- What a cycle waits for at its end depends on the message and the reply. -/
lemma answer_eq (x : Message) (reply : Reply) (r r' : Runner Drivetrain) (w w' : World) :
    Cycle.answer x reply r w = ((Cycle.answer x reply r' w').1, r, w) := by
  unfold Cycle.answer
  split <;> rfl

lemma heeds_of_plain {x : Message} {r : Runner Drivetrain} (plain : x.command.Plain)
    (idle : r.subsystem.session = .idle) (sound : ¬ Unsound r.subsystem.battery) (w : World) :
    Heeds x r w := by
  cases news : x.isMode with
  | true =>
    obtain ⟨mode, command, -⟩ := Cycle.take_of_isMode (r := r) (w := w) news
    let u := w.notice (.modeHeard stamp mode)
    refine ⟨.finished (), r.subsystem.enter mode u, u, fun m => ?_, ?_, ?_⟩
    · rw [Cycle.take, command]
      rfl
    · rw [command, feed_enter]
      rfl
    · intro steers
      rw [command] at steers
      cases steers
  | false =>
    have command := Message.command_ne_state news
    obtain ⟨k, v, looked, now, inspected⟩ := exists_inspected { r with loops := r.loops + 1 } w
    have same : (Cycle.announce stamp x v).now = w.now := by
      unfold Cycle.announce
      split <;> exact now
    obtain ⟨e, u, handled, fed, -, -, quiet⟩ := obeys_of_plain
      (d := { r.subsystem with chassis := k }) plain command idle sound (Cycle.announce stamp x v)
    refine ⟨(Cycle.answer x .ok r w).1, e, u, fun m => ?_, fed, fun steers => looked.trans (quiet steers)⟩
    have worked := handled m
    rw [← announce_mode, same] at worked
    have treated : Cycle.treat x { r with loops := r.loops + 1 } { w with mode := m } =
        .ok (.finished (.handled .ok),
          ⟨e.applied w.now (x.command.steers && m.isEnabled), r.loops + 1⟩, { u with mode := m }) := by
      simp only [Cycle.treat, inspected, Bool.false_eq_true, if_false]
      exact bind_eq_ok.2 ⟨_, worked, rfl⟩
    rw [Cycle.take_of_isMode_eq_false news, treated]
    exact congrArg Except.ok (answer_eq x .ok _ r _ w)

/-- While the robot is not enabled, a command that steers writes no motor. -/
lemma Heeds.unwritten {x : Message} {r : Runner Drivetrain} {w : World} (heeds : Heeds x r w)
    (steers : x.command.steers = true) (off : w.mode.isEnabled = false) :
    ∃ p e u, Cycle.take x r w = .ok (p, e, u) ∧ r.subsystem.chassis.Looked e.subsystem.chassis ∧
      e.subsystem.chassis.output = r.subsystem.chassis.output := by
  obtain ⟨p, e, u, taken, -, quiet⟩ := heeds
  have looked := quiet steers
  have here := taken w.mode
  rw [off, Bool.and_false] at here
  exact ⟨p, _, _, here, looked, looked.output⟩

/-- While the robot is enabled, a command that steers gets the voltages of the filter written. -/
lemma Heeds.written {x : Message} {r : Runner Drivetrain} {w : World} (heeds : Heeds x r w)
    (steers : x.command.steers = true) (on : w.mode.isEnabled = true) :
    ∃ p e u, Cycle.take x r w = .ok (p, e, u) ∧
      r.subsystem.feed.after x.command = some e.subsystem.feed ∧
      e.subsystem.chassis.output =
        ⟨-e.subsystem.feed.voltages.left / 12, e.subsystem.feed.voltages.right / 12⟩ := by
  obtain ⟨p, e, u, taken, fed, -⟩ := heeds
  have here := taken w.mode
  rw [steers, on, Bool.and_self] at here
  refine ⟨p, _, _, here, ?_, ?_⟩
  · rw [feed_applied]
    exact fed
  · rw [feed_applied]
    exact e.output_applied w.now

/-! ### Runs -/

/-- What the surroundings may do to the drivetrain: whatever they like to its devices. -/
def Attached (d e : Drivetrain) : Prop :=
  ∃ u, e = Subsystem.attach d u

/-- As long as all messages taken are plain, the feed follows from the commands that were handled. -/
def followed : Ledger Drivetrain (Prop × Option Feed) where
  note g
    | .took x => (g.1 ∧ x.command.Plain, g.2)
    | .settled x _ => (g.1, g.2.bind (·.after x.command))
    | _ => g
  rest g d := g.1 → d.session = .idle ∧ ¬ Unsound d.battery ∧ g.2 = some d.feed
  busy g _ _ := ¬ g.1

lemma steady_followed : Subsystem.Steady followed Attached fun _ => False where
  posted := rfl
  quiet := by
    intro g
    simp [followed, Command.Plain, Message.timeout]
  enter := by
    intro g d x mode w news here
    refine ⟨_, _, rfl, fun plain => ?_⟩
    obtain ⟨-, sound, followed⟩ := here plain.1
    have battery : (d.enter mode w).battery = d.battery := by
      unfold enter
      split <;> rfl
    refine ⟨?_, battery.symm ▸ sound, ?_⟩
    · unfold enter
      split <;> rfl
    · rw [feed_enter]
      exact followed
  check := by
    intro g d w here plain
    obtain ⟨k, position, -⟩ := exists_position d w.now
    have checked : (Subsystem.check d w).2.1 = { d with chassis := k } := position
    rw [checked]
    exact here plain
  refuse x h tripped := nomatch tripped
  handle := by
    rintro g d x w stage news here done
    have command := Message.command_ne_state news
    obtain ⟨progress, e, u⟩ := stage
    by_cases plain : g.1 ∧ x.command.Plain
    · obtain ⟨idle, sound, followed⟩ := here plain.1
      obtain ⟨rfl, session, sound', fed⟩ := followed_of_handle plain.2 command idle sound done
      refine fun _ => ⟨session, sound', ?_⟩
      change g.2.bind (·.after x.command) = some e.feed
      rw [followed, Option.bind_some, fed]
    · cases progress with
      | waiting wait job => exact plain
      | finished reply => exact fun h => absurd h plain
  resume := by
    rintro g d x job wake w ⟨progress, e, u⟩ odd done
    cases progress with
    | waiting wait job => exact odd
    | finished reply => exact fun h => absurd h odd
  sweep h := h.elim
  sense := by
    rintro g d - here ⟨e, rfl⟩
    exact here
  feel := by
    rintro g d - job odd ⟨e, rfl⟩
    exact odd

/-- The commands that were handled, in order; those of the quiet cycles are among them. -/
def handledCommands (t : List Deed) : List Command :=
  (Deed.verdicts t).map fun x => x.1.command

lemma foldl_followed (t : List Deed) (g : Prop × Option Feed) : t.foldl followed.note g =
    (g.1 ∧ ∀ x ∈ Deed.taken t, x.command.Plain,
      g.2.bind fun f => (handledCommands t).foldlM Feed.after f) := by
  induction t generalizing g with
  | nil => simp [handledCommands, Deed.taken, Deed.verdicts, pure]
  | cons a t ih =>
    rw [List.foldl_cons, ih]
    cases a with
    | took x => simp [followed, handledCommands, Deed.taken, Deed.verdicts, and_assoc]
    | settled x v =>
      simp [followed, handledCommands, Deed.taken, Deed.verdicts, Option.bind_assoc, bind]
    | swept | posted => rfl

variable {r r' : Runner Drivetrain} {w' : World} {t t' : List Deed}
  {first first' b b' : Stage (Cycle Job) Empty (Runner Drivetrain)}

/-- The commands that a drivetrain has handled determine its feed. -/
lemma feed_of_run (idle : r.subsystem.session = .idle) (sound : ¬ Unsound r.subsystem.battery)
    (begun : Cycle.start r w = .ok first)
    (run : (Cycle.routine Drivetrain).Run (Cycle.Sensed Attached) first t b)
    (plain : ∀ x ∈ Deed.taken t, x.command.Plain) :
    b.2.1.subsystem.session = .idle ∧ ¬ Unsound b.2.1.subsystem.battery ∧
      (handledCommands t).foldlM Feed.after r.subsystem.feed = some b.2.1.subsystem.feed := by
  have fresh : followed.rest (True, some r.subsystem.feed) r.subsystem := fun _ => ⟨idle, sound, rfl⟩
  obtain ⟨wait, c, -, holds⟩ : Cycle.Kept followed _ b :=
    Cycle.kept_of_begun Drivetrain.modest steady_followed begun run fresh
  rw [foldl_followed] at holds
  cases c with
  | listening | replying => exact holds ⟨trivial, plain⟩
  | handling => exact absurd ⟨trivial, plain⟩ holds
  | entering => exact holds.elim

/-- Two drivetrains that begin with the same feed and handle the same commands have the same feed, however
their chassis behave and whatever the mode flags are: the previous steering, both accumulators and the
voltages. The next plain message is heeded by both. With that the flag decides whether the voltages of a
command that steers go to the motors. If it is no enabled mode nothing is written; if it is one, each motor
gets its voltage as a share of twelve volts. -/
theorem feed_of_same_commands (idle : r.subsystem.session = .idle) (idle' : r'.subsystem.session = .idle)
    (sound : ¬ Unsound r.subsystem.battery) (same : r'.subsystem.feed = r.subsystem.feed)
    (begun : Cycle.start r w = .ok first) (begun' : Cycle.start r' w' = .ok first')
    (run : (Cycle.routine Drivetrain).Run (Cycle.Sensed Attached) first t b)
    (run' : (Cycle.routine Drivetrain).Run (Cycle.Sensed Attached) first' t' b')
    (plain : ∀ x ∈ Deed.taken t, x.command.Plain) (plain' : ∀ x ∈ Deed.taken t', x.command.Plain)
    (commands : handledCommands t' = handledCommands t) :
    b'.2.1.subsystem.feed = b.2.1.subsystem.feed ∧
    (∀ x u, x.command.Plain → Heeds x b.2.1 u ∧ Heeds x b'.2.1 u) ∧
    (∀ x u, x.command.steers = true → u.mode = .disabled ∨ u.mode = .unknown →
      ∃ p e v, Cycle.take x b.2.1 u = .ok (p, e, v) ∧
        b.2.1.subsystem.chassis.Looked e.subsystem.chassis ∧
        e.subsystem.chassis.output = b.2.1.subsystem.chassis.output) ∧
    ∀ x u, x.command.steers = true →
      u.mode = .autonomous ∨ u.mode = .teleoperated ∨ u.mode = .test →
      ∃ p e v, Cycle.take x b.2.1 u = .ok (p, e, v) ∧
        b.2.1.subsystem.feed.after x.command = some e.subsystem.feed ∧
        e.subsystem.chassis.output =
          ⟨-e.subsystem.feed.voltages.left / 12, e.subsystem.feed.voltages.right / 12⟩ := by
  have sound' : ¬ Unsound r'.subsystem.battery := by
    have battery : r'.subsystem.battery = r.subsystem.battery := congrArg Feed.battery same
    exact battery.symm ▸ sound
  obtain ⟨still, fit, fed⟩ := feed_of_run idle sound begun run plain
  obtain ⟨still', fit', fed'⟩ := feed_of_run idle' sound' begun' run' plain'
  rw [commands, same, fed] at fed'
  refine ⟨(Option.some.inj fed').symm, fun x u ordinary => ⟨?_, ?_⟩, fun x u steers off => ?_,
    fun x u steers on => ?_⟩
  · exact heeds_of_plain ordinary still fit u
  · exact heeds_of_plain ordinary still' fit' u
  · have ignored : u.mode.isEnabled = false := by
      rcases off with off | off <;> rw [off] <;> rfl
    exact (heeds_of_plain (Command.plain_of_steers steers) still fit u).unwritten steers ignored
  · exact (heeds_of_plain (Command.plain_of_steers steers) still fit u).written steers
      (Mode.isEnabled_iff.2 on)

/-- The driver asks for half throttle straight ahead, and then nothing happens for a cycle. -/
def ahead : List (Routine.Move (Runner Drivetrain)) :=
  [Part.deliver .drivetrain { command := .drive (.cheesy 0 0.5 false) }, .look, .look,
    Part.second .drivetrain, .look]

/-- Whether these are the deeds that belong to `ahead`. -/
def isAhead (t : List Deed) : Bool :=
  (Deed.taken t).all (fun x => x.command.steers) && match handledCommands t with
    | [.drive (.cheesy wheel throttle false), .system .msgTimeout] => wheel = 0 && throttle = 0.5
    | _ => false

lemma exists_ahead {r : Runner Drivetrain} {w : World}
    (played : ((Cycle.start r w).toOption.any fun first =>
      ((Cycle.routine Drivetrain).play ahead first).any fun x => isAhead x.1) = true) :
    ∃ first t b, Cycle.start r w = .ok first ∧
      (Cycle.routine Drivetrain).Run (Cycle.Sensed Attached) first t b ∧
      (∀ x ∈ Deed.taken t, x.command.Plain) ∧
      handledCommands t = [.drive (.cheesy 0 0.5 false), .system .msgTimeout] := by
  obtain ⟨first, t, b, begun, run, passed⟩ :=
    Routine.exists_run_of_begun (Cycle.Sensed Attached) played fun change h x => by
      simp only [ahead, Part.deliver, Part.second, List.mem_cons, reduceCtorEq,
        Routine.Move.around.injEq, List.not_mem_nil, or_false, false_or] at h
      rcases h with rfl | rfl <;> exact ⟨_, (Subsystem.attach_self _).symm⟩
  obtain ⟨steer, cycles⟩ := Bool.and_eq_true_iff.1 passed
  refine ⟨first, t, b, begun, run, fun x taken => ?_, ?_⟩
  · exact Command.plain_of_steers (List.all_eq_true.1 steer x taken)
  · split at cycles
    · next wheel throttle handled =>
      simp only [Bool.and_eq_true, decide_eq_true_eq] at cycles
      rw [handled, cycles.1, cycles.2]
    · cases cycles

/-- One robot is enabled, the other one is disabled and has encoders that are stuck. After half throttle
and a quiet cycle their filters agree. The next command for half throttle is written to the motors of the first
one if that is still enabled, and not if it has been disabled. -/
theorem flag_leaves_feed_alone : ∃ first t b first' t' b',
    Cycle.start (⟨{}, 0⟩ : Runner Drivetrain) { mode := .teleoperated } = .ok first ∧
    Cycle.start (⟨{ encoders := .stuck 7 }, 0⟩ : Runner Drivetrain) { mode := .disabled } = .ok first' ∧
    (Cycle.routine Drivetrain).Run (Cycle.Sensed Attached) first t b ∧
    (Cycle.routine Drivetrain).Run (Cycle.Sensed Attached) first' t' b' ∧
    handledCommands t = [.drive (.cheesy 0 0.5 false), .system .msgTimeout] ∧
    b'.2.1.subsystem.feed = b.2.1.subsystem.feed ∧
    (∃ p e v, Cycle.take { command := .drive (.cheesy 0 0.5 false) } b.2.1 { mode := .disabled } =
        .ok (p, e, v) ∧ e.subsystem.chassis.output = b.2.1.subsystem.chassis.output) ∧
    ∃ p e v, Cycle.take { command := .drive (.cheesy 0 0.5 false) } b.2.1 { mode := .teleoperated } =
        .ok (p, e, v) ∧ e.subsystem.chassis.output =
          ⟨-e.subsystem.feed.voltages.left / 12, e.subsystem.feed.voltages.right / 12⟩ := by
  have sound : ¬ Unsound Settings.nominalBattery := by
    rw [unsound_iff]
    decide +kernel
  obtain ⟨first, t, b, begun, run, plain, handled⟩ := exists_ahead (r := ⟨{}, 0⟩)
    (w := { mode := .teleoperated }) (by decide +kernel)
  obtain ⟨first', t', b', begun', run', plain', handled'⟩ := exists_ahead
    (r := ⟨{ encoders := .stuck 7 }, 0⟩) (w := { mode := .disabled }) (by decide +kernel)
  have same : ({ encoders := .stuck 7 } : Drivetrain).feed = ({} : Drivetrain).feed := rfl
  obtain ⟨agree, -, off, on⟩ := feed_of_same_commands (r := ⟨{}, 0⟩) rfl rfl sound same begun begun' run
    run' plain plain' (handled'.trans handled.symm)
  obtain ⟨p, e, v, ignored, -, kept⟩ :=
    off { command := .drive (.cheesy 0 0.5 false) } { mode := .disabled } rfl (.inl rfl)
  obtain ⟨p', e', v', obeyed, -, written⟩ :=
    on { command := .drive (.cheesy 0 0.5 false) } { mode := .teleoperated } rfl (.inr (.inl rfl))
  exact ⟨first, t, b, first', t', b', begun, begun', run, run', handled, agree, ⟨p, e, v, ignored, kept⟩,
    p', e', v', obeyed, written⟩

end Drivetrain

end MatchRobot
