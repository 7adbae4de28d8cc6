import MatchRobot.Proofs.Subsystem.Calm

/-!
# Disabled subsystems

What the motors of a part do from the moment when it hears of a mode in which it may not run, until
something rouses it again. The drivetrain, the climber and the hopper stop then and stay stopped. Two
parts do not: the gear intake stops, but a closed gripper is held with its tension again as soon as a
cycle handles any message, a quiet one included; and the floor intake does not stop its roller at all.

`Part.at_rest_iff` tells exactly when the motors of a part stand still, and `Part.motors_run_disabled`
shows both that do not. The arm is left out, because it holds a position.
-/

namespace MatchRobot

namespace Part

/-- The outputs of a part that are meant to be zero when it is at rest. -/
def outputs : (p : Part) → p.State → List Float32
  | drivetrain, d => [d.chassis.output.left, d.chassis.output.right]
  | autonomous, _ => []
  | climber, c => [c.first.value, c.second.value]
  | hopper, h => [h.motor.value]
  | gearIntake, g => [g.motor.value]
  | gearFloor, f => [f.roller.value]

/-- All motors of a part read zero. -/
def AtRest (p : Part) (s : p.State) : Prop :=
  ∀ x ∈ p.outputs s, (x == 0) = true

instance (p : Part) (s : p.State) : Decidable (p.AtRest s) :=
  inferInstanceAs (Decidable (∀ x ∈ p.outputs s, (x == 0) = true))

/-- Whether a command belongs to the family of a part. -/
def owns : Part → Command → Bool
  | drivetrain, .drive _ | autonomous, .auto _ | climber, .climber _ | hopper, .hopper _
  | gearIntake, .gear _ | gearFloor, .floor _ => true
  | _, _ => false

/-- Whether a command may set a part going: the news of a mode in which motors may run, and the
commands of its family. -/
def rouses (p : Part) : Command → Bool
  | .state m => m.isEnabled
  | c => p.owns c

lemma owns_of_rouses {p : Part} {c : Command} (h : p.rouses c = false) : p.owns c = false := by
  cases c with
  | state m => cases p <;> rfl
  | _ => exact h

/-- What the surroundings may do to the state of a part: whatever they like to its devices, except that
nobody else writes its outputs. -/
def Senses (p : Part) (s t : p.State) : Prop :=
  (∃ u, t = Subsystem.attach s u) ∧ p.outputs t = p.outputs s

end Part

/-! ### The drivetrain -/

namespace Drivetrain

/-- The drivetrain stands still and is at no session. -/
structure Still (d : Drivetrain) : Prop where
  idle : d.session = .idle
  left : (d.chassis.output.left == 0) = true
  right : (d.chassis.output.right == 0) = true

/-- What neither writes a motor nor touches the session. -/
structure Watches (d e : Drivetrain) : Prop where
  session : e.session = d.session
  output : e.chassis.output = d.chassis.output

variable {d e f : Drivetrain} {now : Micros}

lemma Watches.trans (h : Watches d e) (k : Watches e f) : Watches d f :=
  ⟨k.session.trans h.session, k.output.trans h.output⟩

lemma Watches.still (h : Watches d e) (k : d.Still) : e.Still :=
  ⟨h.session.trans k.idle, by rw [h.output]; exact k.left, by rw [h.output]; exact k.right⟩

lemma watches_readEncoder (d : Drivetrain) (now : Micros) (side : Side) :
    Watches d (d.readEncoder now side).2 := by
  unfold readEncoder Chassis.readEncoder
  cases d.encoders with
  | working => cases side <;> exact ⟨rfl, Chassis.output_touch _ _⟩
  | stuck n => cases side <;> exact ⟨rfl, rfl⟩

lemma watches_position (d : Drivetrain) (now : Micros) : Watches d (d.position now).2 := by
  refine (watches_readEncoder d now .left).trans ((watches_readEncoder _ now .right).trans ⟨rfl, ?_⟩)
  exact (Chassis.output_touch _ _).trans (Chassis.output_touch _ _)

/-- Feeding the steering filter at the end of a cycle writes no motor. -/
lemma still_settle {w : World} {stage : Stage Job Reply Drivetrain} (h : d.Still)
    (done : d.settle w = .ok stage) : ∃ e, stage = (.finished .ok, e, w) ∧ e.Still := by
  unfold settle at done
  rw [h.idle] at done
  obtain ⟨e, steered, done⟩ := bind_eq_ok.1 done
  obtain ⟨⟨o, steering⟩, -, steered⟩ := bind_eq_ok.1 steered
  cases steered
  cases done
  have watched := watches_position d w.now
  exact ⟨_, rfl, watched.session.trans h.idle, watched.output ▸ h.left, watched.output ▸ h.right⟩

lemma output_drive (d : Drivetrain) (now : Micros) (x : WheelOutputs) :
    (d.drive now x).chassis.output = x := by
  simp [drive, Chassis.setOutput, Sides.set]

/-- Zero on both motors is rest. -/
lemma still_of_stop (idle : d.session = .idle) (h : d.chassis.output = WheelOutputs.stop) :
    d.Still := by
  have zero : ((0 : Float32) == 0) = true := by decide
  exact ⟨idle, by rw [h]; exact zero, by rw [h]; exact zero⟩

lemma still_drive (now : Micros) (idle : d.session = .idle) : (d.drive now .stop).Still :=
  still_of_stop idle (output_drive d now .stop)

/-- A drivetrain without a session, and without a command of its own, stays where it is. -/
lemma still_handle {c : Command} {w : World} {stage : Stage Job Reply Drivetrain}
    (calm : Part.drivetrain.owns c = false) (h : d.Still) (done : d.handle c w = .ok stage) :
    ∃ reply e u, stage = (.finished reply, e, u) ∧ e.Still := by
  unfold handle at done
  split at done
  · cases calm
  · have begun : (d.beginSession w).1.Still := by
      refine still_of_stop rfl ?_
      simp only [beginSession, zeroGyro, Chassis.zeroGyro, Chassis.output_touch, output_drive]
    obtain ⟨e, rfl, still⟩ := still_settle begun done
    exact ⟨_, _, _, rfl, still⟩
  · have ended : (d.completeSession w).1.Still := still_drive w.now rfl
    obtain ⟨e, rfl, still⟩ := still_settle ended done
    exact ⟨_, _, _, rfl, still⟩
  · next battery =>
    have told : { d with battery := battery }.Still := ⟨h.idle, h.left, h.right⟩
    obtain ⟨e, rfl, still⟩ := still_settle told done
    exact ⟨_, _, _, rfl, still⟩
  · have same : d.iterateTimed w = (d, w) := by simp [iterateTimed, h.idle]
    rw [same] at done
    obtain ⟨e, rfl, still⟩ := still_settle h done
    exact ⟨_, _, _, rfl, still⟩
  · obtain ⟨e, rfl, still⟩ := still_settle h done
    exact ⟨_, _, _, rfl, still⟩

/-- Out of autonomous, the news of a mode stops the drivetrain. -/
lemma still_enter {mode : Mode} (d : Drivetrain) (w : World) (disabled : mode.isEnabled = false) :
    (d.enter mode w).Still := by
  have out : mode.inAuto = false := by
    cases mode <;> first | rfl | cases disabled
  unfold enter
  simp only [out]
  exact still_drive w.now rfl

lemma restful : Subsystem.Restful Drivetrain Part.drivetrain.rouses Part.drivetrain.Senses
    fun _ => Still where
  quiet := rfl
  enter w asleep _ := ⟨_, _, rfl, still_enter _ w asleep⟩
  check w h := (watches_position _ w.now).still h
  handle calm h done := still_handle (Part.owns_of_rouses calm) h done
  sense := by
    rintro - d - h ⟨⟨e, rfl⟩, same⟩
    have left : e.chassis.output.left = d.chassis.output.left := (List.cons.inj same).1
    have right : e.chassis.output.right = d.chassis.output.right :=
      (List.cons.inj (List.cons.inj same).2).1
    exact ⟨h.idle, (congrArg (· == 0) left).trans h.left, (congrArg (· == 0) right).trans h.right⟩

end Drivetrain

/-! ### The climber and the hopper -/

namespace Climber

/-- Both motors of the climber read zero. -/
def Still (c : Climber) : Prop :=
  (c.first.value == 0) = true ∧ (c.second.value == 0) = true

/-- Climbing at no speed is rest, on the motor that runs the other way too. -/
lemma still_climb (c : Climber) : (c.climb 0).Still := by
  have zero : ((0 : Float32) == 0) = true ∧ ((-0 : Float32) == 0) = true := by decide
  exact zero

lemma still_check {c : Climber} (h : c.Still) (w : World) : (c.check w).2.1.Still := by
  unfold check
  simp only
  split
  · exact still_climb c
  · exact h

lemma still_handle {c : Command} {k : Climber} {w : World} {stage : Stage Pulse Reply Climber}
    (calm : Part.climber.owns c = false) (h : k.Still) (done : handle c k w = .ok stage) :
    ∃ reply l u, stage = (.finished reply, l, u) ∧ l.Still := by
  unfold handle at done
  split at done
  · cases calm
  · cases calm
  · cases calm
  · cases calm
  · cases done
    exact ⟨_, _, _, rfl, h⟩

lemma restful : Subsystem.Restful Climber Part.climber.rouses Part.climber.Senses
    fun _ => Still where
  quiet := rfl
  enter _ _ _ := ⟨_, _, rfl, still_climb _⟩
  check w h := still_check h w
  handle calm h done := still_handle (Part.owns_of_rouses calm) h done
  sense := by
    rintro - c - h ⟨⟨d, rfl⟩, same⟩
    have first : d.first.value = c.first.value := (List.cons.inj same).1
    have second : d.second.value = c.second.value := (List.cons.inj (List.cons.inj same).2).1
    exact ⟨(congrArg (· == 0) first).trans h.1, (congrArg (· == 0) second).trans h.2⟩

end Climber

namespace Hopper

/-- The motor of the hopper reads zero. -/
def Still (h : Hopper) : Prop :=
  (h.motor.value == 0) = true

lemma still_run (h : Hopper) : (h.run 0).Still := by
  have zero : ((0 : Float32) == 0) = true := by decide
  exact zero

lemma still_check {h : Hopper} (k : h.Still) (w : World) : (h.check w).2.1.Still := by
  unfold check
  simp only
  split
  · exact still_run h
  · exact k

lemma handle_of_calm {c : Command} (h : Hopper) (calm : Part.hopper.owns c = false) :
    h.handle c = h := by
  unfold handle
  split
  · cases calm
  · rfl

lemma restful : Subsystem.Restful Hopper Part.hopper.rouses Part.hopper.Senses
    fun _ => Still where
  quiet := rfl
  enter _ _ _ := ⟨_, _, rfl, still_run _⟩
  check w h := still_check h w
  handle := by
    intro c _ h w stage calm k done
    cases done
    exact ⟨_, _, _, rfl, by rw [handle_of_calm h (Part.owns_of_rouses calm)]; exact k⟩
  sense := by
    rintro - h g k ⟨-, same⟩
    have value : g.motor.value = h.motor.value := (List.cons.inj same).1
    exact (congrArg (· == 0) value).trans k

end Hopper

/-! ### The gear intake -/

namespace GearIntake

/-- The gear intake after a stop that found it in the state `g`: the grip stays as the stop left it,
and the motor reads zero, or what belongs to the grip once a cycle has handled a message. -/
structure Still (g : GearIntake) (driving : Bool) (h : GearIntake) : Prop where
  grip : h.grip = g.grip.stop
  config : h.config = g.config
  value : h.motor.value = if driving then h.output else 0

lemma still_stop {g h : GearIntake} {driving : Bool} (k : Still g driving h) :
    Still g false h.stop where
  grip := by
    change h.grip.stop = g.grip.stop
    rw [k.grip, Grip.stop_stop]
  config := k.config
  value := rfl

lemma still_check {g h : GearIntake} {driving : Bool} (k : Still g driving h) (w : World) :
    Still g (driving && !(h.check w).1) (h.check w).2.1 := by
  unfold check
  simp only
  split
  · simpa using still_stop k
  · simpa using k

lemma enter_of_disabled {mode : Mode} (g : GearIntake) (disabled : mode.isEnabled = false) :
    g.enter mode = g.stop :=
  if_neg (by simp [disabled])

/-- A grip that a stop has left alone is settled. -/
lemma settle_stop (g : Grip) (now span : Micros) : g.stop.settle now span = .ok g.stop := by
  cases g <;> rfl

/-- Any message that is no command of its own makes the gear intake write its output anew. -/
lemma still_handle {c : Command} {g h : GearIntake} {driving : Bool} {w : World}
    {x : GearIntake × World} (calm : Part.gearIntake.owns c = false) (k : Still g driving h)
    (done : h.handle c w = .ok x) : Still g true x.1 := by
  unfold handle at done
  split at done
  · cases calm
  · cases calm
  · cases calm
  · rw [k.grip, settle_stop] at done
    cases done
    exact ⟨rfl, k.config, rfl⟩

lemma restful (g : GearIntake) : Subsystem.Restful GearIntake Part.gearIntake.rouses
    Part.gearIntake.Senses (Still g) where
  quiet := rfl
  enter := by
    intro mode _ h w asleep k
    exact ⟨_, _, rfl, by rw [enter_of_disabled h asleep]; exact still_stop k⟩
  check w k := still_check k w
  handle calm k done := by
    obtain ⟨⟨h, u⟩, handled, done⟩ := bind_eq_ok.1 done
    cases done
    exact ⟨_, _, _, rfl, still_handle (Part.owns_of_rouses calm) k handled⟩
  sense := by
    rintro driving h - k ⟨⟨i, rfl⟩, same⟩
    have value : i.motor.value = h.motor.value := (List.cons.inj same).1
    exact ⟨k.grip, k.config, value.trans k.value⟩

end GearIntake

/-! ### The floor intake -/

namespace FloorIntake

/-- The roller of the floor intake runs as it did in the state `f`. -/
def Still (f g : FloorIntake) : Prop :=
  g.roller.value = f.roller.value

variable {f g : FloorIntake} {w : World}

lemma roller_swing (f : FloorIntake) (s : ArmSetpoints) (target : ArmPosition) (w : World) :
    (f.swing s target w).1.roller = f.roller := by
  unfold swing
  split <;> rfl

lemma roller_zero (f : FloorIntake) (w : World) : (f.zero w).2.1.roller = f.roller :=
  roller_swing _ _ _ _

lemma roller_moveArm (f : FloorIntake) (target : ArmPosition) (w : World) :
    (f.moveArm target w).1.roller = f.roller := by
  unfold moveArm
  split
  · exact roller_swing _ _ _ _
  · exact (roller_swing _ _ _ _).trans (roller_zero f w)

lemma roller_enter (m : Mode) (f : FloorIntake) (w : World) :
    (f.enter m w).1.roller = f.roller := by
  unfold enter
  split
  · exact roller_zero f w
  · rfl

lemma roller_check (f : FloorIntake) (w : World) : (f.check w).2.1.roller = f.roller := by
  have guarded : (f.guardArm w).2.1.roller = f.roller := by
    unfold guardArm
    simp only
    split <;> rfl
  unfold check liftGear
  simp only
  split
  · exact (roller_moveArm _ _ _).trans guarded
  · exact guarded

/-- Commands of other families change nothing. -/
lemma handle_of_calm {c : Command} (calm : Part.gearFloor.owns c = false) (f : FloorIntake)
    (w : World) : f.handle c w = .ok (replied .ok f w) := by
  unfold handle
  split
  · cases calm
  · rfl

lemma restful (f : FloorIntake) : Subsystem.Restful FloorIntake Part.gearFloor.rouses
    Part.gearFloor.Senses fun _ => Still f where
  quiet := rfl
  enter w _ k := ⟨_, _, rfl, (congrArg Motor.value (roller_enter _ _ w)).trans k⟩
  check w k := (congrArg Motor.value (roller_check _ w)).trans k
  handle := by
    intro c _ g w stage calm k done
    rw [show Subsystem.handle c g w = _ from handle_of_calm (Part.owns_of_rouses calm) g w] at done
    cases done
    exact ⟨_, _, _, rfl, k⟩
  sense := by
    rintro - g - k ⟨⟨h, rfl⟩, same⟩
    have value : h.roller.value = g.roller.value := (List.cons.inj same).1
    exact value.trans k

end FloorIntake

/-! ### The autonomous task -/

namespace Autonomous

lemma enter_of_disabled {mode : Mode} (a : Autonomous) (w : World)
    (disabled : mode.isEnabled = false) : a.enter mode w = .ok (.finished (), a, w) := by
  cases mode <;> first | rfl | cases disabled

lemma handle_of_calm {c : Command} (calm : Part.autonomous.owns c = false) (a : Autonomous)
    (w : World) : a.handle c w = .ok (replied .ok a w) := by
  unfold handle
  split
  · cases calm
  · rfl

/-- A task without motors has nothing that could last. -/
lemma restful : Subsystem.Restful Autonomous Part.autonomous.rouses Part.autonomous.Senses
    fun _ _ => True where
  quiet := rfl
  enter w asleep _ := ⟨_, _, enter_of_disabled _ w asleep, trivial⟩
  check _ _ := trivial
  handle calm _ done := by
    cases (handle_of_calm (Part.owns_of_rouses calm) _ _).symm.trans done
    exact ⟨_, _, _, rfl, trivial⟩
  sense _ _ := trivial

end Autonomous

/-! ### Every part -/

namespace Part

/-- What lasts of the state of a part that was disabled in the state `s`. -/
def Still : (p : Part) → p.State → Bool → p.State → Prop
  | drivetrain, _, _, d => d.Still
  | autonomous, _, _, _ => True
  | climber, _, _, c => c.Still
  | hopper, _, _, h => h.Still
  | gearIntake, g, driving, h => g.Still driving h
  | gearFloor, f, _, g => f.Still g

lemma restful (p : Part) (s : p.State) :
    Subsystem.Restful p.State p.rouses p.Senses (p.Still s) := by
  cases p with
  | drivetrain => exact Drivetrain.restful
  | climber => exact Climber.restful
  | hopper => exact Hopper.restful
  | gearIntake => exact GearIntake.restful s
  | gearFloor => exact FloorIntake.restful s
  | autonomous => exact Autonomous.restful

/-- Hearing of a mode in which it may not run, a part stops at once, each in its own way. -/
lemma still_of_enter (p : Part) (s : p.State) {mode : Mode} (disabled : mode.isEnabled = false)
    (w : World) : ∃ t u, Subsystem.enter mode s w = .ok (.finished (), t, u) ∧ p.Still s false t := by
  cases p with
  | drivetrain => exact ⟨_, _, rfl, Drivetrain.still_enter s w disabled⟩
  | climber => exact ⟨_, _, rfl, s.still_climb⟩
  | hopper => exact ⟨_, _, rfl, s.still_run⟩
  | gearIntake =>
    refine ⟨_, _, rfl, ?_⟩
    rw [GearIntake.enter_of_disabled s disabled]
    exact ⟨rfl, rfl, rfl⟩
  | gearFloor => exact ⟨_, _, rfl, congrArg Motor.value (FloorIntake.roller_enter _ _ w)⟩
  | autonomous => exact ⟨_, _, Autonomous.enter_of_disabled s w disabled, trivial⟩

/-- When the motors of a part stand still that was disabled in the state `s`. The gear intake drives a
closed gripper once a cycle has handled a message since it was stopped last, and the floor intake leaves
its roller alone. -/
def RestsAfter : (p : Part) → p.State → Bool → Prop
  | gearIntake, g, driving =>
    driving = false ∨ g.grip.stop = .opened ∨ (-g.config.holdTension == 0) = true
  | gearFloor, f, _ => (f.roller.value == 0) = true
  | drivetrain, _, _ | autonomous, _, _ | climber, _, _ | hopper, _, _ => True

lemma atRest_iff_of_still {p : Part} {s t : p.State} {driving : Bool} (h : p.Still s driving t) :
    p.AtRest t ↔ p.RestsAfter s driving := by
  have zero : ((0 : Float32) == 0) = true := by decide
  cases p with
  | drivetrain => exact ⟨fun _ => trivial, fun _ => by simp [AtRest, outputs, h.left, h.right]⟩
  | autonomous => exact ⟨fun _ => trivial, fun _ => by simp [AtRest, outputs]⟩
  | climber => exact ⟨fun _ => trivial, fun _ => by simp [AtRest, outputs, h.1, h.2]⟩
  | hopper =>
    have value : (t.motor.value == 0) = true := h
    exact ⟨fun _ => trivial, fun _ => by simp [AtRest, outputs, value]⟩
  | gearIntake =>
    have grip : t.grip = s.grip.stop := h.grip
    have value : t.motor.value = if driving then t.output else 0 := h.value
    have config : t.config = s.config := h.config
    simp only [AtRest, outputs, List.mem_singleton, forall_eq, RestsAfter]
    rw [value]
    cases driving with
    | false => simp [zero]
    | true =>
      cases side : s.grip.stop with
      | opened => simp [GearIntake.output, grip, side, zero]
      | closed => simp [GearIntake.output, grip, side, config]
      | opening since => cases hs : s.grip <;> rw [hs] at side <;> cases side
      | closing since => cases hs : s.grip <;> rw [hs] at side <;> cases side
  | gearFloor =>
    have value : t.roller.value = s.roller.value := h
    simp only [AtRest, outputs, List.mem_singleton, forall_eq, RestsAfter]
    rw [value]

/-- Whether these are the deeds of a cycle that hears of a mode in which motors may not run. -/
def disables (l : List Deed) : Bool :=
  match (Deed.taken l).map Message.command with
  | [.state mode] => !mode.isEnabled
  | _ => false

lemma news_of_disables {l : List Deed} (h : disables l = true) :
    ∃ m mode, Deed.taken l = [m] ∧ m.command = .state mode ∧ mode.isEnabled = false := by
  unfold disables at h
  split at h
  · next mode one =>
    obtain ⟨m, hm, news⟩ := List.map_eq_singleton_iff.1 one
    exact ⟨m, mode, hm, news, by simpa using h⟩
  · cases h

/-- From the end of the cycle that disables a part, and for as long as nothing rouses it, its motors
stand still exactly as `RestsAfter` says. -/
theorem at_rest_iff (p : Part) {r : Runner p.State} {w : World}
    {outside : Runner p.State × World → Runner p.State × World → Prop}
    {first a b c : Stage (Cycle p.Job) Empty (Runner p.State)} {t l u : List Deed}
    (begun : Cycle.start r w = .ok first) (before : (Cycle.routine p.State).Run outside first t a)
    (heard : (Cycle.routine p.State).Step a l b) (disabled : disables l = true)
    (after : (Cycle.routine p.State).Run (Cycle.Sensed p.Senses) b u c)
    (calm : ∀ m ∈ Deed.taken u, p.rouses m.command = false) :
    p.AtRest c.2.1.subsystem ↔
      p.RestsAfter a.2.1.subsystem (u.foldl Deed.driving false) := by
  obtain ⟨progress, r', w'⟩ := first
  obtain ⟨rfl, rfl, limit, rfl⟩ := Cycle.start_eq_ok begun
  obtain ⟨m, mode, taken, news, off⟩ := news_of_disables disabled
  have fit := Cycle.fits_of_run p.modest before fun wait c h => by cases h; exact .listening
  have fit' := Cycle.fits_of_run p.modest (before.look heard) fun wait c h => by
    cases h; exact .listening
  obtain ⟨resting, stopped⟩ :=
    Cycle.still_of_heard p.modest heard fit taken news (p.still_of_enter a.2.1.subsystem off)
  have lasting := Cycle.still_of_run p.modest (p.restful a.2.1.subsystem) after fit' resting calm stopped
  exact atRest_iff_of_still lasting.2

/-! ### Parts that are disabled in the middle of something -/

lemma Senses.refl (p : Part) (s : p.State) : p.Senses s s :=
  ⟨⟨s, (Subsystem.attach_self s).symm⟩, rfl⟩

/-- Plays a part up to the cycle that disables it, and on from there while nothing rouses it. -/
def playsDisabled (p : Part) (r : Runner p.State) (before after : List (Routine.Move (Runner p.State)))
    (good : Stage (Cycle p.Job) Empty (Runner p.State) → Bool) : Bool :=
  (Cycle.start r {}).toOption.any fun first =>
    ((Cycle.routine p.State).play before first).any fun x =>
      ((Cycle.routine p.State).look? x.2).any fun y => disables y.1 &&
        ((Cycle.routine p.State).play after y.2).any fun z =>
          (Deed.taken z.1).all (fun m => !p.rouses m.command) && good z.2

/-- A disabled part whose run passes a check. -/
lemma exists_of_playsDisabled {p : Part} {r : Runner p.State}
    {before after : List (Routine.Move (Runner p.State))}
    {good : Stage (Cycle p.Job) Empty (Runner p.State) → Bool}
    (h : p.playsDisabled r before after good = true)
    (bounds : ∀ change, .around change ∈ after → ∀ x, Cycle.Sensed p.Senses x (change x)) :
    ∃ first t a l b u c, Cycle.start r {} = .ok first ∧
      (Cycle.routine p.State).Run (fun _ _ => True) first t a ∧
      (Cycle.routine p.State).Step a l b ∧ disables l = true ∧
      (Cycle.routine p.State).Run (Cycle.Sensed p.Senses) b u c ∧
      (∀ m ∈ Deed.taken u, p.rouses m.command = false) ∧ good c = true := by
  obtain ⟨first, t, a, begun, run, h⟩ :=
    Routine.exists_run_of_begun (fun _ _ => True) h fun _ _ _ => trivial
  obtain ⟨⟨l, b⟩, heard, h⟩ := (Option.any_eq_true _ _).1 h
  rw [Bool.and_eq_true] at h
  obtain ⟨u, c, later, h'⟩ := Routine.exists_run_of_play h.2 bounds
  rw [Bool.and_eq_true, List.all_eq_true] at h'
  refine ⟨first, t, a, l, b, u, c, begun, run, Routine.step_of_look? heard, h.1, later, ?_, h'.2⟩
  intro m hm
  simpa using h'.1 m hm

/-- The news that the robot is disabled. -/
def off : Message :=
  { command := .state .disabled }

lemma senses_second (p : Part) {change : Runner p.State × World → Runner p.State × World}
    (h : .around change ∈ [.look, p.second, .look]) (x : Runner p.State × World) :
    Cycle.Sensed p.Senses x (change x) := by
  simp only [second, List.mem_cons, reduceCtorEq, Routine.Move.around.injEq, List.not_mem_nil,
    or_false, false_or] at h
  subst h
  exact Senses.refl p _

theorem hopper_at_rest : ∃ first t a l b u c,
    Cycle.start (⟨{}, 0⟩ : Runner Hopper) {} = .ok first ∧
      (Cycle.routine Hopper).Run (fun _ _ => True) first t a ∧
      (Cycle.routine Hopper).Step a l b ∧ disables l = true ∧
      (Cycle.routine Hopper).Run (Cycle.Sensed hopper.Senses) b u c ∧
      (∀ m ∈ Deed.taken u, hopper.rouses m.command = false) ∧
      hopper.AtRest c.2.1.subsystem ∧ 3 ≤ c.2.1.loops := by
  have played : hopper.playsDisabled ⟨{}, 0⟩
      [deliver hopper { command := .hopper (.up 0.5) }, .look, deliver hopper off]
      [.look, hopper.second, .look] (fun c => 3 ≤ c.2.1.loops) = true := by
    decide +kernel
  obtain ⟨first, t, a, l, b, u, c, begun, before, heard, disabled, after, calm, passed⟩ :=
    exists_of_playsDisabled played fun change => senses_second hopper
  exact ⟨first, t, a, l, b, u, c, begun, before, heard, disabled, after, calm,
    (at_rest_iff .hopper begun before heard disabled after calm).2 trivial, by simpa using passed⟩

/-- The motors of a part stand still from the end of the cycle that disables it, for as long as nothing
rouses it. -/
def StaysAtRest (p : Part) : Prop :=
  ∀ (r : Runner p.State) (w : World) first t a l b u c, Cycle.start r w = .ok first →
    (Cycle.routine p.State).Run (fun _ _ => True) first t a → (Cycle.routine p.State).Step a l b →
    disables l = true → (Cycle.routine p.State).Run (Cycle.Sensed p.Senses) b u c →
    (∀ m ∈ Deed.taken u, p.rouses m.command = false) → p.AtRest c.2.1.subsystem

/-- A roller that pulls in when the floor intake is disabled runs on, and a closed gripper is driven
again in the first quiet cycle. -/
theorem motors_run_disabled : ¬ gearFloor.StaysAtRest ∧ ¬ gearIntake.StaysAtRest := by
  constructor
  · intro claim
    have played : gearFloor.playsDisabled ⟨{}, 0⟩
        [deliver gearFloor { command := .floor (.pullIn 0.5) }, .look, deliver gearFloor off]
        [.look, gearFloor.second, .look] (fun c => !(c.2.1.subsystem.roller.value == 0)) = true := by
      decide +kernel
    obtain ⟨first, t, a, l, b, u, c, begun, before, heard, disabled, after, calm, runs⟩ :=
      exists_of_playsDisabled played fun change => senses_second gearFloor
    have rest := claim _ _ first t a l b u c begun before heard disabled after calm
    have stopped : (c.2.1.subsystem.roller.value == 0) = true := rest _ (List.mem_singleton_self _)
    rw [stopped] at runs
    cases runs
  · intro claim
    have played : gearIntake.playsDisabled ⟨{}, 0⟩
        [deliver gearIntake { command := .gear (.hold 0.5) }, .look, .look, gearIntake.second,
          gearIntake.second, .look, deliver gearIntake off]
        [.look, gearIntake.second, .look] (fun c => !(c.2.1.subsystem.motor.value == 0)) = true := by
      decide +kernel
    obtain ⟨first, t, a, l, b, u, c, begun, before, heard, disabled, after, calm, runs⟩ :=
      exists_of_playsDisabled played fun change => senses_second gearIntake
    have rest := claim _ _ first t a l b u c begun before heard disabled after calm
    have stopped : (c.2.1.subsystem.motor.value == 0) = true := rest _ (List.mem_singleton_self _)
    rw [stopped] at runs
    cases runs

end Part

end MatchRobot
