import MatchRobot.Proofs.Autonomy.Evaluation
import MatchRobot.Subsystem.Robot

/-!
# Subsystems keep to themselves

The work of a subsystem between two waits touches its devices and reports, and that is nearly all: it
moves neither the clock nor the mode flag, it posts nothing, and it leaves its own mailbox to the
cycle. Where it stops at a wait for room, the message there is a command and no reply, for replies are
the affair of the cycle too. The one exception is the end of the macro that hangs a gear, which empties
the mailbox of the floor intake.

`Subsystem.Modest` says this of a kind of subsystem, and `Part.modest` of all parts of the robot.
-/

namespace MatchRobot

/-- A job of a subsystem that waits for nothing but time. -/
def Asleep {ι : Type} (_ : ι) (wait : Wait) : Prop :=
  wait.IsSleep

lemma asleep {ι : Type} {c : ι} (a : Alarm) : Asleep c (.sleep a) :=
  ⟨a, rfl⟩

/-! ### The climber -/

namespace Climber

variable {v w : World}

lemma keeps_pulse (c : Climber) (p : Pulse) (h : World.Kept none v w) :
    Keeps Asleep none v (c.pulse p w) := by
  unfold pulse
  split
  · exact keeps_sleep h asleep
  · exact keeps_finished h

lemma keeps_handle (command : Command) (c : Climber) (w : World) :
    Keeps Asleep none w (handle command c w) := by
  unfold handle
  split
  · exact keeps_finished (.refl w)
  · exact keeps_finished (.refl w)
  · exact keeps_finished (.refl w)
  · exact keeps_bind fun _ _ => keeps_pulse c _ (World.kept_notice _ (.refl w))
  · exact keeps_finished (.refl w)

lemma kept_check (c : Climber) (w : World) : World.Kept none w (c.check w).2.2 := by
  unfold check
  simp only
  split
  · exact World.kept_notice _ (World.kept_tell _ (.refl w))
  · exact World.kept_tell _ (.refl w)

end Climber

/-! ### The gear floor intake -/

namespace FloorIntake

variable {bin : Option Address} {v w : World}

lemma kept_swing (f : FloorIntake) (s : ArmSetpoints) (target : ArmPosition)
    (h : World.Kept bin v w) : World.Kept bin v (f.swing s target w).2 := by
  unfold swing
  split
  · exact h
  · exact World.kept_tell _ h

lemma kept_zero (f : FloorIntake) (h : World.Kept bin v w) :
    World.Kept bin v (f.zero w).2.2 :=
  kept_swing _ _ _ (World.kept_notice _ (World.kept_tell _ h))

lemma kept_moveArm (f : FloorIntake) (target : ArmPosition) (h : World.Kept bin v w) :
    World.Kept bin v (f.moveArm target w).2 := by
  unfold moveArm
  split
  · exact kept_swing _ _ _ h
  · exact kept_swing _ _ _ (kept_zero f h)

/-- The stage of the macro after which the mailbox is emptied. -/
def Sweeps : HangStage → Prop
  | .raised => True
  | _ => False

lemma keeps_hang (f : FloorIntake) {stage : HangStage} (busy : ¬ Sweeps stage) (w : World) :
    Keeps Asleep none w (f.hang stage w) := by
  cases stage with
  | rolling => exact keeps_sleep (kept_moveArm _ _ (.refl w)) asleep
  | lowered => exact keeps_sleep (kept_moveArm _ _ (.refl w)) asleep
  | raised => exact absurd trivial busy

lemma kept_sweep (w : World) : World.Kept (some .gearFloor) w (sweep w) :=
  World.kept_discard_notice .gearFloor .macroDropped w

/-- Only the end of the macro touches a mailbox. -/
lemma keeps_sweep (f : FloorIntake) {stage : HangStage} (done : Sweeps stage) (w : World) :
    Keeps Asleep (some .gearFloor) w (f.hang stage w) := by
  cases stage with
  | raised => exact keeps_finished (kept_sweep w)
  | _ => exact done.elim

lemma keeps_obey (f : FloorIntake) (c : FloorCommand) (w : World) :
    Keeps Asleep none w (f.obey c w) := by
  cases c with
  | hangGear => exact keeps_sleep (World.kept_notice _ (.refl w)) asleep
  | pullIn | pushOut | stop => exact keeps_finished (.refl w)
  | _ => exact keeps_finished (kept_moveArm _ _ (.refl w))

lemma keeps_handle (c : Command) (f : FloorIntake) (w : World) :
    Keeps Asleep none w (f.handle c w) := by
  unfold handle
  split
  · exact keeps_obey f _ w
  · exact keeps_finished (.refl w)

lemma kept_enter (m : Mode) (f : FloorIntake) (w : World) :
    World.Kept none w (f.enter m w).2 := by
  unfold enter
  split
  · exact kept_zero f (.refl w)
  · rfl

lemma kept_check (f : FloorIntake) (w : World) : World.Kept none w (f.check w).2.2 := by
  have guarded : World.Kept none w (f.guardArm w).2.2 := by
    have still : World.Kept none w w := .refl w
    have told := World.kept_tell (.number "Arm Position" f.rotations)
      (World.kept_tell (.number "Arm Current" f.arm.current) still)
    unfold guardArm
    simp only
    split
    · exact World.kept_notice _ told
    · exact told
  unfold check liftGear
  simp only
  split
  · exact kept_moveArm _ _ (World.kept_tell _ guarded)
  · exact World.kept_tell _ guarded

end FloorIntake

/-! ### The hopper and the gear intake -/

lemma Hopper.kept_check (h : Hopper) (w : World) : World.Kept none w (h.check w).2.2 := by
  unfold check
  simp only
  split
  · exact World.kept_notice _ (World.kept_tell _ (.refl w))
  · exact World.kept_tell _ (.refl w)

namespace GearIntake

lemma kept_check (g : GearIntake) (w : World) : World.Kept none w (g.check w).2.2 := by
  unfold check
  simp only
  split
  · exact World.kept_notice _ (World.kept_tell _ (.refl w))
  · exact World.kept_tell _ (.refl w)

lemma kept_moveTo (g : GearIntake) (grip : Grip) (w : World) :
    World.Kept none w (g.moveTo grip w).2 := by
  unfold moveTo
  simp only
  split
  · rfl
  · exact World.kept_tell _ (World.kept_notice _ (.refl w))

lemma kept_handle {c : Command} {g h : GearIntake} {v w : World}
    (handled : g.handle c v = .ok (h, w)) : World.Kept none v w := by
  unfold handle at handled
  split at handled
  · cases handled
    exact kept_moveTo _ _ v
  · cases handled
    exact kept_moveTo _ _ v
  · cases handled
    rfl
  · obtain ⟨grip, -, moved⟩ := bind_eq_ok.1 handled
    cases moved
    exact kept_moveTo _ _ v

end GearIntake

/-! ### The drivetrain -/

namespace Drivetrain

variable {v w : World}

lemma keeps_iterate (d : Drivetrain) (job : Job) (h : World.Kept none v w) :
    Keeps Asleep none v (d.iterate job w) :=
  keeps_sleep h asleep

lemma keeps_driveOn (d : Drivetrain) (s : StraightDrive) (h : World.Kept none v w) :
    Keeps Asleep none v (d.driveOn s w) := by
  unfold driveOn
  simp only
  split
  · exact keeps_iterate _ _ h
  · exact keeps_finished (World.kept_notice _ h)

lemma keeps_turnOn (d : Drivetrain) (t : Turn) (h : World.Kept none v w) :
    Keeps Asleep none v (d.turnOn t w) := by
  unfold turnOn
  simp only
  split
  · exact keeps_iterate _ _ h
  · exact keeps_finished (World.kept_notice _ h)

lemma keeps_startStraight (d : Drivetrain) (params : MoveParams) (goal : StraightGoal)
    (h : World.Kept none v w) : Keeps Asleep none v (d.startStraight params goal w) :=
  keeps_bind fun s _ => keeps_driveOn _ s h

lemma keeps_refuseMove (d : Drivetrain) (h : World.Kept none v w) :
    Keeps Asleep none v (.ok (d.refuseMove w)) :=
  keeps_finished (World.kept_status _ (World.kept_notice _ h))

lemma keeps_startMove (d : Drivetrain) (params : MoveParams) (proximity : Bool)
    (h : World.Kept none v w) : Keeps Asleep none v (d.startMove params proximity w) := by
  unfold startMove
  simp only
  split
  · exact keeps_sleep h asleep
  · exact keeps_startStraight _ _ _ h

lemma keeps_startProximity (d : Drivetrain) (params : MoveParams) (h : World.Kept none v w) :
    Keeps Asleep none v (d.startProximity params w) :=
  keeps_startStraight _ _ _ (World.kept_notice _ h)

lemma keeps_zeroEncoders (d : Drivetrain) (attempts : Nat) (params : MoveParams)
    (proximity : Bool) (h : World.Kept none v w) :
    Keeps Asleep none v (d.zeroEncoders attempts params proximity w) := by
  cases attempts with
  | zero => exact keeps_refuseMove d h
  | succ attempts =>
    unfold zeroEncoders
    simp only
    split
    · exact keeps_startMove _ _ _ h
    · split
      · exact keeps_iterate _ _ h
      · exact keeps_refuseMove _ h

lemma keeps_startTurn (d : Drivetrain) (angle timeout : Float32) (h : World.Kept none v w) :
    Keeps Asleep none v (d.startTurn angle timeout w) :=
  keeps_bind fun t _ => keeps_turnOn _ t h

lemma kept_iterateTimed (d : Drivetrain) (w : World) :
    World.Kept none w (d.iterateTimed w).2 := by
  unfold iterateTimed
  split
  · simp only
    split
    · rfl
    · exact World.kept_notice _ (.refl w)
  · rfl

lemma keeps_settle (d : Drivetrain) (h : World.Kept none v w) :
    Keeps Asleep none v (d.settle w) := by
  unfold settle
  split
  · exact keeps_bind fun _ _ => keeps_finished h
  · exact keeps_finished h

lemma keeps_obey (d : Drivetrain) (c : DriveCommand) (w : World) :
    Keeps Asleep none w (d.obey c w) := by
  cases c with
  | stop | tank | autoMove => exact keeps_settle _ (.refl w)
  | cheesy => exact keeps_bind fun _ _ => keeps_finished (.refl w)
  | measuredMove | proximityMove => exact keeps_zeroEncoders _ _ _ _ (.refl w)
  | timedMove => exact keeps_bind fun _ _ => keeps_settle _ (.refl w)
  | turn => exact keeps_startTurn _ _ _ (.refl w)

lemma keeps_handle (c : Command) (d : Drivetrain) (w : World) :
    Keeps Asleep none w (d.handle c w) := by
  unfold handle
  split
  · exact keeps_obey d _ w
  · exact keeps_settle _ (World.kept_notice _ (.refl w))
  · exact keeps_settle _ (World.kept_notice _ (.refl w))
  · exact keeps_settle _ (.refl w)
  · exact keeps_settle _ (kept_iterateTimed d w)
  · exact keeps_settle _ (.refl w)

lemma keeps_resume (job : Job) (d : Drivetrain) (w : World) :
    Keeps Asleep none w (d.resume job w) := by
  cases job with
  | zeroing => exact keeps_zeroEncoders _ _ _ _ (.refl w)
  | settling => exact keeps_startProximity _ _ (.refl w)
  | driving => exact keeps_driveOn _ _ (.refl w)
  | turning => exact keeps_turnOn _ _ (.refl w)

end Drivetrain

/-! ### The autonomous task -/

namespace Autonomous

variable {v w : World}

/-- A job of the autonomous task, which is a script run, waits for what fits the line under way. -/
def Fits (r : Run) (wait : Wait) : Prop :=
  r.line.Fits wait

lemma kept_load (p : Pilot) (w : World) : World.Kept none w (p.load w).2.2 := by
  have loaded : World.Kept none w (p.sequencer.load w).2.2 := by
    unfold Sequencer.load
    split <;> exact World.kept_notice _ (.refl w)
  exact loaded

section

-- Whatever can be said of the waits of a script run can be said of those of this task.
variable {fits : Run → Wait → Prop}

/-- Reporting the end of a run changes nothing else. -/
lemma keeps_follow (a : Autonomous) {stage : Stage Run RunResult Pilot}
    (h : Keeps fits (some .autoParser) v (.ok stage)) :
    Keeps fits (some .autoParser) v (.ok (a.follow stage)) := by
  obtain ⟨progress, p, u⟩ := stage
  obtain ⟨kept, fit⟩ := h _ _ _ rfl
  cases progress with
  | waiting wait r => exact keeps_waiting kept (fit wait r rfl)
  | finished result =>
    cases result with
    | ok why => exact keeps_finished (World.kept_tell _ (World.kept_notice _ kept))
    | error e => exact keeps_finished (World.kept_notice _ kept)

lemma keeps_agreed {stage : Stage Run Unit Autonomous}
    (h : Keeps fits (some .autoParser) v (.ok stage)) :
    Keeps fits (some .autoParser) v (.ok (agreed stage)) := by
  obtain ⟨progress, a, u⟩ := stage
  obtain ⟨kept, fit⟩ := h _ _ _ rfl
  cases progress with
  | waiting wait r => exact keeps_waiting kept (fit wait r rfl)
  | finished _ => exact keeps_finished kept

variable (begins : ∀ (p : Pilot) w, Keeps fits (some .autoParser) w (p.run w))
include begins

lemma keeps_runScript (a : Autonomous) (w : World) :
    Keeps fits (some .autoParser) w (a.runScript w) := by
  have loaded : World.Kept (some .autoParser) w (a.pilot.load w).2.2 := (kept_load a.pilot w).weaken
  unfold runScript
  simp only
  split
  · exact keeps_finished (World.kept_notice _ (World.kept_status _ loaded))
  · refine keeps_map ?_ fun stage => keeps_follow _
    intro progress p u done
    obtain ⟨kept, fit⟩ := begins _ _ _ _ _ done
    exact ⟨(World.kept_notice _ loaded).trans kept, fit⟩

lemma keeps_handle (c : Command) (a : Autonomous) (w : World) :
    Keeps fits (some .autoParser) w (a.handle c w) := by
  unfold handle
  split
  · exact keeps_map (keeps_runScript begins a w) fun stage => keeps_agreed
  · exact keeps_finished (.refl w)

lemma keeps_enter (m : Mode) (a : Autonomous) (w : World) :
    Keeps fits (some .autoParser) w (a.enter m w) := by
  unfold enter
  split
  · exact keeps_runScript begins a w
  · exact keeps_finished (.refl w)

end

lemma keeps_resume {fits : Run → Wait → Prop} (a : Autonomous) {r : Run} {wake : Wake} {w : World}
    (goes_on : Keeps fits (some .autoParser) w (a.pilot.resume r wake w)) :
    Keeps fits (some .autoParser) w (Subsystem.resume r wake a w) :=
  keeps_map goes_on fun _ h => keeps_agreed (keeps_follow a h)

end Autonomous

/-! ### Every kind of subsystem -/

/-- What the cycle can rely on of a kind of subsystem: where its jobs wait, which mailbox other than
its own its work may empty, and which jobs empty its own. -/
structure Subsystem.Modest (σ : Type) [Subsystem σ] (fits : Subsystem.Job σ → Wait → Prop)
    (bin : Option Address) (sweeps : Subsystem.Job σ → Prop) : Prop where
  elsewhere : bin ≠ some (Subsystem.address σ)
  rearmed : ∀ {job wait wait'}, fits job wait → wait.Rearmed wait' → fits job wait'
  mild : ∀ {job wait}, fits job wait → wait.Mild
  reads : ∀ {job wait limit}, fits job wait → wait ≠ .receive (Subsystem.address σ) limit
  enter : ∀ m (s : σ) w, Keeps fits bin w (Subsystem.enter m s w)
  check : ∀ (s : σ) w, World.Kept bin w (Subsystem.check s w).2.2
  handle : ∀ c (s : σ) w, Keeps fits bin w (Subsystem.handle c s w)
  resume : ∀ {job wait} wake (s : σ) w, fits job wait → ¬ sweeps job →
    Keeps fits bin w (Subsystem.resume job wake s w)
  sweep : ∀ {job wait} wake (s : σ) w, fits job wait → sweeps job →
    Keeps fits (some (Subsystem.address σ)) w (Subsystem.resume job wake s w)

/-- A sleep stays one. -/
lemma Asleep.rearmed {ι : Type} {job : ι} {wait wait' : Wait} (h : Asleep job wait)
    (r : wait.Rearmed wait') : Asleep job wait' := by
  obtain ⟨a, rfl⟩ := h
  cases r
  exact asleep _

/-- Who sleeps does not look into a mailbox. -/
lemma Asleep.ne_receive {ι : Type} {job : ι} {wait : Wait} {box : Address} {limit : Option Alarm}
    (h : Asleep job wait) : wait ≠ .receive box limit := by
  obtain ⟨a, rfl⟩ := h
  nofun

/-- A kind of subsystem whose jobs wait for nothing but time, and that leaves other mailboxes alone. -/
lemma Subsystem.modest_of_asleep {σ : Type} [Subsystem σ] {sweeps : Subsystem.Job σ → Prop}
    (enter : ∀ m (s : σ) w, Keeps Asleep none w (Subsystem.enter m s w))
    (check : ∀ (s : σ) w, World.Kept none w (Subsystem.check s w).2.2)
    (handle : ∀ c (s : σ) w, Keeps Asleep none w (Subsystem.handle c s w))
    (resume : ∀ {job} wake (s : σ) w, ¬ sweeps job →
      Keeps Asleep none w (Subsystem.resume job wake s w))
    (sweep : ∀ {job} wake (s : σ) w, sweeps job →
      Keeps Asleep (some (Subsystem.address σ)) w (Subsystem.resume job wake s w)) :
    Subsystem.Modest σ Asleep none sweeps where
  elsewhere := nofun
  rearmed := Asleep.rearmed
  mild := Wait.IsSleep.mild
  reads := Asleep.ne_receive
  enter := enter
  check := check
  handle := handle
  resume wake s w _ := resume wake s w
  sweep wake s w _ := sweep wake s w

lemma Climber.modest : Subsystem.Modest Climber Asleep none fun _ => False :=
  Subsystem.modest_of_asleep
    (fun _ _ w => keeps_finished (.refl w))
    kept_check
    keeps_handle
    (fun _ c w _ => keeps_pulse c _ (.refl w))
    (fun _ _ _ h => h.elim)

lemma FloorIntake.modest : Subsystem.Modest FloorIntake Asleep none Sweeps :=
  Subsystem.modest_of_asleep
    (fun m f w => keeps_finished (kept_enter m f w))
    kept_check
    keeps_handle
    (fun _ f w busy => keeps_hang f busy w)
    (fun _ f w done => keeps_sweep f done w)

lemma Hopper.modest : Subsystem.Modest Hopper Asleep none fun _ => False :=
  Subsystem.modest_of_asleep
    (fun _ _ w => keeps_finished (.refl w))
    kept_check
    (fun _ _ w => keeps_finished (.refl w))
    (fun {job} _ _ _ _ => nomatch job)
    (fun _ _ _ h => h.elim)

lemma GearIntake.modest : Subsystem.Modest GearIntake Asleep none fun _ => False :=
  Subsystem.modest_of_asleep
    (fun _ _ w => keeps_finished (.refl w))
    kept_check
    (fun _ _ _ => keeps_bind fun _ handled => keeps_finished (kept_handle handled))
    (fun {job} _ _ _ _ => nomatch job)
    (fun _ _ _ h => h.elim)

lemma Drivetrain.modest : Subsystem.Modest Drivetrain Asleep none fun _ => False :=
  Subsystem.modest_of_asleep
    (fun _ _ w => keeps_finished (.refl w))
    (fun _ w => World.kept_tellAll _ (.refl w))
    keeps_handle
    (fun _ d w _ => keeps_resume _ d w)
    (fun _ _ _ h => h.elim)

lemma Autonomous.modest :
    Subsystem.Modest Autonomous Fits (some .autoParser) fun _ => False where
  elsewhere := nofun
  rearmed := Evaluation.Fits.rearmed
  mild := Evaluation.Fits.mild
  reads fit h := nomatch Evaluation.Fits.reads fit h
  enter := keeps_enter Pilot.keeps_run
  check _ w := World.kept_tell _ (.refl w)
  handle := keeps_handle Pilot.keeps_run
  resume _ a _ fit _ := keeps_resume a (Pilot.keeps_resume a.pilot fit)
  sweep _ _ _ _ h := h.elim

namespace Part

/-- What the jobs of a part wait for. -/
def Fits : (p : Part) → p.Job → Wait → Prop
  | autonomous => Autonomous.Fits
  | drivetrain | climber | hopper | gearIntake | gearFloor => Asleep

/-- The mailbox other than its own that a part may empty. -/
def bin : Part → Option Address
  | autonomous => some .autoParser
  | _ => none

/-- The jobs of a part that empty its own mailbox. -/
def Sweeps : (p : Part) → p.Job → Prop
  | gearFloor => FloorIntake.Sweeps
  | drivetrain | autonomous | climber | hopper | gearIntake => fun _ => False

/-- Every part of the robot keeps to itself. -/
lemma modest (p : Part) : Subsystem.Modest p.State p.Fits p.bin p.Sweeps := by
  cases p with
  | drivetrain => exact Drivetrain.modest
  | autonomous => exact Autonomous.modest
  | climber => exact Climber.modest
  | hopper => exact Hopper.modest
  | gearIntake => exact GearIntake.modest
  | gearFloor => exact FloorIntake.modest

/-- The jobs of a part that runs no script only sleep. -/
lemma modest_of_ne {p : Part} (h : p ≠ autonomous) :
    Subsystem.Modest p.State Asleep none p.Sweeps := by
  cases p with
  | drivetrain => exact Drivetrain.modest
  | autonomous => exact absurd rfl h
  | climber => exact Climber.modest
  | hopper => exact Hopper.modest
  | gearIntake => exact GearIntake.modest
  | gearFloor => exact FloorIntake.modest

end Part

end MatchRobot
