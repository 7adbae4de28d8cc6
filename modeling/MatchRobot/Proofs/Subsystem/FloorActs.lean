import MatchRobot.Proofs.Subsystem.ArmGuard
import MatchRobot.Proofs.Subsystem.Cutoff

/-!
# What the floor intake does

From one wait to the next the floor intake does a few things in a row: it hears of a mode, inspects its
arm, obeys a command or goes on with the macro that hangs a gear. Each of these is an `Act`, noted with
what was found out at that moment, and `FloorIntake.perform` says what it makes of the intake; the
reports and the mail that go with it are left out.

`FloorIntake.acting` is the loop of the floor intake as a routine whose notes are its acts. A stretch of
work performs the acts that are noted of it and does nothing else (`FloorIntake.subsystem_of_runOn`), so
what each act keeps, and what the surroundings cannot touch, holds all through a run
(`FloorIntake.holds_of_run`).
-/

namespace MatchRobot

/-! ### Orders to the arm and to the roller -/

/-- Where a command sends an arm that is at a position. An arm that has none yet goes to the drive position,
up as well as down. -/
def FloorCommand.target? (position : ArmPosition) : FloorCommand → Option ArmPosition
  | floorPosition => some .floor
  | drivePosition => some .drive
  | releasePosition => some .release
  | nextPosition => match position with
    | .unknown | .floor => some .drive
    | .drive | .release => some .release
  | previousPosition => match position with
    | .unknown | .release => some .drive
    | .drive | .floor => some .floor
  | pullIn _ | pushOut _ | stop | hangGear => none

/-- No command sends the arm nowhere in particular. -/
lemma FloorCommand.target?_ne_unknown (position : ArmPosition) (c : FloorCommand) :
    c.target? position ≠ some .unknown := by
  intro lost
  cases c with
  | nextPosition | previousPosition => cases position <;> exact nomatch lost
  | _ => exact nomatch lost

/-- What the roller is told to do. -/
inductive RollerOrder
  | stop
  /-- To pull in, given while the arm was at a position. -/
  | pull (speed : Float32) (position : ArmPosition)
  | push (speed : Float32)
  /-- To run as the macro that hangs a gear begins. -/
  | hang

/-- How fast the roller may pull in while the arm is at a position. -/
def ArmConfig.pullLimit (c : ArmConfig) : ArmPosition → Float32
  | .drive => c.maxIntakeSpeed / 3
  | _ => c.maxIntakeSpeed

/-- What is written to the roller upon an order. -/
def RollerOrder.output (c : ArmConfig) : RollerOrder → Float32
  | stop => 0
  | pull speed position => Single.least speed (c.pullLimit position)
  | push speed => -(Single.least speed c.maxIntakeSpeed)
  | hang => c.macroRollerSpeed

/-- What a command tells the roller while the arm is at a position. -/
def FloorCommand.order? (position : ArmPosition) : FloorCommand → Option RollerOrder
  | pullIn speed => some (.pull speed position)
  | pushOut speed => some (.push speed)
  | stop => some .stop
  | hangGear => some .hang
  | _ => none

namespace FloorIntake

/-! ### What is made of the intake -/

/-- The intake after its arm was zeroed: what the sensor shows is the drive position, and the arm goes up
to release. -/
def zeroed (f : FloorIntake) : FloorIntake :=
  let s := ArmSetpoints.ofDrive f.config f.rotations
  { f with
    arm := (f.arm.setMode .position).set s.release
    position := .release
    setpoints := some s }

/-- The intake with an arm that is zeroed, now or before. -/
def ready (f : FloorIntake) : FloorIntake :=
  if f.setpoints.isNone then f.zeroed else f

/-- The intake with its arm sent to a position. -/
def sent (f : FloorIntake) (target : ArmPosition) : FloorIntake :=
  match f.ready.setpoints.bind (·.get? target) with
  | none => f.ready
  | some x => { f.ready with arm := f.ready.arm.set x, position := target }

/-- The intake with its arm told to stay at an angle, if one is given. -/
def held (f : FloorIntake) (angle : Option Float32) : FloorIntake :=
  angle.elim f fun x => { f with arm := f.arm.set x }

/-- The intake after it has looked for a gear. -/
def lifted (f : FloorIntake) : FloorIntake :=
  if f.lifts then f.sent .drive else f

/-- The intake after its roller was told something and its arm was sent somewhere. -/
def directed (f : FloorIntake) (order : Option RollerOrder) (target : Option ArmPosition) :
    FloorIntake :=
  let f := order.elim f fun o => f.roll (o.output f.config)
  target.elim f f.sent

section

variable (f : FloorIntake) (w : World)

/-- Zeroing the arm, without the reports of it. -/
lemma zero_eq : ∃ u, f.zero w = (ArmSetpoints.ofDrive f.config f.rotations, f.zeroed, u) :=
  ⟨_, rfl⟩

lemma ready_of_zeroed {s : ArmSetpoints} (h : f.setpoints = some s) : f.ready = f := by
  unfold ready
  rw [h]
  rfl

lemma ready_of_fresh (h : f.setpoints = none) : f.ready = f.zeroed := by
  unfold ready
  rw [h]
  rfl

/-- An arm that is ready can be sent to every position there is. -/
lemma sent_eq {s : ArmSetpoints} (known : f.ready.setpoints = some s) {target : ArmPosition}
    (real : target ≠ .unknown) : ∃ x, s.get? target = some x ∧
      f.sent target = { f.ready with arm := f.ready.arm.set x, position := target } := by
  unfold sent
  rw [known]
  cases target with
  | unknown => exact absurd rfl real
  | floor | drive | release => exact ⟨_, rfl, rfl⟩

/-- Moving the arm, without the reports of it. -/
lemma moveArm_eq (target : ArmPosition) : (f.moveArm target w).1 = f.sent target := by
  have swung : ∀ (g : FloorIntake) (s : ArmSetpoints) (u : World), g.ready = g →
      g.setpoints = some s → (g.swing s target u).1 = g.sent target := by
    intro g s u ready known
    have there : g.setpoints.bind (·.get? target) = s.get? target := by rw [known, Option.bind_some]
    unfold swing sent
    rw [ready, there]
    cases s.get? target <;> rfl
  cases known : f.setpoints with
  | some s =>
    have zeroed : f.moveArm target w = f.swing s target w := by
      unfold moveArm
      rw [known]
    rw [zeroed]
    exact swung f s w (f.ready_of_zeroed known) known
  | none =>
    obtain ⟨u, zero⟩ := f.zero_eq w
    have fresh : f.moveArm target w =
        f.zeroed.swing (ArmSetpoints.ofDrive f.config f.rotations) target u := by
      unfold moveArm
      rw [known, zero]
    have same : f.zeroed.sent target = f.sent target := by
      unfold sent
      rw [f.ready_of_fresh known]
      rfl
    rw [fresh, ← same]
    exact swung _ _ u rfl rfl

lemma enter_eq (mode : Mode) :
    (f.enter mode w).1 = if mode.isEnabled then f.ready else f := by
  unfold enter ready
  cases mode.isEnabled with
  | false => rfl
  | true =>
    cases f.setpoints.isNone with
    | false => rfl
    | true => rfl

/-- What the arm is held at by an inspection that finds too much current. -/
def hold? : Option Float32 :=
  if Part.gearFloor.trips f then some (Single.ofInt32 f.sensor / f.config.countsPerRotation) else none

lemma check_eq : (f.check w).2.1 = (f.held f.hold?).lifted := by
  have guarded : (f.guardArm w).2.1 = f.held f.hold? := by
    unfold guardArm held hold?
    by_cases excess : f.config.maxArmCurrent ≤ f.arm.current
    · have trips : Part.gearFloor.trips f = true := decide_eq_true excess
      simp only [ge_iff_le, if_pos excess, if_pos trips]
      rfl
    · have trips : ¬ Part.gearFloor.trips f = true := by simpa [Part.trips] using excess
      simp only [ge_iff_le, if_neg excess, if_neg trips]
      rfl
  have looked : ∀ (g : FloorIntake) (u : World), (g.liftGear u).1 = g.lifted := by
    intro g u
    unfold liftGear lifted lifts
    cases g.gear && g.position == .floor with
    | false => rfl
    | true => exact g.moveArm_eq _ .drive
  calc (f.check w).2.1 = ((f.guardArm w).2.1.liftGear (f.guardArm w).2.2).1 := rfl
    _ = (f.held f.hold?).lifted := by rw [looked, guarded]

/-- Obeying a command, without the waits and the reports of it. -/
lemma obey_eq {c : FloorCommand} {stage : Stage HangStage Reply FloorIntake}
    (done : f.obey c w = .ok stage) :
    stage.2.1 = f.directed (c.order? f.position) (c.target? f.position) := by
  cases c with
  | hangGear =>
    obtain ⟨wait, -, done⟩ := bind_eq_ok.1 done
    cases done
    rfl
  | pullIn speed =>
    cases done
    unfold directed pullIn pullLimit RollerOrder.output ArmConfig.pullLimit
    cases f.position <;> rfl
  | pushOut | stop =>
    cases done
    rfl
  | nextPosition | previousPosition =>
    cases done
    unfold directed FloorCommand.target?
    cases f.position <;> exact f.moveArm_eq w _
  | _ =>
    cases done
    exact f.moveArm_eq w _

end

/-! ### Acts -/

/-- Something that the floor intake does. -/
inductive Act
  | hears (mode : Mode)
  /-- It inspects the arm, and holds it at an angle if that draws too much. -/
  | inspects (hold : Option Float32)
  /-- It obeys a command that finds the arm at a position. -/
  | obeys (c : FloorCommand) (position : ArmPosition)
  /-- The macro stops the roller and lowers the arm. -/
  | lowers
  /-- The macro raises the arm again. -/
  | raises

namespace Act

/-- What an act tells the roller. -/
def order? : Act → Option RollerOrder
  | obeys c position => c.order? position
  | lowers => some .stop
  | hears _ | inspects _ | raises => none

/-- Where an act sends the arm, unless that is for the sake of a gear. -/
def target? : Act → Option ArmPosition
  | obeys c position => c.target? position
  | lowers => some .floor
  | raises => some .release
  | hears _ | inspects _ => none

/-- No act sends the arm nowhere in particular. -/
lemma target?_ne_unknown (a : Act) : a.target? ≠ some .unknown := by
  cases a with
  | obeys c position => exact c.target?_ne_unknown position
  | _ => exact nofun

/-- Whether an act calls for an arm that is zeroed. -/
def zeroes : Act → Bool
  | hears mode => match mode with
    | .autonomous | .teleoperated | .test => true
    | .disabled | .unknown => false
  | a => a.target?.isSome

lemma zeroes_hears (mode : Mode) : (hears mode).zeroes = mode.isEnabled := by
  cases mode <;> rfl

/-- Where an act holds the arm. -/
def holds? : Act → Option Float32
  | inspects hold => hold
  | _ => none

end Act

/-- What an act makes of the intake. -/
def perform (f : FloorIntake) : Act → FloorIntake
  | .hears mode => if mode.isEnabled then f.ready else f
  | .inspects hold => (f.held hold).lifted
  | a => f.directed a.order? a.target?

/-- The acts that a command leads to, in a position. -/
def actsOn (position : ArmPosition) : Command → List Act
  | .floor c => [.obeys c position]
  | _ => []

/-- The inspection of a cycle, if it is due. -/
def inspections (r : Runner FloorIntake) : List Act :=
  if Cycle.checkDue r.loops then [.inspects r.subsystem.hold?] else []

/-- Whether an inspection refuses the message of a cycle. -/
def refuses (r : Runner FloorIntake) : Bool :=
  Cycle.checkDue r.loops && Part.gearFloor.trips r.subsystem

/-- The acts of the macro, by where it has waited. -/
def HangStage.acts : HangStage → List Act
  | rolling => [.lowers]
  | lowered => [.raises]
  | raised => []

/-- The acts that a message leads to. -/
def actsUpon (m : Message) (r : Runner FloorIntake) : List Act :=
  match m.command with
  | .state mode => [.hears mode]
  | c =>
    let seen := inspections r
    if refuses r then seen else seen ++ actsOn (seen.foldl perform r.subsystem).position c

/-- The acts of a stretch of work. -/
def acts (c : Cycle HangStage) (wake : Wake) (r : Runner FloorIntake) : List Act :=
  match c with
  | .listening => actsUpon wake.message { r with loops := r.loops + 1 }
  | .entering stage | .handling _ stage => stage.acts
  | .replying => []

/-- The loop of the floor intake; noted are its acts. -/
def acting : Routine (Cycle HangStage) Empty (Runner FloorIntake) Act where
  resume := @Cycle.runOn FloorIntake _
  notes _ c wake r _ := acts c wake r

end FloorIntake

/-! ### The runner through a cycle -/

namespace Cycle

variable {σ : Type} [Subsystem σ] {r r' : Runner σ} {w : World}
  {p : Progress (Cycle (Subsystem.Job σ)) Empty}

/-- Whatever becomes of a verdict, the state stays as the work on the message left it. -/
lemma runner_of_conclude {m : Message} {stage : Stage (Subsystem.Job σ) Verdict (Runner σ)}
    (done : again (conclude m stage) = .ok (p, r', w)) : r' = stage.2.1 := by
  obtain ⟨progress, s, u⟩ := stage
  cases progress with
  | waiting wait job =>
    cases done
    rfl
  | finished verdict => exact (calm_conclude done).1

lemma subsystem_of_afterEnter {α : Type} {stage : Stage (Subsystem.Job σ) α σ}
    (done : again (afterEnter r stage) = .ok (p, r', w)) : r'.subsystem = stage.2.1 := by
  obtain ⟨progress, s, u⟩ := stage
  cases progress with
  | waiting wait job =>
    cases done
    rfl
  | finished a =>
    obtain ⟨rfl, -⟩ := start_eq_ok done
    rfl

lemma subsystem_handled (r : Runner σ) (stage : Stage (Subsystem.Job σ) Reply σ) :
    (handled r stage).2.1.subsystem = stage.2.1 := by
  obtain ⟨progress, s, u⟩ := stage
  cases progress <;> rfl

end Cycle

namespace FloorIntake

/-! ### A stretch of work -/

/-- Handling a command performs the acts that it leads to. -/
lemma handle_acts {f : FloorIntake} {c : Command} {w : World}
    {stage : Stage HangStage Reply FloorIntake} (done : f.handle c w = .ok stage) :
    stage.2.1 = (actsOn f.position c).foldl perform f := by
  cases c with
  | floor command => exact f.obey_eq w done
  | _ =>
    cases done
    rfl

/-- A stretch of the macro performs its acts. -/
lemma hang_acts {f : FloorIntake} {job : HangStage} {w : World}
    {stage : Stage HangStage Reply FloorIntake} (done : f.hang job w = .ok stage) :
    stage.2.1 = job.acts.foldl perform f := by
  cases job with
  | rolling | lowered =>
    obtain ⟨wait, -, done⟩ := bind_eq_ok.1 done
    cases done
    exact moveArm_eq _ _ _
  | raised =>
    cases done
    rfl

/-- An inspection performs its act, and tells whether the message is refused. -/
lemma inspect_acts (r : Runner FloorIntake) (w : World) : ∃ u, Cycle.inspect r w =
    (refuses r, { r with subsystem := (inspections r).foldl perform r.subsystem }, u) := by
  unfold refuses inspections
  cases due : Cycle.checkDue r.loops with
  | false => exact ⟨w, Cycle.inspect_of_not_due due w⟩
  | true =>
    obtain ⟨u, inspected⟩ := Cycle.inspect_of_due due w
    have tripped := Part.gearFloor.check_eq_trips r.subsystem w
    have checked : (Subsystem.check r.subsystem w).2.1 = (r.subsystem.held r.subsystem.hold?).lifted :=
      r.subsystem.check_eq w
    refine ⟨u, ?_⟩
    rw [inspected, checked]
    exact congrArg (·, _) tripped

/-- Working on a message that is no mode performs the acts that it leads to. -/
lemma treat_acts {m : Message} (news : m.isMode = false) {r : Runner FloorIntake} {w : World}
    {stage : Stage HangStage Verdict (Runner FloorIntake)} (done : Cycle.treat m r w = .ok stage) :
    stage.2.1.subsystem = (actsUpon m r).foldl perform r.subsystem := by
  have upon : actsUpon m r = if refuses r then inspections r
      else inspections r ++ actsOn ((inspections r).foldl perform r.subsystem).position m.command := by
    unfold actsUpon
    split
    · next mode told => simp [Message.isMode, told] at news
    · rfl
  obtain ⟨u, inspected⟩ := inspect_acts r w
  unfold Cycle.treat at done
  rw [inspected] at done
  rw [upon]
  cases refused : refuses r with
  | true =>
    simp only [refused, if_true] at done
    cases done
    rfl
  | false =>
    simp only [refused, Bool.false_eq_true, if_false] at done
    obtain ⟨handled, worked, done⟩ := bind_eq_ok.1 done
    cases done
    rw [Cycle.subsystem_handled, if_neg Bool.false_ne_true, List.foldl_append]
    exact handle_acts worked

/-- A stretch of work does what its acts do to the intake, and nothing else. -/
theorem subsystem_of_runOn {c : Cycle HangStage} {wake : Wake} {r : Runner FloorIntake} {w : World}
    {stage : Stage (Cycle HangStage) Empty (Runner FloorIntake)}
    (done : c.runOn wake r w = .ok stage) :
    stage.2.1.subsystem = (acts c wake r).foldl perform r.subsystem := by
  obtain ⟨p, r', u⟩ := stage
  obtain ⟨stage, resumed, done⟩ := bind_eq_ok.1 done
  cases c with
  | listening =>
    have taken : Cycle.take wake.message r w = .ok stage := resumed
    cases mode : wake.message.isMode with
    | true =>
      obtain ⟨new, told, heard⟩ := Cycle.take_of_isMode (r := r) (w := w) mode
      rw [heard] at taken
      obtain ⟨entered, entering, taken⟩ := bind_eq_ok.1 taken
      cases entering
      cases taken
      have noted : acts .listening wake r = [.hears new] := by
        simp only [acts, actsUpon, told]
      rw [Cycle.subsystem_of_afterEnter done, noted]
      exact enter_eq _ _ new
    | false =>
      rw [Cycle.take_of_isMode_eq_false mode] at taken
      obtain ⟨treated, worked, taken⟩ := bind_eq_ok.1 taken
      cases taken
      rw [Cycle.runner_of_conclude done]
      exact treat_acts mode worked
  | entering job =>
    obtain ⟨worked, hung, resumed⟩ := bind_eq_ok.1 resumed
    cases resumed
    rw [Cycle.subsystem_of_afterEnter done]
    exact hang_acts hung
  | handling m job =>
    obtain ⟨worked, pursued, resumed⟩ := bind_eq_ok.1 resumed
    obtain ⟨hung, hanging, pursued⟩ := bind_eq_ok.1 pursued
    cases resumed
    cases pursued
    rw [Cycle.runner_of_conclude done, Cycle.subsystem_handled]
    exact hang_acts hanging
  | replying =>
    cases resumed
    obtain ⟨rfl, -⟩ := Cycle.start_eq_ok done
    rfl

/-! ### Runs -/

/-- What the surroundings may do to the floor intake: whatever they like to its sensors, and to what its
motors draw. -/
def Sees (f g : FloorIntake) : Prop :=
  ∃ arm roller sensor gear,
    g = { f with arm := f.arm.draw arm, roller := f.roller.draw roller, sensor, gear }

lemma sees_refl (f : FloorIntake) : Sees f f :=
  ⟨f.arm.current, f.roller.current, f.sensor, f.gear, rfl⟩

section

variable {a b : Stage (Cycle HangStage) Empty (Runner FloorIntake)} {t l : List Act}

/-- One look at the loop performs the acts that are noted of it. -/
lemma subsystem_of_step (step : acting.Step a l b) :
    b.2.1.subsystem = l.foldl perform a.2.1.subsystem := by
  cases step with
  | pending looked => rfl
  | woken looked worked => exact subsystem_of_runOn worked

/-- What every act keeps, given all acts so far, is kept by several acts in a row. -/
lemma holds_of_acts {P : List Act → FloorIntake → Prop}
    (step : ∀ {t f} act, P t f → P (t ++ [act]) (f.perform act)) {f : FloorIntake} (h : P t f) :
    P (t ++ l) (l.foldl perform f) := by
  induction l generalizing t f with
  | nil =>
    rw [List.append_nil]
    exact h
  | cons act l ih =>
    rw [List.append_cons]
    exact ih (step act h)

/-- What every act keeps, given all acts so far, and the surroundings cannot touch holds all through a
run. -/
theorem holds_of_run {P : List Act → FloorIntake → Prop}
    (step : ∀ {t f} act, P t f → P (t ++ [act]) (f.perform act))
    (sense : ∀ {t f g}, P t f → Sees f g → P t g) (run : acting.Run (Cycle.Sensed Sees) a t b)
    (h : P [] a.2.1.subsystem) : P t b.2.1.subsystem := by
  induction run with
  | start => exact h
  | look run looked ih =>
    rw [subsystem_of_step looked]
    exact holds_of_acts step ih
  | around run change ih => exact sense ih change

end

/-! ### Runs with nothing but mail -/

/-- Messages arrive one after the other, and each is taken up. -/
def mail (ms : List Message) : List (Routine.Move (Runner FloorIntake)) :=
  ms.flatMap fun m => [Part.deliver .gearFloor m, .look]

variable {change : Runner FloorIntake × World → Runner FloorIntake × World}

/-- Who brings mail changes nothing of the intake. -/
lemma sensed_of_deliver {m : Message} (h : .around change = Part.deliver .gearFloor m)
    (x : Runner FloorIntake × World) : Cycle.Sensed Sees x (change x) := by
  cases h
  exact sees_refl _

lemma sensed_of_mail {ms : List Message} (h : .around change ∈ mail ms)
    (x : Runner FloorIntake × World) : Cycle.Sensed Sees x (change x) := by
  obtain ⟨m, -, h⟩ := List.mem_flatMap.1 h
  simp only [List.mem_cons, reduceCtorEq, List.not_mem_nil, or_false] at h
  exact sensed_of_deliver h x

end FloorIntake

end MatchRobot
