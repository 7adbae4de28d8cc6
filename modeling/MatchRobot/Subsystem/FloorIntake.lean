import MatchRobot.Device.Motor
import MatchRobot.Subsystem.Basic

/-!
# The gear floor intake

A roller on an arm that swings between the floor, a stowed drive position and the release position.
Positions are known only after the arm has been zeroed, which happens at the first enabled mode or the
first move: the sensed angle becomes the drive position and the arm goes up to release.

A switch behind the roller shows a gear; a gear that arrives while the arm is down lifts the arm. The
macro that hangs a gear runs the roller, lowers the arm, raises it and throws away the commands that
arrived meanwhile.
-/

namespace MatchRobot

/-- The gear floor intake. -/
structure FloorIntake where
  arm : Motor := {}
  roller : Motor := {}
  /-- Counts of the absolute arm sensor. -/
  sensor : Int32 := 0
  /-- Whether a gear presses the switch. -/
  gear : Bool := false
  config : ArmConfig := {}
  position : ArmPosition := .unknown
  setpoints : Option ArmSetpoints := none

namespace FloorIntake

/-- The name of the floor intake in log messages. -/
def stamp : String := "[GEAR_FLOOR]"

/-- Where the macro that hangs a gear waits. -/
inductive HangStage
  | rolling
  | lowered
  | raised

/-- The sensed angle of the arm in rotations. -/
def rotations (f : FloorIntake) : Float32 :=
  Single.ofInt32 f.sensor / f.config.countsPerRotation

/-! ### The arm -/

/-- Moves the arm to a position whose setpoints are known. -/
def swing (f : FloorIntake) (s : ArmSetpoints) (target : ArmPosition) (w : World) :
    FloorIntake × World :=
  match s.get? target with
  | none => (f, w)
  | some x => ({ f with arm := f.arm.set x, position := target },
      w.tell (.text "SETTING:" target.label))

/-- Takes the sensed angle as the drive position and raises the arm. -/
def zero (f : FloorIntake) (w : World) : ArmSetpoints × FloorIntake × World :=
  let w := w.tell (.text "SETTING:" "ZERO")
  let f := { f with arm := f.arm.setMode .position }
  let s := ArmSetpoints.ofDrive f.config f.rotations
  let w := w.notice (.armZeroed s)
  (s, swing { f with setpoints := some s } s .release w)

/-- Moves the arm to a position; an arm that is not zeroed is zeroed before. -/
def moveArm (f : FloorIntake) (target : ArmPosition) (w : World) : FloorIntake × World :=
  match f.setpoints with
  | some s => f.swing s target w
  | none =>
    let (s, f, w) := f.zero w
    f.swing s target w

/-! ### The roller -/

/-- Runs the roller. -/
def roll (f : FloorIntake) (x : Float32) : FloorIntake :=
  { f with roller := f.roller.set x }

/-- How fast the roller may pull in: a third as fast in the drive position. -/
def pullLimit (f : FloorIntake) : Float32 :=
  match f.position with
  | .drive => f.config.maxIntakeSpeed / 3
  | _ => f.config.maxIntakeSpeed

/-- Pulls a gear in. -/
def pullIn (f : FloorIntake) (speed : Float32) : FloorIntake :=
  f.roll (Single.least speed f.pullLimit)

/-- Pushes a gear out. -/
def pushOut (f : FloorIntake) (speed : Float32) : FloorIntake :=
  f.roll (-(Single.least speed f.config.maxIntakeSpeed))

/-! ### Commands -/

/-- Throws away the commands that arrived during the macro. -/
def sweep (w : World) : World :=
  let (count, w) := w.discard .gearFloor
  if count > 0 then w.notice (.macroDropped count) else w

/-- Sleeps before a stage of the macro. -/
def pause (f : FloorIntake) (span : Micros) (next : HangStage) (w : World) :
    Except Fault (Stage HangStage Reply FloorIntake) := do
  let wait ← Wait.sleepFor w.now span
  return (.waiting wait next, f, w)

/-- Goes on with the macro that hangs a gear. -/
def hang (f : FloorIntake) (stage : HangStage) (w : World) :
    Except Fault (Stage HangStage Reply FloorIntake) :=
  match stage with
  | .rolling =>
    let (f, w) := (f.roll 0).moveArm .floor w
    f.pause f.config.macroFloorTime .lowered w
  | .lowered =>
    let (f, w) := f.moveArm .release w
    f.pause f.config.macroReleaseTime .raised w
  | .raised => .ok (replied .ok f (sweep w))

/-- Obeys a floor intake command. -/
def obey (f : FloorIntake) (c : FloorCommand) (w : World) :
    Except Fault (Stage HangStage Reply FloorIntake) :=
  let move (target : ArmPosition) : Stage HangStage Reply FloorIntake :=
    let (f, w) := f.moveArm target w
    replied .ok f w
  match c with
  | .floorPosition => .ok (move .floor)
  | .drivePosition => .ok (move .drive)
  | .releasePosition => .ok (move .release)
  | .nextPosition => .ok (move f.position.next)
  | .previousPosition => .ok (move f.position.previous)
  | .pullIn speed => .ok (replied .ok (f.pullIn speed) w)
  | .pushOut speed => .ok (replied .ok (f.pushOut speed) w)
  | .stop => .ok (replied .ok (f.roll 0) w)
  | .hangGear =>
    (f.roll f.config.macroRollerSpeed).pause f.config.macroRollerTime .rolling (w.notice .hangGear)

/-- Handles a command; those of other families change nothing. -/
def handle (c : Command) (f : FloorIntake) (w : World) :
    Except Fault (Stage HangStage Reply FloorIntake) :=
  match c with
  | .floor command => f.obey command w
  | _ => .ok (replied .ok f w)

/-- Hears of a mode. -/
def enter (m : Mode) (f : FloorIntake) (w : World) : FloorIntake × World :=
  if m.isEnabled && f.setpoints.isNone then (f.zero w).2 else (f, w)

/-- Holds the arm where it is, if its motor draws too much. -/
def guardArm (f : FloorIntake) (w : World) : Bool × FloorIntake × World :=
  let amps := f.arm.current
  let here := f.rotations
  let w := (w.tell (.number "Arm Current" amps)).tell (.number "Arm Position" here)
  if amps ≥ f.config.maxArmCurrent then
    (true, { f with arm := f.arm.set here }, w.notice (.armOverCurrent amps))
  else (false, f, w)

/-- Lifts a gear that arrived while the arm is down. -/
def liftGear (f : FloorIntake) (w : World) : FloorIntake × World :=
  let w := w.tell (.flag "Gear?" f.gear)
  if f.gear && f.position == .floor then f.moveArm .drive w else (f, w)

/-- The safety check. -/
def check (f : FloorIntake) (w : World) : Bool × FloorIntake × World :=
  let (tripped, f, w) := f.guardArm w
  (tripped, f.liftGear w)

instance : Subsystem FloorIntake where
  Job := HangStage
  address := .gearFloor
  stamp := stamp
  cycle f := f.config.cycle
  enter m f w := .ok (.finished (), f.enter m w)
  check := check
  handle := handle
  resume stage _ f w := f.hang stage w
  attach f g := { f with arm := g.arm, roller := g.roller, sensor := g.sensor, gear := g.gear }

end FloorIntake

end MatchRobot
