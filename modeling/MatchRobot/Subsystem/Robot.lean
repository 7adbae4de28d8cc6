import MatchRobot.Subsystem.Autonomous
import MatchRobot.Subsystem.Climber
import MatchRobot.Subsystem.Drivetrain
import MatchRobot.Subsystem.FloorIntake
import MatchRobot.Subsystem.GearIntake
import MatchRobot.Subsystem.Hopper

/-!
# The robot

A robot consists of six parts, each of which is a subsystem with a number of its cycles. `Part.State`
gives the state of a part, so that what holds of every subsystem can be said of every part at once.

The second half is the view from outside: the motors by their names, and the hardware of a part.
-/

namespace MatchRobot

/-- A part of the robot. -/
inductive Part
  | drivetrain
  | autonomous
  | climber
  | hopper
  | gearIntake
  | gearFloor
  deriving Repr, DecidableEq

namespace Part

/-- The state of a part. -/
abbrev State : Part → Type
  | drivetrain => Drivetrain
  | autonomous => Autonomous
  | climber => Climber
  | hopper => Hopper
  | gearIntake => GearIntake
  | gearFloor => FloorIntake

/-- Every part is a subsystem. -/
instance subsystem : (p : Part) → Subsystem p.State
  | drivetrain => inferInstanceAs (Subsystem Drivetrain)
  | autonomous => inferInstanceAs (Subsystem Autonomous)
  | climber => inferInstanceAs (Subsystem Climber)
  | hopper => inferInstanceAs (Subsystem Hopper)
  | gearIntake => inferInstanceAs (Subsystem GearIntake)
  | gearFloor => inferInstanceAs (Subsystem FloorIntake)

/-- The jobs of a part. -/
abbrev Job (p : Part) : Type :=
  Subsystem.Job p.State

/-- The mailbox of a part. -/
def address (p : Part) : Address :=
  Subsystem.address p.State

/-- The part that owns a mailbox; nobody owns that of the replies. -/
def ofAddress? : Address → Option Part
  | .drivetrain => some drivetrain
  | .autonomous => some autonomous
  | .autoParser => none
  | .climber => some climber
  | .hopper => some hopper
  | .gearIntake => some gearIntake
  | .gearFloor => some gearFloor

@[simp] theorem ofAddress?_address (p : Part) : ofAddress? p.address = some p := by
  cases p <;> rfl

end Part

/-- The parts of a robot, with the numbers of their cycles. -/
structure Robot where
  drivetrain : Runner Drivetrain
  autonomous : Runner Autonomous
  climber : Runner Climber
  hopper : Runner Hopper
  gearIntake : Runner GearIntake
  gearFloor : Runner FloorIntake

namespace Robot

/-- A part of the robot. -/
def get (r : Robot) : (p : Part) → Runner p.State
  | .drivetrain => r.drivetrain
  | .autonomous => r.autonomous
  | .climber => r.climber
  | .hopper => r.hopper
  | .gearIntake => r.gearIntake
  | .gearFloor => r.gearFloor

/-- The robot with another state of one part. -/
def set (r : Robot) : (p : Part) → Runner p.State → Robot
  | .drivetrain, x => { r with drivetrain := x }
  | .autonomous, x => { r with autonomous := x }
  | .climber, x => { r with climber := x }
  | .hopper, x => { r with hopper := x }
  | .gearIntake, x => { r with gearIntake := x }
  | .gearFloor, x => { r with gearFloor := x }

@[simp] theorem get_set (r : Robot) (p : Part) (x : Runner p.State) : (r.set p x).get p = x := by
  cases p <;> rfl

theorem get_set_of_ne (r : Robot) {p q : Part} (h : p ≠ q) (x : Runner p.State) :
    (r.set p x).get q = r.get q := by
  cases p <;> cases q <;> simp_all [get, set]

end Robot

/-- The motors that are not on the chassis. -/
inductive MotorName
  | firstClimber
  | secondClimber
  | hopper
  | gripper
  | arm
  | roller
  deriving Repr, DecidableEq

/-- What an onlooker sees of the hardware of a part. -/
inductive Hardware
  | none
  | chassis (view : Chassis.View)
  | one (motor : Motor)
  | two (first second : Motor)

namespace Robot

/-- Makes a motor draw a current. -/
def draw (r : Robot) (motor : MotorName) (amps : Float32) : Robot :=
  match motor with
  | .firstClimber =>
    { r with climber := r.climber.modify fun c => { c with first := c.first.draw amps } }
  | .secondClimber =>
    { r with climber := r.climber.modify fun c => { c with second := c.second.draw amps } }
  | .hopper => { r with hopper := r.hopper.modify fun h => { h with motor := h.motor.draw amps } }
  | .gripper =>
    { r with gearIntake := r.gearIntake.modify fun g => { g with motor := g.motor.draw amps } }
  | .arm => { r with gearFloor := r.gearFloor.modify fun f => { f with arm := f.arm.draw amps } }
  | .roller =>
    { r with gearFloor := r.gearFloor.modify fun f => { f with roller := f.roller.draw amps } }

/-- Sets what the arm sensor shows. -/
def turnArm (r : Robot) (counts : Int32) : Robot :=
  { r with gearFloor := r.gearFloor.modify fun f => { f with sensor := counts } }

/-- Presses or frees the gear switch. -/
def pressGear (r : Robot) (closed : Bool) : Robot :=
  { r with gearFloor := r.gearFloor.modify fun f => { f with gear := closed } }

/-- Sets what the range finder shows. -/
def standBack (r : Robot) (inches : Float32) : Robot :=
  { r with drivetrain := r.drivetrain.modify fun d => { d with range := inches } }

/-- Looks at the hardware of a part. -/
def look (r : Robot) (now : Micros) : Part → Hardware × Robot
  | .drivetrain =>
    let (view, c) := r.drivetrain.subsystem.chassis.look now
    (.chassis view, { r with drivetrain := r.drivetrain.modify fun d => { d with chassis := c } })
  | .autonomous => (.none, r)
  | .climber => (.two r.climber.subsystem.first r.climber.subsystem.second, r)
  | .hopper => (.one r.hopper.subsystem.motor, r)
  | .gearIntake => (.one r.gearIntake.subsystem.motor, r)
  | .gearFloor => (.two r.gearFloor.subsystem.arm r.gearFloor.subsystem.roller, r)

end Robot

end MatchRobot
