import MatchRobot.Clock

/-!
# Settings

What is fixed for a season stands here as a constant, and what a bench needs to vary as a field
with its season value. Spans are in microseconds, distances in inches, angles in degrees.
-/

namespace MatchRobot

/-! ### Constants -/

namespace Settings

/-- The name of the robot. -/
def robotName : String := "RhsRobot2017"

/-- The nickname of the robot. -/
def nickname : String := "Unknown"

/-- The version of the control program. -/
def version : String := "0.5"

/-- The most lines a script may have. -/
def scriptCapacity : Nat := 150

/-- The most bytes a line of a script may have. -/
def lineCapacity : Nat := 160

/-- Where the robot keeps its script. -/
def scriptPath : String := "/home/lvuser/RhsScript.txt"

/-- The largest magnitude of a raw wheel speed in a script. -/
def maxVelocity : Float32 := 1

/-- The most messages that wait in one mailbox. -/
def mailboxDepth : Nat := 8

/-- The wheel speed, in the units of the motor controllers, at full output. -/
def fullSpeed : Float32 := 1422.22

/-- The battery voltage that full output refers to. -/
def nominalBattery : Float32 := 12

/-- The motor current at which a subsystem cuts its power. -/
def maxCurrent : Float32 := 40

/-- Every so many cycles a subsystem samples its motor currents. -/
def safetyInterval : Nat := 10

/-- How long a subsystem waits for a message before it runs a quiet cycle. -/
def componentCycle : Micros := 20 * Clock.millisecond

end Settings

/-! ### Settings of the subsystems -/

/-- Tuning of the drivetrain. -/
structure DriveConfig where
  countsPerRev : Float32 := 360
  wheelDiameter : Float32 := 6
  fullSpeed : Float32 := Settings.fullSpeed
  /-- Inches rolled after the motors stop, per unit of speed; targets are shortened by as much. -/
  coastPerSpeed : Float32 := 0
  headingDivisor : Float32 := 45
  turnDeadBand : Float32 := 1
  minimumTurnSpeed : Float32 := 0.25
  iteratePeriod : Micros := 5 * Clock.millisecond
  cycle : Micros := Settings.componentCycle
  /-- How often a move tries to zero the encoders before it gives up. -/
  zeroAttempts : Nat := 20
  /-- How long the range finder settles before a proximity move samples it. -/
  rangeSettle : Micros := 500 * Clock.millisecond

/-- How the first token of a script line is matched with the keywords. -/
inductive KeywordMatch
  /-- The token equals a keyword. -/
  | exact
  /-- The token starts with a keyword, as in older scripts. -/
  | leading
  deriving Repr, DecidableEq

/-- Tuning of the script interpreter. -/
structure AutoConfig where
  /-- How long a synchronous call waits for its replies; without a limit it waits for ever. -/
  replyTimeout : Option Micros := some (15 * Clock.second)
  pausePoll : Micros := 20 * Clock.millisecond
  delaySlice : Micros := 10 * Clock.millisecond
  hangSettle : Micros := Clock.second
  keywordMatch : KeywordMatch := .exact
  climberSpeed : Float32 := 1
  gearSpeed : Float32 := 0.5

/-- Tuning of the climber. -/
structure ClimberConfig where
  maxCurrent : Float32 := Settings.maxCurrent
  pulseTime : Micros := 500 * Clock.millisecond
  pulsePeriod : Micros := 5 * Clock.millisecond
  cycle : Micros := Settings.componentCycle

/-- Tuning of the gear intake. -/
structure GearIntakeConfig where
  maxCurrent : Float32 := Settings.maxCurrent
  /-- How long the motor runs before the gripper counts as fully open or closed. -/
  transitionTime : Micros := 300 * Clock.millisecond
  /-- The output that keeps tension on a gear in the closed gripper. -/
  holdTension : Float32 := 0.1
  cycle : Micros := Settings.componentCycle

/-- Tuning of the gear floor intake; the offsets are rotations from the drive position. -/
structure ArmConfig where
  floorOffset : Float32 := 1.6195
  releaseOffset : Float32 := 0.5885
  maxIntakeSpeed : Float32 := 1
  maxArmCurrent : Float32 := Settings.maxCurrent
  countsPerRotation : Float32 := 4096
  macroRollerSpeed : Float32 := 0.4
  macroRollerTime : Micros := 200 * Clock.millisecond
  macroFloorTime : Micros := 400 * Clock.millisecond
  macroReleaseTime : Micros := 100 * Clock.millisecond
  cycle : Micros := Settings.componentCycle

/-- How the model of the chassis answers to full output. -/
structure ChassisConfig where
  countsPerSecond : Float32 := 2000
  /-- Half the spin rate when the sides run at full output in opposite directions. -/
  degreesPerSecond : Float32 := 180
  /-- The speed setpoint that means full output. -/
  fullSpeed : Float32 := Settings.fullSpeed

end MatchRobot
