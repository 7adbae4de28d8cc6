import MatchRobot.Number.Single

/-!
# Motors and sensors that stand alone

A motor controller keeps the value last written to it, the meaning of that value and the current
that it measures. It also keeps a log of what was written to it, and of what that meant at the time.
Sensors are plain values: the range finder shows inches, the arm sensor counts and the gear switch
whether it is closed.
-/

namespace MatchRobot

/-- How a motor controller reads the value that is written to it. -/
inductive ControlMode
  /-- A fraction of the bus voltage. -/
  | percent
  /-- A speed in the units of the controller. -/
  | velocity
  /-- A position in rotations. -/
  | position
  deriving Repr, DecidableEq, Inhabited

/-- A motor with its controller. -/
structure Motor where
  value : Float32 := 0
  mode : ControlMode := .percent
  /-- Amperes drawn. -/
  current : Float32 := 0
  /-- The values written so far, the latest first, each with the meaning that it was given. -/
  log : List (ControlMode × Float32) := []
  deriving Inhabited

namespace Motor

/-- Writes a value. -/
def set (m : Motor) (x : Float32) : Motor :=
  { m with value := x, log := (m.mode, x) :: m.log }

/-- How many values were written. -/
def writes (m : Motor) : Nat :=
  m.log.length

/-- Writes zero. -/
def stop (m : Motor) : Motor :=
  m.set 0

/-- Changes the meaning of the value. -/
def setMode (m : Motor) (mode : ControlMode) : Motor :=
  { m with mode := mode }

/-- Sets the current that the controller measures. -/
def draw (m : Motor) (amps : Float32) : Motor :=
  { m with current := amps }

@[simp] theorem value_set (m : Motor) (x : Float32) : (m.set x).value = x := rfl

@[simp] theorem mode_set (m : Motor) (x : Float32) : (m.set x).mode = m.mode := rfl

@[simp] theorem current_set (m : Motor) (x : Float32) : (m.set x).current = m.current := rfl

@[simp] theorem log_set (m : Motor) (x : Float32) : (m.set x).log = (m.mode, x) :: m.log := rfl

@[simp] theorem writes_set (m : Motor) (x : Float32) : (m.set x).writes = m.writes + 1 := rfl

@[simp] theorem value_stop (m : Motor) : m.stop.value = 0 := rfl

@[simp] theorem value_setMode (m : Motor) (mode : ControlMode) :
    (m.setMode mode).value = m.value := rfl

@[simp] theorem mode_setMode (m : Motor) (mode : ControlMode) : (m.setMode mode).mode = mode := rfl

@[simp] theorem log_setMode (m : Motor) (mode : ControlMode) : (m.setMode mode).log = m.log := rfl

end Motor

/-- The sensors beside the chassis that belong to no motor. -/
structure Sensors where
  /-- Inches to whatever stands in front of the robot. -/
  range : Float32 := 0
  /-- Counts of the absolute arm sensor. -/
  arm : Int32 := 0
  /-- Whether a gear presses the switch behind the roller. -/
  gear : Bool := false

end MatchRobot
