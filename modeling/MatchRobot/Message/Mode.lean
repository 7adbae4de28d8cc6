/-!
# Operating modes

The driver station reports one of five operating modes. The mode flag starts as `unknown`; the
dispatcher is the only one that writes it, and motion loops read it to notice that autonomous ended.
-/

namespace MatchRobot

/-- The operating mode that the driver station reports. -/
inductive Mode
  | disabled
  | autonomous
  | teleoperated
  | test
  | unknown
  deriving Repr, DecidableEq, Inhabited

namespace Mode

/-- Whether motors may run in this mode. -/
def isEnabled : Mode → Bool
  | autonomous | teleoperated | test => true
  | disabled | unknown => false

/-- Whether this is the autonomous mode. -/
def inAuto (m : Mode) : Bool :=
  m == autonomous

/-- Whether the driver's sticks and buttons have an effect in this mode. -/
def obeysDriver : Mode → Bool
  | teleoperated | test => true
  | _ => false

/-- The name of the mode in log messages. -/
def display : Mode → String
  | disabled => "ROBOT_STATE_DISABLED"
  | autonomous => "ROBOT_STATE_AUTONOMOUS"
  | teleoperated => "ROBOT_STATE_TELEOPERATED"
  | test => "ROBOT_STATE_TEST"
  | unknown => "ROBOT_STATE_UNKNOWN"

/-- The name of the mode on the dashboard. -/
def label : Mode → String
  | disabled => "disabled"
  | autonomous => "autonomous"
  | teleoperated => "teleop"
  | test => "test"
  | unknown => "unknown"

theorem isEnabled_iff {m : Mode} :
    m.isEnabled = true ↔ m = autonomous ∨ m = teleoperated ∨ m = test := by
  cases m <;> decide

theorem obeysDriver_iff {m : Mode} : m.obeysDriver = true ↔ m = teleoperated ∨ m = test := by
  cases m <;> decide

/-- No mode but the autonomous one counts as such, and it is enabled. -/
theorem isEnabled_of_inAuto {m : Mode} (h : m.inAuto = true) : m.isEnabled = true := by
  cases m <;> first | rfl | cases h

end Mode

end MatchRobot
