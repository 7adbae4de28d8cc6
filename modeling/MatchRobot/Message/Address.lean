/-!
# Addresses

Every task owns exactly one mailbox, and an `Address` names it. The script interpreter has a mailbox
of its own for the replies to its calls, so one task reads two of them.
-/

namespace MatchRobot

/-- The name of a mailbox. -/
inductive Address
  | drivetrain
  | autonomous
  /-- Replies to the synchronous calls of a script. -/
  | autoParser
  | climber
  | hopper
  | gearIntake
  | gearFloor
  deriving Repr, DecidableEq, Inhabited

namespace Address

/-- All addresses, in the order of their numbers. -/
def all : List Address :=
  [drivetrain, autonomous, autoParser, climber, hopper, gearIntake, gearFloor]

/-- The tasks that have to hear of every change of mode, in the order in which they are told. -/
def tasks : List Address :=
  [autonomous, drivetrain, climber, hopper, gearIntake, gearFloor]

/-- The number of an address. -/
def index : Address → Fin 7
  | drivetrain => 0
  | autonomous => 1
  | autoParser => 2
  | climber => 3
  | hopper => 4
  | gearIntake => 5
  | gearFloor => 6

/-- The address with a number; numbers that are too large mean the last one. -/
def ofIndex (n : Nat) : Address :=
  all.getD n gearFloor

/-- The name of the mailbox in log messages. -/
def path : Address → String
  | drivetrain => "/tmp/qDrive"
  | autonomous => "/tmp/qAuto"
  | autoParser => "/tmp/qParse"
  | climber => "/tmp/qClimber"
  | hopper => "/tmp/qHopper"
  | gearIntake => "/tmp/qGearIntake"
  | gearFloor => "/tmp/qGearFloor"

@[simp] theorem ofIndex_index (a : Address) : ofIndex a.index = a := by
  cases a <;> rfl

theorem index_inj {a b : Address} : a.index = b.index ↔ a = b := by
  cases a <;> cases b <;> decide

/-- Every address but that of the replies belongs to a task that hears of mode changes. -/
theorem mem_tasks {a : Address} : a ∈ tasks ↔ a ≠ autoParser := by
  cases a <;> decide

end Address

end MatchRobot
