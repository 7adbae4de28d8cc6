import MatchRobot.Settings

/-!
# Positions of the arm

The arm of the floor intake swings between the floor, a stowed drive position and the position that
releases a gear on the peg. Where these are is known once the arm has been zeroed: its angle at that
moment is the drive position, and the other two stand at fixed offsets from it.
-/

namespace MatchRobot

/-- A position of the arm. -/
inductive ArmPosition
  | unknown
  | floor
  | drive
  | release
  deriving Repr, DecidableEq

namespace ArmPosition

/-- One step up, toward the release position. -/
def next : ArmPosition → ArmPosition
  | floor => drive
  | drive | release => release
  | unknown => drive

/-- One step down, toward the floor. -/
def previous : ArmPosition → ArmPosition
  | floor | drive => floor
  | release => drive
  | unknown => drive

/-- The name of a position on the dashboard. -/
def label : ArmPosition → String
  | unknown => "UNKNOWN"
  | floor => "INTAKE POS (0)"
  | drive => "DRIVE POS (1)"
  | release => "SCORE POS (2)"

end ArmPosition

/-- The positions of the arm in rotations of its sensor. -/
structure ArmSetpoints where
  floor : Float32
  drive : Float32
  release : Float32

namespace ArmSetpoints

/-- The setpoints that belong to a drive position. -/
def ofDrive (config : ArmConfig) (drive : Float32) : ArmSetpoints :=
  ⟨drive + config.floorOffset, drive, drive + config.releaseOffset⟩

/-- The setpoint of a position; the unknown position has none. -/
def get? (s : ArmSetpoints) : ArmPosition → Option Float32
  | .floor => some s.floor
  | .drive => some s.drive
  | .release => some s.release
  | .unknown => none

/-- The setpoint of a position is the one of that name. -/
theorem get?_eq_some {s : ArmSetpoints} {p : ArmPosition} {x : Float32} (h : s.get? p = some x) :
    p = .floor ∧ x = s.floor ∨ p = .drive ∧ x = s.drive ∨ p = .release ∧ x = s.release := by
  cases p with
  | unknown => cases h
  | floor | drive | release => simpa [get?, eq_comm] using h

end ArmSetpoints

end MatchRobot
