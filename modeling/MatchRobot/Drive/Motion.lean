import MatchRobot.Device.Chassis

/-!
# Motion sessions

A session is made when a move or a turn is accepted, and turns its goal into encoder counts or gyro
degrees once and for all. Each `step` looks at the sensors and decides the next outputs, or that the
session is over; the drivetrain owns the timing.

A straight drive steers against the drift of the heading. Its target in counts is shortened by the
distance that the robot coasts, but never by more than half. A turn runs both motors at one output,
never weaker than the minimum that overcomes static friction.
-/

namespace MatchRobot

/-- Outputs for both motors. -/
abbrev WheelOutputs := Sides Float32

namespace WheelOutputs

/-- Both motors at rest. -/
def stop : WheelOutputs :=
  ⟨0, 0⟩

/-- Both outputs times a factor. -/
def scaled (w : WheelOutputs) (k : Float32) : WheelOutputs :=
  ⟨w.left * k, w.right * k⟩

end WheelOutputs

/-- Why a session ended. -/
inductive MoveEnd
  | reached
  | timedOut
  /-- The robot left autonomous before the goal or the deadline. -/
  | cancelled
  deriving Repr, DecidableEq

/-- What a session asks for next. -/
inductive Step (α : Type)
  | drive (outputs : α)
  | finished (why : MoveEnd)

namespace Motion

/-- Encoder counts of a distance in inches. -/
def inchesToCounts (config : DriveConfig) (inches : Float32) : Float32 :=
  inches / (Single.pi * config.wheelDiameter) * config.countsPerRev

/-- Shortens a target in counts by the distance that the robot coasts after its motors stop, but
never by more than half. -/
def coastCompensated (config : DriveConfig) (target speed : Float32) : Float32 :=
  let coast := Single.least (inchesToCounts config (speed * config.coastPerSpeed).abs)
    (target.abs / 2)
  if target > 0 then target - coast
  else if target < 0 then target + coast
  else 0

/-- The steering offset that pulls a heading back to its reference. -/
def headingCorrection (heading reference divisor : Float32) : Float32 :=
  (heading - reference) / divisor

/-- The outputs of a straight drive with a steering offset. -/
def straightOutputs (speed offset : Float32) : WheelOutputs :=
  ⟨-(speed - offset), speed + offset⟩

/-- The output that turns a heading error away, never weaker than `minimum`. -/
def turnOutput (error minimum : Float32) : Float32 :=
  let output := error / 180
  if output > 0 && output < minimum then minimum
  else if output < 0 && output > -minimum then -minimum
  else output

end Motion

/-- What a straight drive is aiming for. -/
inductive StraightGoal
  /-- Travel so many inches. -/
  | distance (inches : Float32)
  /-- Stop so many inches short of whatever the range finder sees. -/
  | standOff (range standoff : Float32)
  /-- Drive until the deadline. -/
  | timed

/-- A straight drive under way. -/
structure StraightDrive where
  speed : Float32
  /-- Counts to travel; a purely timed drive has no target. -/
  target : Option Float32
  headingReference : Float32
  deadline : Micros

namespace StraightDrive

/-- The target of a goal in counts, before the coast is taken off. -/
def goalCounts (config : DriveConfig) : StraightGoal → Option Float32
  | .distance inches => some (Motion.inchesToCounts config inches)
  | .standOff range standoff => some (Motion.inchesToCounts config (range - standoff))
  | .timed => none

/-- Starts a straight drive toward a goal. -/
def start (config : DriveConfig) (speed : Float32) (goal : StraightGoal) (timeout now : Micros) :
    Except Fault StraightDrive := do
  let deadline ← Clock.after now timeout
  return {
    speed := speed
    target := (goalCounts config goal).map fun counts =>
      Motion.coastCompensated config counts speed
    headingReference := 0
    deadline := deadline }

/-- Whether the encoder has reached the target. -/
def isReached (s : StraightDrive) (encoder : Int32) : Bool :=
  match s.target with
  | some target => (Single.ofInt32 encoder).abs ≥ target.abs
  | none => false

/-- One look at the sensors: leaving autonomous comes before the deadline and that before the
target. -/
def step (s : StraightDrive) (config : DriveConfig) (now : Micros) (inAuto : Bool)
    (encoder : Int32) (heading : Float32) : Step WheelOutputs :=
  if !inAuto then .finished .cancelled
  else if s.deadline ≤ now then .finished .timedOut
  else if s.isReached encoder then .finished .reached
  else .drive (Motion.straightOutputs s.speed
    (Motion.headingCorrection heading s.headingReference config.headingDivisor))

end StraightDrive

/-- A turn under way. -/
structure Turn where
  target : Float32
  deadline : Micros

namespace Turn

/-- Starts a turn to an angle. -/
def start (angle : Float32) (timeout now : Micros) : Except Fault Turn := do
  let deadline ← Clock.after now timeout
  return ⟨angle, deadline⟩

/-- One look at the sensors: reaching the angle comes before leaving autonomous and that before the
deadline. The output is meant for both motors, which spins the robot. -/
def step (t : Turn) (config : DriveConfig) (now : Micros) (inAuto : Bool) (heading : Float32) :
    Step Float32 :=
  let error := heading - t.target
  if error.abs ≤ config.turnDeadBand then .finished .reached
  else if !inAuto then .finished .cancelled
  else if t.deadline ≤ now then .finished .timedOut
  else .drive (Motion.turnOutput error config.minimumTurnSpeed)

end Turn

/-- The session of a drivetrain, of which there is at most one. -/
inductive Session
  | idle
  | straight (drive : StraightDrive)
  | turning (turn : Turn)

/-- Whether no session is under way. -/
def Session.isIdle : Session → Bool
  | .idle => true
  | _ => false

end MatchRobot
