import MatchRobot.Clock
import MatchRobot.Settings

/-!
# The steering filter

The filter mixes steering, throttle and quickturn into voltages for the two sides. Steering goes
through a sine remap and a term that resists sudden changes of direction; a quick-stop accumulator
bleeds off the rotation that built up while quickturning.

The filter is fed in every cycle, whether its output is used or not, so that its accumulators follow
the driver and nothing jumps when the output is enabled again. Positive steering turns right.
-/

namespace MatchRobot

/-- What the driver asks for. -/
structure DriveGoal where
  steering : Float32 := 0
  throttle : Float32 := 0
  quickturn : Bool := false

/-- Where the drivetrain stands: meters, radians and volts. -/
structure DrivePosition where
  leftEncoder : Float32 := 0
  rightEncoder : Float32 := 0
  gyroAngle : Float32 := 0
  gyroVelocity : Float32 := 0
  battery : Float32 := Settings.nominalBattery

/-- Voltages for the two sides. -/
structure DriveOutput where
  left : Float32
  right : Float32

/-- What the filter reports about its last update. -/
structure DriveStatus where
  /-- Meters per update, averaged over both sides. -/
  speed : Float32 := 0
  filteredLeft : Float32 := 0
  filteredRight : Float32 := 0
  uncappedLeft : Float32 := 0
  uncappedRight : Float32 := 0
  capped : Bool := false

/-- The memory of the filter. -/
structure Steering where
  previous : Float32 := 0
  negInertia : Float32 := 0
  quickStop : Float32 := 0
  status : DriveStatus := {}
  /-- Whether the position filter has seen a first position. -/
  primed : Bool := false

namespace Steering

/-! ### Constants of the filter -/

/-- Sticks below this magnitude count as released. -/
def deadBand : Float32 := 0.02

/-- How far the sine remap bends the steering. -/
def nonlinearity : Float32 := 0.65

/-- How strongly a change of steering is answered. -/
def negInertiaScalar : Float32 := 4

/-- How strongly steering acts at full throttle. -/
def sensitivity : Float32 := 1

/-- Below this throttle a quickturn charges the quick stop. -/
def quickStopThrottle : Float32 := 0.2

/-- The share of a new sample in the quick stop. -/
def quickStopWeight : Float32 := 0.1

/-- How strongly a quickturn charges the quick stop. -/
def quickStopScalar : Float32 := 5

/-- The share of a new sample in the filtered positions. -/
def positionWeight : Float32 := 0.5

/-! ### The parts of an update -/

/-- Drops what is too small to be meant. -/
def quiet (x : Float32) : Float32 :=
  if x.abs < deadBand then 0 else x

/-- The angle of the sine remap at full steering. -/
def remapAngle : Float32 :=
  Single.pi / 2 * nonlinearity

/-- One bend of the sine remap. -/
def bend (x : Float32) : Float32 :=
  (remapAngle * x).sin / remapAngle.sin

/-- The sine remap, which bends twice. -/
def remap (steering : Float32) : Float32 :=
  bend (bend steering)

/-- Moves an accumulator one unit toward zero, and to zero from inside the unit band. -/
def decay (x : Float32) : Float32 :=
  if x > 1 then x - 1 else if x < -1 then x + 1 else 0

/-- The quick stop after a cycle of quickturning. -/
def charge (quickStop throttle steer : Float32) : Float32 :=
  if throttle.abs < quickStopThrottle then
    (1 - quickStopWeight) * quickStop
      + quickStopWeight * Single.clamp (-1) 1 steer * quickStopScalar
  else quickStop

/-- Limits the sides to full output; what one side has in excess goes to the other one, times
`overPower`. -/
def limit (overPower left right : Float32) : Float32 × Float32 :=
  if left > 1 then (1, right - overPower * (left - 1))
  else if right > 1 then (left - overPower * (right - 1), 1)
  else if left < -1 then (-1, right + overPower * (-1 - left))
  else if right < -1 then (left + overPower * (-1 - right), -1)
  else (left, right)

/-- The accumulators after a goal, and the outputs of the two sides before they meet the battery, under
any remap of the steering. -/
def mix (s : Steering) (curve : Float32 → Float32) (goal : DriveGoal) :
    Steering × Float32 × Float32 :=
  let steering := quiet (Single.clamp (-1) 1 goal.steering)
  let throttle := quiet (Single.clamp (-1) 1 goal.throttle)
  let inertia := s.negInertia + (steering - s.previous) * negInertiaScalar
  let steer := curve steering + inertia
  let s := { s with previous := steering, negInertia := decay inertia }
  let (angular, overPower, quickStop) :=
    if goal.quickturn then (steer, 1, charge s.quickStop throttle steer)
    else (throttle.abs * steer * sensitivity - s.quickStop, 0, decay s.quickStop)
  let (left, right) := limit overPower (throttle + angular) (throttle - angular)
  ({ s with quickStop := quickStop }, left, right)

/-- The report after an update. -/
def report (s : Steering) (position : DrivePosition) (uncappedLeft uncappedRight : Float32)
    (output : DriveOutput) : DriveStatus :=
  let oldLeft := if s.primed then s.status.filteredLeft else position.leftEncoder
  let oldRight := if s.primed then s.status.filteredRight else position.rightEncoder
  let left := oldLeft + positionWeight * (position.leftEncoder - oldLeft)
  let right := oldRight + positionWeight * (position.rightEncoder - oldRight)
  { speed := ((left - oldLeft) + (right - oldRight)) / 2
    filteredLeft := left
    filteredRight := right
    uncappedLeft := uncappedLeft
    uncappedRight := uncappedRight
    capped := uncappedLeft != output.left || uncappedRight != output.right }

/-- One update under any remap of the steering. The voltages are limited to what the battery has, so
a battery voltage that is negative or `NaN` is a fault. -/
def updateBy (s : Steering) (curve : Float32 → Float32) (goal : DriveGoal)
    (position : DrivePosition) : Except Fault (DriveOutput × Steering) :=
  let (s, left, right) := s.mix curve goal
  let battery := position.battery
  if Single.clampable (-battery) battery then
    let uncappedLeft := left * battery
    let uncappedRight := right * battery
    let output : DriveOutput :=
      ⟨Single.clamp (-battery) battery uncappedLeft, Single.clamp (-battery) battery uncappedRight⟩
    .ok (output,
      { s with status := s.report position uncappedLeft uncappedRight output, primed := true })
  else .error .emptyInterval

/-- One update, with the sine remap. -/
def update (s : Steering) (goal : DriveGoal) (position : DrivePosition) :
    Except Fault (DriveOutput × Steering) :=
  s.updateBy remap goal position

end Steering

end MatchRobot
