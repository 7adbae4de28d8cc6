import MatchRobot.Settings
import MatchRobot.Device.Motor

/-!
# The chassis

Two motors, two encoders and a gyro on one frame. The model of the frame moves only when somebody
looks at it: each access first integrates the motion since the previous access, at the outputs that
stood in between. The first access of all only sets the time.

The left motor is mounted the other way round, so it drives forward on negative outputs and its
encoder counts down. A positive heading rate turns toward the right.

Reads return the chassis too, because a read is an access.
-/

namespace MatchRobot

/-- A side of the chassis. -/
inductive Side
  | left
  | right
  deriving Repr, DecidableEq

/-- A pair of values, one for each side. -/
structure Sides (α : Type) where
  left : α
  right : α
  deriving Repr, DecidableEq

namespace Sides

/-- The value of one side. -/
def get {α : Type} (s : Sides α) : Side → α
  | .left => s.left
  | .right => s.right

/-- The pair with another value on one side. -/
def set {α : Type} (s : Sides α) (side : Side) (a : α) : Sides α :=
  match side with
  | .left => { s with left := a }
  | .right => { s with right := a }

end Sides

/-- The state of the chassis. -/
structure Chassis where
  config : ChassisConfig := {}
  output : Sides Float32 := ⟨0, 0⟩
  mode : Sides ControlMode := ⟨.percent, .percent⟩
  /-- Counts that each side has rolled forward. -/
  counts : Sides Float32 := ⟨0, 0⟩
  /-- Degrees turned since power-on. -/
  heading : Float32 := 0
  /-- The heading that the gyro calls zero. -/
  headingZero : Float32 := 0
  /-- Degrees per second. -/
  rate : Float32 := 0
  /-- The time of the last access. -/
  last : Option Micros := none

namespace Chassis

/-- The share of full output that a motor runs at. -/
def fraction (c : Chassis) (side : Side) : Float32 :=
  let x := match c.mode.get side with
    | .velocity => c.output.get side / c.config.fullSpeed
    | _ => c.output.get side
  Single.clamp (-1) 1 x

/-- Moves the chassis for a span of time at its present outputs. -/
def move (c : Chassis) (span : Micros) : Chassis :=
  let dt := Single.ofCount span / 1000000
  let left := -(c.fraction .left)
  let right := c.fraction .right
  let rate := (left - right) * c.config.degreesPerSecond
  { c with
    counts := ⟨c.counts.left + left * c.config.countsPerSecond * dt,
      c.counts.right + right * c.config.countsPerSecond * dt⟩
    rate := rate
    heading := c.heading + rate * dt }

/-- An access at a time: the chassis moves up to then. -/
def touch (c : Chassis) (now : Micros) : Chassis :=
  match c.last with
  | none => { c with last := some now }
  | some last => { c.move (now - last) with last := some now }

/-! ### Motors -/

/-- Writes the output of one side. -/
def setOutput (c : Chassis) (now : Micros) (side : Side) (x : Float32) : Chassis :=
  let c := c.touch now
  { c with output := c.output.set side x }

/-- Changes the meaning of the output of one side. -/
def setMode (c : Chassis) (now : Micros) (side : Side) (mode : ControlMode) : Chassis :=
  let c := c.touch now
  { c with mode := c.mode.set side mode }

/-- The output last written on one side. -/
def readOutput (c : Chassis) (now : Micros) (side : Side) : Float32 × Chassis :=
  let c := c.touch now
  (c.output.get side, c)

/-- The meaning of the output of one side. -/
def readMode (c : Chassis) (now : Micros) (side : Side) : ControlMode × Chassis :=
  let c := c.touch now
  (c.mode.get side, c)

/-! ### Encoders -/

/-- The counts that the encoder of one side shows, in the direction of its motor. -/
def readEncoder (c : Chassis) (now : Micros) (side : Side) : Int32 × Chassis :=
  let c := c.touch now
  match side with
  | .left => (Single.toInt32 (-c.counts.left), c)
  | .right => (Single.toInt32 c.counts.right, c)

/-- Makes the encoder of one side show the given counts. -/
def setEncoder (c : Chassis) (now : Micros) (side : Side) (n : Int32) : Chassis :=
  let c := c.touch now
  match side with
  | .left => { c with counts := c.counts.set .left (Single.ofInt32 (-n)) }
  | .right => { c with counts := c.counts.set .right (Single.ofInt32 n) }

/-! ### Gyro -/

/-- The heading since the gyro was zeroed. -/
def readAngle (c : Chassis) (now : Micros) : Float32 × Chassis :=
  let c := c.touch now
  (c.heading - c.headingZero, c)

/-- Degrees per second. -/
def readRate (c : Chassis) (now : Micros) : Float32 × Chassis :=
  let c := c.touch now
  (c.rate, c)

/-- Takes the present heading as zero. -/
def zeroGyro (c : Chassis) (now : Micros) : Chassis :=
  let c := c.touch now
  { c with headingZero := c.heading }

/-! ### The view from outside -/

/-- What an onlooker sees of the chassis. -/
structure View where
  output : Sides Float32
  mode : Sides ControlMode
  counts : Sides Float32
  heading : Float32

/-- Looks at both outputs, both modes, both counts and the heading, one after the other. -/
def look (c : Chassis) (now : Micros) : View × Chassis :=
  let c := (List.range 7).foldl (fun c _ => c.touch now) c
  (⟨c.output, c.mode, c.counts, c.heading⟩, c)

@[simp] theorem output_touch (c : Chassis) (now : Micros) : (c.touch now).output = c.output := by
  unfold touch move
  split <;> rfl

@[simp] theorem mode_touch (c : Chassis) (now : Micros) : (c.touch now).mode = c.mode := by
  unfold touch move
  split <;> rfl

end Chassis

end MatchRobot
