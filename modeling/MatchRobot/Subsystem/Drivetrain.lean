import MatchRobot.Device.Chassis
import MatchRobot.Drive.Motion
import MatchRobot.Drive.Steering
import MatchRobot.Subsystem.Basic

/-!
# The drivetrain

Owns both drive motors, the encoders, the gyro and the range finder. Manual commands write the motors
directly or go through the steering filter. Measured moves, proximity moves and turns run their session
to its end inside one cycle, so nothing else is read from the mailbox meanwhile. Timed moves advance by
one step in each quiet cycle instead.

A move first zeroes the encoders, in a bounded number of attempts; a proximity move then lets the range
finder settle. These are the stages of a `Drivetrain.Job`, before the session itself is driven.

All of this happens at one instant between two waits, so each function takes that instant from the
world. Every look at the chassis is an access to it.
-/

namespace MatchRobot

/-- How the encoders behave. -/
inductive EncoderKind
  /-- They count the motion of the chassis. -/
  | working
  /-- They show the given count on the right, its negative on the left, and cannot be set. -/
  | stuck (count : Int32)

/-- The drivetrain. -/
structure Drivetrain where
  chassis : Chassis := {}
  encoders : EncoderKind := .working
  /-- Inches that the range finder shows. -/
  range : Float32 := 0
  config : DriveConfig := {}
  steering : Steering := {}
  goal : DriveGoal := {}
  session : Session := .idle
  battery : Float32 := Settings.nominalBattery

namespace Drivetrain

/-- The name of the drivetrain in log messages. -/
def stamp : String := "[DRIVETRAIN]"

/-- Meters of an inch. -/
def metersPerInch : Float32 := 0.0254

/-- A move or a turn under way. -/
inductive Job
  /-- An attempt to zero the encoders failed; `attempts` are left. -/
  | zeroing (attempts : Nat) (params : MoveParams) (proximity : Bool)
  /-- The range finder settles before a proximity move. -/
  | settling (params : MoveParams)
  | driving (drive : StraightDrive)
  | turning (turn : Turn)

/-! ### Devices -/

/-- Reads the encoder of one side. -/
def readEncoder (d : Drivetrain) (now : Micros) (side : Side) : Int32 × Drivetrain :=
  match d.encoders with
  | .working =>
    let (n, c) := d.chassis.readEncoder now side
    (n, { d with chassis := c })
  | .stuck n => (match side with | .left => -n | .right => n, d)

/-- Makes the encoder of one side show zero. -/
def zeroEncoder (d : Drivetrain) (now : Micros) (side : Side) : Drivetrain :=
  match d.encoders with
  | .working => { d with chassis := d.chassis.setEncoder now side 0 }
  | .stuck _ => d

/-- Reads the heading since the gyro was zeroed. -/
def readAngle (d : Drivetrain) (now : Micros) : Float32 × Drivetrain :=
  let (x, c) := d.chassis.readAngle now
  (x, { d with chassis := c })

/-- Takes the present heading as zero. -/
def zeroGyro (d : Drivetrain) (now : Micros) : Drivetrain :=
  { d with chassis := d.chassis.zeroGyro now }

/-- Changes the meaning of the outputs. -/
def setMode (d : Drivetrain) (now : Micros) (mode : ControlMode) : Drivetrain :=
  { d with chassis := (d.chassis.setMode now .left mode).setMode now .right mode }

/-- Writes both motors. -/
def drive (d : Drivetrain) (now : Micros) (w : WheelOutputs) : Drivetrain :=
  { d with chassis := (d.chassis.setOutput now .left w.left).setOutput now .right w.right }

/-- Stops both motors, clears their faults and stops them once more. -/
def stopMotors (d : Drivetrain) (now : Micros) : Drivetrain :=
  (d.drive now .stop).drive now .stop

/-- The factor from an output between `-1` and `1` to what the motors expect at present. -/
def outputScale (d : Drivetrain) (now : Micros) : Float32 × Drivetrain :=
  let (mode, c) := d.chassis.readMode now .left
  let scale := match mode with
    | .velocity => d.config.fullSpeed * d.battery / Settings.nominalBattery
    | _ => 1
  (scale, { d with chassis := c })

/-- Writes outputs between `-1` and `1`. -/
def driveScaled (d : Drivetrain) (now : Micros) (w : WheelOutputs) : Drivetrain :=
  let (k, d) := d.outputScale now
  d.drive now (w.scaled k)

/-! ### Position and steering filter -/

/-- Inches of encoder counts. -/
def inches (config : DriveConfig) (counts : Int32) : Float32 :=
  Single.ofInt32 counts / config.countsPerRev * Single.pi * config.wheelDiameter

/-- Where the drivetrain stands. -/
def position (d : Drivetrain) (now : Micros) : DrivePosition × Drivetrain :=
  let (left, d) := d.readEncoder now .left
  let (right, d) := d.readEncoder now .right
  let (angle, c) := d.chassis.readAngle now
  let (rate, c) := c.readRate now
  ({ leftEncoder := inches d.config (-left) * metersPerInch
     rightEncoder := inches d.config right * metersPerInch
     gyroAngle := Single.radians angle
     gyroVelocity := Single.radians rate
     battery := d.battery }, { d with chassis := c })

/-- The outputs that belong to the voltages of the steering filter. -/
def ofVoltages (o : DriveOutput) : WheelOutputs :=
  ⟨-o.left / Settings.nominalBattery, o.right / Settings.nominalBattery⟩

/-- Feeds the steering filter, and writes its outputs only on request. -/
def steer (d : Drivetrain) (now : Micros) (write : Bool) : Except Fault Drivetrain := do
  let (p, d) := d.position now
  let (o, steering) ← d.steering.update d.goal p
  let d := { d with steering := steering }
  return if write then d.drive now (ofVoltages o) else d

/-! ### Sessions -/

/-- Ends a session: the motors stop, and the reply says whether the robot stayed in autonomous. -/
def finish (d : Drivetrain) (now : Micros) (why : MoveEnd) : Reply × Drivetrain :=
  (match why with
    | .reached | .timedOut => .ok
    | .cancelled => .error,
   { d.stopMotors now with session := .idle })

/-- One look at the sensors during a straight drive. -/
def straightStep (d : Drivetrain) (s : StraightDrive) (w : World) :
    Step WheelOutputs × Drivetrain :=
  let (encoder, d) := d.readEncoder w.now .right
  let (angle, d) := d.readAngle w.now
  (s.step d.config w.now w.mode.inAuto encoder angle, d)

/-- Sleeps until the next look at the sensors. -/
def iterate (d : Drivetrain) (job : Job) (w : World) :
    Except Fault (Stage Job Reply Drivetrain) := do
  let wait ← Wait.sleepFor w.now d.config.iteratePeriod
  return (.waiting wait job, d, w)

/-- Goes on with a straight drive. -/
def driveOn (d : Drivetrain) (s : StraightDrive) (w : World) :
    Except Fault (Stage Job Reply Drivetrain) :=
  let (step, d) := d.straightStep s w
  match step with
  | .drive outputs => (d.driveScaled w.now outputs).iterate (.driving s) w
  | .finished why =>
    let (travelled, d) := d.readEncoder w.now .right
    let w := w.notice (.straightEnded why travelled s.target)
    let (reply, d) := d.finish w.now why
    .ok (replied reply d w)

/-- Goes on with a turn. -/
def turnOn (d : Drivetrain) (t : Turn) (w : World) : Except Fault (Stage Job Reply Drivetrain) :=
  let (angle, d) := d.readAngle w.now
  match t.step d.config w.now w.mode.inAuto angle with
  | .drive output =>
    let (k, d) := d.outputScale w.now
    (d.drive w.now ⟨output * k, output * k⟩).iterate (.turning t) w
  | .finished why =>
    let (angle, d) := d.readAngle w.now
    let w := w.notice (.turnEnded why angle)
    let (reply, d) := d.finish w.now why
    .ok (replied reply d w)

/-- Starts the session of a straight drive toward a goal. -/
def startStraight (d : Drivetrain) (params : MoveParams) (goal : StraightGoal) (w : World) :
    Except Fault (Stage Job Reply Drivetrain) := do
  let s ← StraightDrive.start d.config params.speed goal (Clock.seconds params.timeout) w.now
  { d with session := .straight s }.driveOn s w

/-- Gives a move up whose encoders cannot be zeroed. -/
def refuseMove (d : Drivetrain) (w : World) : Stage Job Reply Drivetrain :=
  let w := w.notice .encodersNotZero
  replied .error { d.stopMotors w.now with session := .idle } (w.status "move error")

/-- Starts a move whose encoders stand at zero. -/
def startMove (d : Drivetrain) (params : MoveParams) (proximity : Bool) (w : World) :
    Except Fault (Stage Job Reply Drivetrain) :=
  let d := d.zeroGyro w.now
  if proximity then do
    let wait ← Wait.sleepFor w.now d.config.rangeSettle
    return (.waiting wait (.settling params), d, w)
  else d.startStraight params (.distance params.distance) w

/-- Samples the range finder and starts a proximity move. -/
def startProximity (d : Drivetrain) (params : MoveParams) (w : World) :
    Except Fault (Stage Job Reply Drivetrain) :=
  let w := w.notice (.rangeTaken d.range params.distance)
  d.startStraight params (.standOff d.range params.distance) w

/-- Tries to zero the encoders before a move; gives up without attempts or when autonomous ends. -/
def zeroEncoders (d : Drivetrain) (attempts : Nat) (params : MoveParams) (proximity : Bool)
    (w : World) : Except Fault (Stage Job Reply Drivetrain) :=
  match attempts with
  | 0 => .ok (d.refuseMove w)
  | attempts + 1 =>
    let d := (d.zeroEncoder w.now .left).zeroEncoder w.now .right
    let (right, d) := d.readEncoder w.now .right
    if right = 0 then d.startMove params proximity w
    else if w.mode.inAuto then d.iterate (.zeroing attempts params proximity) w
    else .ok (d.refuseMove w)

/-- Starts a turn. -/
def startTurn (d : Drivetrain) (angle timeout : Float32) (w : World) :
    Except Fault (Stage Job Reply Drivetrain) := do
  let d := d.zeroGyro w.now
  let t ← Turn.start angle (Clock.seconds timeout) w.now
  { d with session := .turning t }.turnOn t w

/-- Starts a timed move, which later cycles go on with. -/
def startTimed (d : Drivetrain) (speed time : Float32) (w : World) : Except Fault Drivetrain := do
  let d := d.zeroGyro w.now
  let s ← StraightDrive.start d.config speed .timed (Clock.seconds time) w.now
  return { d with session := .straight s }

/-- One step of a timed move, if one is under way. -/
def iterateTimed (d : Drivetrain) (w : World) : Drivetrain × World :=
  match d.session with
  | .straight s =>
    let (step, d) := d.straightStep s w
    match step with
    | .drive outputs => (d.driveScaled w.now outputs, w)
    | .finished why => ((d.finish w.now why).2, w.notice (.timedEnded why))
  | _ => (d, w)

/-- Begins a script session. -/
def beginSession (d : Drivetrain) (w : World) : Drivetrain × World :=
  let w := w.notice .sessionBegins
  let d := { d with session := .idle }
  ((d.setMode w.now .velocity).drive w.now .stop |>.zeroGyro w.now, w)

/-- Ends a script session. -/
def completeSession (d : Drivetrain) (w : World) : Drivetrain × World :=
  let w := w.notice .sessionComplete
  ({ d with session := .idle }.stopMotors w.now, w)

/-! ### Commands -/

/-- The end of a cycle: the steering filter is fed, unless a timed move is under way. -/
def settle (d : Drivetrain) (w : World) : Except Fault (Stage Job Reply Drivetrain) :=
  if d.session.isIdle then do
    let d ← d.steer w.now false
    return replied .ok d w
  else .ok (replied .ok d w)

/-- What a driver asks for on the steering filter: a quickturn cubes the wheel. -/
def goalOf (wheel throttle : Float32) (quickturn : Bool) : DriveGoal :=
  { steering := if quickturn then wheel * wheel * wheel else wheel
    throttle := throttle
    quickturn := quickturn }

/-- Obeys a drivetrain command; every one but a timed move ends the timed move before. -/
def obey (d : Drivetrain) (c : DriveCommand) (w : World) :
    Except Fault (Stage Job Reply Drivetrain) :=
  let idle := { d with session := .idle }
  match c with
  | .stop => (idle.drive w.now .stop).settle w
  | .tank left right => (idle.drive w.now ⟨left, right⟩).settle w
  | .cheesy wheel throttle quickturn => do
    let d ← { idle with goal := goalOf wheel throttle quickturn }.steer w.now w.mode.isEnabled
    return replied .ok d w
  | .autoMove left right => (idle.driveScaled w.now ⟨left, right⟩).settle w
  | .measuredMove params => idle.zeroEncoders d.config.zeroAttempts params false w
  | .proximityMove params => idle.zeroEncoders d.config.zeroAttempts params true w
  | .timedMove speed time => do
    let d ← d.startTimed speed time w
    d.settle w
  | .turn angle timeout => idle.startTurn angle timeout w

/-- Handles a command. -/
def handle (c : Command) (d : Drivetrain) (w : World) :
    Except Fault (Stage Job Reply Drivetrain) :=
  match c with
  | .drive command => d.obey command w
  | .auto .run =>
    let (d, w) := d.beginSession w
    d.settle w
  | .auto .complete =>
    let (d, w) := d.completeSession w
    d.settle w
  | .system (.constants battery) => { d with battery := battery }.settle w
  | .system .msgTimeout =>
    let (d, w) := d.iterateTimed w
    d.settle w
  | _ => d.settle w

/-- Goes on with a job. -/
def resume (job : Job) (d : Drivetrain) (w : World) : Except Fault (Stage Job Reply Drivetrain) :=
  match job with
  | .zeroing attempts params proximity => d.zeroEncoders attempts params proximity w
  | .settling params => d.startProximity params w
  | .driving s => d.driveOn s w
  | .turning t => d.turnOn t w

/-- Hears of a mode: autonomous drives by speed and zeroes the gyro, every other mode by power. -/
def enter (m : Mode) (d : Drivetrain) (w : World) : Drivetrain :=
  let d := { d with session := .idle }
  if m.inAuto then (d.setMode w.now .velocity).drive w.now .stop |>.zeroGyro w.now
  else (d.setMode w.now .percent).drive w.now .stop

/-- The safety check only reports. -/
def check (d : Drivetrain) (w : World) : Bool × Drivetrain × World :=
  let (p, d) := d.position w.now
  (false, d, w.tellAll [.number "Battery" d.battery, .number "angle" p.gyroAngle,
    .number "angle rate" p.gyroVelocity, .number "left encoder" p.leftEncoder,
    .number "right encoder" p.rightEncoder])

instance : Subsystem Drivetrain where
  Job := Job
  address := .drivetrain
  stamp := stamp
  cycle d := d.config.cycle
  enter m d w := .ok (.finished (), d.enter m w, w)
  check := check
  handle := handle
  resume job _ d w := d.resume job w
  attach d e := { d with chassis := e.chassis, encoders := e.encoders, range := e.range }

end Drivetrain

end MatchRobot
