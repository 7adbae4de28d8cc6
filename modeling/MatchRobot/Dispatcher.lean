import MatchRobot.Task.Broadcast

/-!
# The dispatcher

The dispatcher tracks the operating mode and turns samples of the driver's controls into commands.
Drive commands go out with every sample. Button actions are posted at the press, and held levers (the
climber, the hopper and the roller) only when what they ask for changes. A lever command that met a
full mailbox is tried again with the next sample.

A change of mode sets the flag before anyone is told, since motion loops read the flag, and forgets
what the levers asked for.
-/

namespace MatchRobot

/-- One sample of the driver's controls. -/
structure DriverInput where
  /-- Forward is positive. -/
  throttle : Float32 := 0
  /-- Right is positive. -/
  wheel : Float32 := 0
  quickturn : Bool := false
  armNext : Bool := false
  armPrevious : Bool := false
  armFloor : Bool := false
  /-- Trigger travel from zero to one. -/
  rollerIn : Float32 := 0
  rollerOut : Float32 := 0
  gearHold : Bool := false
  gearRelease : Bool := false
  climbUp : Bool := false
  climbDown : Bool := false
  hopperUp : Bool := false
  hopperDown : Bool := false
  pauseAuto : Bool := false

/-- The dispatcher, with the sample before and what each lever last asked for. -/
structure Dispatcher where
  previous : DriverInput := {}
  climber : ClimberCommand := .stop
  hopper : HopperCommand := .stop
  roller : FloorCommand := .stop

namespace Dispatcher

/-! ### Constants -/

/-- Triggers up to this travel count as released. -/
def triggerDeadBand : Float32 := 0.1

/-- The speed of climbing up. -/
def climbUpSpeed : Float32 := 1

/-- The speed of climbing down. -/
def climbDownSpeed : Float32 := 0.2

/-- The speed of the hopper. -/
def hopperSpeed : Float32 := 1

/-- The speed of the gripper. -/
def gearSpeed : Float32 := 0.5

/-! ### What a sample asks for -/

/-- The command that a sample asks of the climber. -/
def climberAsked (i : DriverInput) : ClimberCommand :=
  if i.climbUp then .up climbUpSpeed
  else if i.climbDown then .down climbDownSpeed
  else .stop

/-- The command that a sample asks of the hopper. -/
def hopperAsked (i : DriverInput) : HopperCommand :=
  if i.hopperUp then .up hopperSpeed
  else if i.hopperDown then .down hopperSpeed
  else .stop

/-- The command that a sample asks of the roller. -/
def rollerAsked (i : DriverInput) : FloorCommand :=
  if i.rollerIn > triggerDeadBand then .pullIn i.rollerIn
  else if i.rollerOut > triggerDeadBand then .pushOut i.rollerOut
  else .stop

/-- Whether a button is pressed that was not pressed before. -/
def pressed (now before : Bool) : Bool :=
  now && !before

/-- The arm action of a sample after another one, if there is one. -/
def armAction (before i : DriverInput) : Option FloorCommand :=
  if pressed i.armFloor before.armFloor then some .floorPosition
  else if pressed i.armNext before.armNext then some .nextPosition
  else if pressed i.armPrevious before.armPrevious then some .previousPosition
  else none

/-- The gripper action of a sample after another one, if there is one. -/
def gearAction (before i : DriverInput) : Option GearCommand :=
  if pressed i.gearHold before.gearHold then some (.hold gearSpeed)
  else if pressed i.gearRelease before.gearRelease then some (.release gearSpeed)
  else none

/-! ### Posting -/

/-- Posts a command; the count goes up if it found room. -/
def post (a : Address) (c : Command) (posted : Nat) (w : World) : Bool × Nat × World :=
  let (sent, w) := w.offer a { command := c }
  (sent, if sent then posted + 1 else posted, w)

/-- Posts an action, if there is one. -/
def postAction {α : Type} (a : Address) (wrap : α → Command) (action : Option α) (posted : Nat)
    (w : World) : Nat × World :=
  match action with
  | none => (posted, w)
  | some c => (post a (wrap c) posted w).2

/-- Posts what a lever asks for, if that differs from what it last asked for; the result begins with
what the lever last asked for from then on. -/
def postLever {α : Type} [BEq α] (a : Address) (wrap : α → Command) (asked last : α) (posted : Nat)
    (w : World) : α × Nat × World :=
  if asked == last then (last, posted, w)
  else
    let (sent, posted, w) := post a (wrap asked) posted w
    (if sent then asked else last, posted, w)

/-- Posts the commands of a sample and counts them. -/
def postAll (d : Dispatcher) (before i : DriverInput) (w : World) : Nat × Dispatcher × World :=
  let drive := Command.drive (.cheesy i.wheel i.throttle i.quickturn)
  let (_, n, w) := post .drivetrain drive 0 w
  let (n, w) := postAction .gearFloor .floor (armAction before i) n w
  let (roller, n, w) := postLever .gearFloor .floor (rollerAsked i) d.roller n w
  let (n, w) := postAction .gearIntake .gear (gearAction before i) n w
  let (climber, n, w) := postLever .climber .climber (climberAsked i) d.climber n w
  let (hopper, n, w) := postLever .hopper .hopper (hopperAsked i) d.hopper n w
  (n, { d with roller := roller, climber := climber, hopper := hopper }, w)

/-- Toggles the pause of a script at the press of its button. -/
def pauseButton (before i : DriverInput) (w : World) : World :=
  if pressed i.pauseAuto before.pauseAuto then
    let w := w.togglePause
    w.tell (.flag "Auto Paused" w.control.paused)
  else w

/-- Turns one sample into commands and counts those that were posted. Nothing but the pause button
works in a mode that does not obey the driver. -/
def teleop (d : Dispatcher) (i : DriverInput) (w : World) : Nat × Dispatcher × World :=
  let before := d.previous
  let d := { d with previous := i }
  let w := pauseButton before i w
  if w.mode.obeysDriver then d.postAll before i w else (0, d, w)

/-- Sets the mode flag, if the mode is new; what is left to do then is to tell every task. -/
def changeMode (d : Dispatcher) (m : Mode) (w : World) : Bool × Dispatcher × World :=
  if w.mode = m then (false, d, w)
  else
    let w := w.notice (.modeChanged w.mode m)
    let w := { w with mode := m }
    (true, { d with climber := .stop, hopper := .stop, roller := .stop },
      w.tell (.text "Robot State" m.label))

/-- Changes the mode and tells every task; the result says whether the mode was new. -/
def changeState (d : Dispatcher) (m : Mode) (w : World) : Stage Broadcast Bool Dispatcher :=
  let (changed, d, w) := d.changeMode m w
  (if changed then Broadcast.start (.state m) true Address.tasks else .finished false, d, w)

/-- Reports the battery voltage, and tells the drivetrain if its mailbox has room. -/
def reportBattery (volts : Float32) (w : World) : Bool × World :=
  (w.tell (.number "Battery Voltage" volts)).offer .drivetrain
    { command := .system (.constants volts) }

end Dispatcher

end MatchRobot
