import MatchRobot.Device.Motor
import MatchRobot.Subsystem.Basic

/-!
# The gear intake

A gripper that one motor closes. The grip moves as `MatchRobot.Gear.Grip` says; while it opens or
closes the motor runs at the speed of the last command, and a closed gripper is held with a small
tension. Every message that is no command of its own lets a transition settle.
-/

namespace MatchRobot

/-- The gear intake. -/
structure GearIntake where
  motor : Motor := {}
  config : GearIntakeConfig := {}
  grip : Grip := .opened
  /-- The speed of the last hold or release. -/
  speed : Float32 := 0

namespace GearIntake

/-- The name of the gear intake in log messages. -/
def stamp : String := "[GEAR_INTAKE]"

/-- The output that belongs to the grip. -/
def output (g : GearIntake) : Float32 :=
  match g.grip with
  | .opened => 0
  | .opening _ => g.speed
  | .closing _ => -g.speed
  | .closed => -g.config.holdTension

/-- Writes the output that belongs to the grip. -/
def apply (g : GearIntake) : GearIntake :=
  { g with motor := g.motor.set g.output }

/-- Stops the motor and ends a transition. -/
def stop (g : GearIntake) : GearIntake :=
  { g with grip := g.grip.stop, motor := g.motor.set 0 }

/-- Moves to a grip, reports a change of its state and writes the output. -/
def moveTo (g : GearIntake) (grip : Grip) (w : World) : GearIntake × World :=
  let w := if g.grip.sameKind grip then w
    else (w.notice (.gripChanged g.grip grip)).tell (.flag "Gear closed" grip.isClosed)
  (apply { g with grip := grip }, w)

/-- Handles a command. -/
def handle (c : Command) (g : GearIntake) (w : World) : Except Fault (GearIntake × World) :=
  match c with
  | .gear (.hold speed) => .ok ({ g with speed := speed }.moveTo (g.grip.hold w.now) w)
  | .gear (.release speed) => .ok ({ g with speed := speed }.moveTo (g.grip.release w.now) w)
  | .gear .stop => .ok (g.stop, w)
  | _ => do
    let grip ← g.grip.settle w.now g.config.transitionTime
    return g.moveTo grip w

/-- Hears of a mode. -/
def enter (m : Mode) (g : GearIntake) : GearIntake :=
  if m.isEnabled then g else g.stop

/-- The safety check. -/
def check (g : GearIntake) (w : World) : Bool × GearIntake × World :=
  let amps := g.motor.current
  let w := w.tell (.number "Gear current" amps)
  if amps ≥ g.config.maxCurrent then (true, g.stop, w.notice (.overCurrent stamp amps))
  else (false, g, w)

instance : Subsystem GearIntake where
  Job := Empty
  address := .gearIntake
  stamp := stamp
  cycle g := g.config.cycle
  enter m g w := .ok (.finished (), g.enter m, w)
  check := check
  handle c g w := do
    let (g, w) ← g.handle c w
    return replied .ok g w
  resume job _ _ _ := nomatch job
  attach g h := { g with motor := h.motor }

end GearIntake

end MatchRobot
