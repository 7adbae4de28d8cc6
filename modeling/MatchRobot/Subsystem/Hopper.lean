import MatchRobot.Device.Motor
import MatchRobot.Subsystem.Basic

/-!
# The hopper

One motor that lifts fuel toward the shooter. It keeps the output it was last told, stops on every
change of mode and cuts out when the motor draws too much.
-/

namespace MatchRobot

/-- The hopper. -/
structure Hopper where
  motor : Motor := {}

namespace Hopper

/-- The name of the hopper in log messages. -/
def stamp : String := "[HOPPER]"

/-- The hopper with another output. -/
def run (h : Hopper) (x : Float32) : Hopper :=
  { h with motor := h.motor.set x }

/-- Obeys a hopper command. -/
def obey (h : Hopper) : HopperCommand → Hopper
  | .up speed => h.run speed
  | .down speed => h.run (-speed)
  | .stop => h.run 0

/-- Whether the motor draws too much. -/
def overloaded (h : Hopper) : Bool :=
  !(h.motor.current < Settings.maxCurrent)

/-- The safety check. -/
def check (h : Hopper) (w : World) : Bool × Hopper × World :=
  let amps := h.motor.current
  let w := w.tell (.number "Hopper current" amps)
  if h.overloaded then (true, h.run 0, w.notice (.overCurrent stamp amps)) else (false, h, w)

/-- Handles a command; those of other families change nothing. -/
def handle (c : Command) (h : Hopper) : Hopper :=
  match c with
  | .hopper command => h.obey command
  | _ => h

instance : Subsystem Hopper where
  Job := Empty
  address := .hopper
  stamp := stamp
  cycle _ := Settings.componentCycle
  enter _ h w := .ok (.finished (), h.run 0, w)
  check := check
  handle c h w := .ok (replied .ok (h.handle c) w)
  resume job _ _ _ := nomatch job
  attach h k := { h with motor := k.motor }

end Hopper

end MatchRobot
