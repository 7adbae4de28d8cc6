import MatchRobot.Device.Motor
import MatchRobot.Subsystem.Basic

/-!
# The climber

Two motors that face each other on one rope spool, so that they always run at opposite outputs. A
pulse climbs for a fixed time, or until autonomous ends, and looks at both once in a while.
-/

namespace MatchRobot

/-- The climber. -/
structure Climber where
  first : Motor := {}
  second : Motor := {}
  config : ClimberConfig := {}

namespace Climber

/-- The name of the climber in log messages. -/
def stamp : String := "[CLIMBER]"

/-- A pulse under way. -/
structure Pulse where
  speed : Float32
  deadline : Micros

/-- Runs both motors, against each other. -/
def climb (c : Climber) (speed : Float32) : Climber :=
  { c with first := c.first.set speed, second := c.second.set (-speed) }

/-- Goes on with a pulse. -/
def pulse (c : Climber) (p : Pulse) (w : World) : Except Fault (Stage Pulse Reply Climber) :=
  if w.now < p.deadline && w.mode.inAuto then do
    let wait ← Wait.sleepFor w.now c.config.pulsePeriod
    return (.waiting wait p, c.climb p.speed, w)
  else .ok (replied .ok (c.climb 0) w)

/-- Starts a pulse. -/
def startPulse (c : Climber) (speed : Float32) (w : World) :
    Except Fault (Stage Pulse Reply Climber) := do
  let w := w.notice (.pulseStarted speed)
  let deadline ← Clock.after w.now c.config.pulseTime
  c.pulse ⟨speed, deadline⟩ w

/-- Handles a command; those of other families change nothing. -/
def handle (command : Command) (c : Climber) (w : World) :
    Except Fault (Stage Pulse Reply Climber) :=
  match command with
  | .climber (.up speed) => .ok (replied .ok (c.climb speed) w)
  | .climber (.down speed) => .ok (replied .ok (c.climb (-speed)) w)
  | .climber .stop => .ok (replied .ok (c.climb 0) w)
  | .climber (.pulse speed) => c.startPulse speed w
  | _ => .ok (replied .ok c w)

/-- The safety check, which samples the first motor. -/
def check (c : Climber) (w : World) : Bool × Climber × World :=
  let amps := c.first.current
  let w := w.tell (.number "Climber current" amps)
  if amps ≥ c.config.maxCurrent then (true, c.climb 0, w.notice (.overCurrent stamp amps))
  else (false, c, w)

instance : Subsystem Climber where
  Job := Pulse
  address := .climber
  stamp := stamp
  cycle c := c.config.cycle
  enter _ c w := .ok (.finished (), c.climb 0, w)
  check := check
  handle := handle
  resume p _ c w := c.pulse p w
  attach c d := { c with first := d.first, second := d.second }

end Climber

end MatchRobot
