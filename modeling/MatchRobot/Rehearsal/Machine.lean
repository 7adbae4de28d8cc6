import MatchRobot.Rehearsal.Actor

/-!
# The machine that plays a rehearsal

The actors stand in a fixed order, the main task last. A *round* polls each of them once, and an actor
whose wait is over runs until it has to wait again. When a round has answered somebody's request to be
woken, another round follows at the same time; otherwise the clock moves to the earliest time that was
asked for.

`Machine.step` is one look at one actor, or the end of a round, so that a whole rehearsal is a sequence
of steps. A rehearsal ends when the main task is finished, at a fault, or when nobody has anything left
to wait for in time.
-/

namespace MatchRobot

/-- How a rehearsal ended. -/
inductive Ending
  | done
  /-- Every actor waits, and no alarm is set. -/
  | stalled
  | fault (fault : Fault)
  deriving Repr, DecidableEq

/-- An actor with what it waits for. -/
structure Seat where
  wait : Wait
  actor : Actor

/-- A rehearsal in the middle of a round. -/
structure Machine where
  scene : Scene
  /-- The actors in their order; those that are finished have left their seat. -/
  seats : Array (Option Seat)
  /-- The seat that is polled next. -/
  turn : Nat := 0

/-- What a step of the machine leads to. -/
inductive Advance
  | on (machine : Machine)
  | ended (ending : Ending) (scene : Scene)

namespace Machine

/-- The end of a round. -/
def endRound (m : Machine) : Advance :=
  let w := m.scene.world
  if w.stirred then
    .on { m with scene := { m.scene with world := { w with stirred := false } }, turn := 0 }
  else match w.advance? with
    | none => .ended .stalled m.scene
    | some w => .on { m with scene := { m.scene with world := w }, turn := 0 }

/-- Puts an actor back on a seat, or takes it away for good. -/
def seat (m : Machine) (n : Nat) (s : Option Seat) : Machine :=
  { m with seats := m.seats.setIfInBounds n s }

/-- Lets an actor run whose wait is over. -/
def runActor (m : Machine) (n : Nat) (a : Actor) (wake : Wake) (w : World) : Advance :=
  match a.resume wake { m.scene with world := w } with
  | .error f => .ended (.fault f) m.scene
  | .ok (.waiting wait a, s) => .on ({ m with scene := s }.seat n (some ⟨wait, a⟩))
  | .ok (.finished (), s) =>
    if n + 1 = m.seats.size then .ended .done s
    else .on ({ m with scene := s, turn := n + 1 }.seat n none)

/-- One look at one actor, or the end of a round. -/
def step (m : Machine) : Advance :=
  match m.seats[m.turn]? with
  | none => m.endRound
  | some none => .on { m with turn := m.turn + 1 }
  | some (some s) => match m.scene.world.poll s.wait with
    | .pending wait w =>
      .on ({ m with scene := { m.scene with world := w }, turn := m.turn + 1 }.seat m.turn
        (some { s with wait := wait }))
    | .over wake w => m.runActor m.turn s.actor wake w

/-- So many steps, or fewer if the rehearsal ends before. -/
def run : Nat → Machine → Advance
  | 0, m => .on m
  | fuel + 1, m => match m.step with
    | .on m => run fuel m
    | .ended e s => .ended e s

end Machine

/-- What a rehearsal starts from. -/
structure Rehearsal where
  setting : Setting
  start : Micros := 0
  mode : Mode := .unknown
  source : ScriptSource := .missing
  chassis : ChassisConfig := {}
  encoders : EncoderKind := .working
  range : Float32 := 0
  sensor : Int32 := 0
  gear : Bool := false
  drive : DriveConfig := {}
  auto : AutoConfig := {}
  climber : ClimberConfig := {}
  gearIntake : GearIntakeConfig := {}
  gearFloor : ArmConfig := {}
  responders : List (Address × List Reaction) := []
  events : List Event := []
  directives : List Directive := []

namespace Rehearsal

/-- The robot at the start. -/
def robot (r : Rehearsal) : Robot where
  drivetrain := { subsystem :=
    { chassis := { config := r.chassis }, encoders := r.encoders, range := r.range,
      config := r.drive } }
  autonomous := { subsystem := { pilot := Pilot.fresh r.auto r.start } }
  climber := { subsystem := { config := r.climber } }
  hopper := { subsystem := {} }
  gearIntake := { subsystem := { config := r.gearIntake } }
  gearFloor := { subsystem := { sensor := r.sensor, gear := r.gear, config := r.gearFloor } }

/-- The scene at the start. -/
def scene (r : Rehearsal) : Scene where
  setting := r.setting
  world := { now := r.start, mode := r.mode, source := r.source }
  robot := r.robot
  caller := { timeout := r.auto.replyTimeout }

/-- The subsystems that run on their own. -/
def parts (r : Rehearsal) : List Part :=
  match r.setting with
  | .robot parts => parts
  | _ => []

/-- The actors in the order in which they are polled. -/
def actors (r : Rehearsal) : List Actor :=
  r.responders.map (fun (box, script) => .responder box script)
    ++ r.parts.map (fun p => .boot p (r.robot.get p)) ++ [.events r.events, .main r.directives]

/-- The machine at the start. -/
def machine (r : Rehearsal) : Machine where
  scene := r.scene
  seats := (r.actors.map fun a => some ⟨.none, a⟩).toArray

/-- Plays the rehearsal for a number of steps. -/
def play (r : Rehearsal) (steps : Nat) : Advance :=
  r.machine.run steps

end Rehearsal

end MatchRobot
