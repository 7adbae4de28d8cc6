import MatchRobot.Dispatcher
import MatchRobot.Subsystem.Robot

/-!
# The scene of a rehearsal

A rehearsal plays a part of the program against the clock: one subsystem on a bench, the robot with
some of its tasks, or the script pipeline alone. A `Scene` is everything that it acts on, and what it
has found out so far: a `Record` for each directive that is done, and the events in between.
-/

namespace MatchRobot

/-- What a rehearsal is about. -/
inductive Setting
  /-- One subsystem that is stepped by hand. -/
  | bench (part : Part)
  /-- Subsystems that run on their own, and the dispatcher; a part may have several tasks. -/
  | robot (parts : List Part)
  /-- The script pipeline alone. -/
  | pilot

/-- What can be seen of a pilot at any time. -/
structure PilotView where
  sequencer : SequencerState
  paused : Bool
  debug : Bool
  boxes : List Nat

/-- What a directive or an event finds out. -/
inductive Finding
  | nothing
  | bool (value : Bool)
  | count (value : Nat)
  | counts (values : List Nat)
  | message (message : Message)
  | messages (messages : List Message)
  | hardware (hardware : Hardware)
  | reply (reply : Reply)
  | loaded (result : Except ScriptError Nat)
  | ran (result : RunResult)
  | called (result : CallResult)
  | looked (view : PilotView)

/-- What can be seen of a subsystem on the bench, beside its hardware. -/
inductive PartView
  | nothing
  | grip (grip : Grip)
  | arm (position : ArmPosition) (setpoints : Option ArmSetpoints)
  | session (session : Session)
  | autonomous (runs : Nat) (sequencer : SequencerState) (lines : Nat)

/-- The state of a scene after a directive. -/
inductive Snapshot
  | bench (part : PartView) (hardware : Hardware)
  | robot (mode : Mode) (paused debug : Bool) (parts : List (Part × Hardware))
  | pilot (sequencer : SequencerState) (lines dispatched : Nat) (modeBlock : Int32)
    (paused debug : Bool)

/-- A directive that is done. -/
structure Record where
  time : Micros
  finding : Finding
  snapshot : Snapshot
  /-- How many messages wait in each mailbox. -/
  boxes : List Nat
  /-- What was reported since the record before, in order. -/
  entries : List Entry

/-- Everything that a rehearsal acts on. -/
structure Scene where
  setting : Setting
  world : World
  /-- The devices, each part with the mind of the task that worked them last. -/
  robot : Robot
  dispatcher : Dispatcher := {}
  /-- A caller beside that of the interpreter, with call numbers of its own. -/
  caller : Caller
  /-- The events, the newest first. -/
  events : List (Micros × Finding) := []
  /-- The directives that are done, the newest first. -/
  records : List Record := []

namespace Scene

/-- The pilot of the autonomous task. -/
def pilot (s : Scene) : Pilot :=
  s.robot.autonomous.subsystem.pilot

/-- The scene with another pilot and world. -/
def setPilot (s : Scene) (p : Pilot) (w : World) : Scene :=
  { s with
    world := w
    robot := { s.robot with
      autonomous := s.robot.autonomous.modify fun a => { a with pilot := p } } }

/-- The scene with another state of a part and another world. -/
def setPart (s : Scene) (p : Part) (r : Runner p.State) (w : World) : Scene :=
  { s with world := w, robot := s.robot.set p r }

/-- How many messages wait in each mailbox. -/
def boxes (s : Scene) : List Nat :=
  Address.all.map s.world.post.count

/-- Notes an event. -/
def note (s : Scene) (f : Finding) : Scene :=
  { s with events := (s.world.now, f) :: s.events }

/-- Looks at the hardware of a part. -/
def look (s : Scene) (p : Part) : Hardware × Scene :=
  let (h, r) := s.robot.look s.world.now p
  (h, { s with robot := r })

/-- Looks at the hardware of several parts, one after the other. -/
def lookAll (s : Scene) : List Part → List (Part × Hardware) × Scene
  | [] => ([], s)
  | p :: ps =>
    let (h, s) := s.look p
    let (hs, s) := s.lookAll ps
    ((p, h) :: hs, s)

/-- What can be seen of a subsystem beside its hardware. -/
def viewPart (s : Scene) : Part → PartView
  | .drivetrain => .session s.robot.drivetrain.subsystem.session
  | .autonomous =>
    .autonomous s.robot.autonomous.subsystem.runs (s.pilot.sequencer.state s.world)
      s.pilot.sequencer.script.length
  | .climber => .nothing
  | .hopper => .nothing
  | .gearIntake => .grip s.robot.gearIntake.subsystem.grip
  | .gearFloor =>
    .arm s.robot.gearFloor.subsystem.position s.robot.gearFloor.subsystem.setpoints

/-- What can be seen of the pilot. -/
def viewPilot (s : Scene) : PilotView where
  sequencer := s.pilot.sequencer.state s.world
  paused := s.world.control.paused
  debug := s.world.control.debug
  boxes := s.boxes

/-- Takes a snapshot; looking at the chassis is an access to it. -/
def snapshot (s : Scene) : Snapshot × Scene :=
  let c := s.world.control
  match s.setting with
  | .bench p =>
    let view := s.viewPart p
    let (h, s) := s.look p
    (.bench view h, s)
  | .robot parts =>
    let (hs, s) := s.lookAll (parts.filter (· ≠ .autonomous)).eraseDups
    (.robot s.world.mode c.paused c.debug hs, s)
  | .pilot =>
    let p := s.pilot
    (.pilot (p.sequencer.state s.world) p.sequencer.script.length p.interpreter.dispatched
      p.interpreter.modeBlock c.paused c.debug, s)

/-- Records a directive that is done; the journal starts anew. -/
def record (s : Scene) (f : Finding) : Scene :=
  let (snapshot, s) := s.snapshot
  let r : Record :=
    { time := s.world.now, finding := f, snapshot := snapshot, boxes := s.boxes,
      entries := s.world.journal.reverse }
  { s with records := r :: s.records, world := { s.world with journal := [] } }

end Scene

end MatchRobot
