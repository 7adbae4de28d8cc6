import MatchRobot.Rehearsal.Poke

/-!
# Directives

The main task of a rehearsal carries out directives one after the other. `Scene.perform` begins a
directive and `Scene.resume` goes on with one after a wait; either leads to a wait, at a place given by
`Performing`, or to what the directive found out.
-/

namespace MatchRobot

/-- One step of the main task. -/
inductive Directive
  | poke (poke : Poke)
  | wait (span : Micros)
  | send (box : Address) (message : Message)
  | reply (message : Message) (reply : Reply)
  /-- Tells every task. -/
  | broadcast (command : Command)
  | receive (box : Address)
  | waitUnpaused (poll : Micros)
  /-- Runs cycles of the subsystem on the bench. -/
  | cycles (count : Nat)
  | setLoops (value : UInt32)
  /-- Posts a message to the subsystem on the bench. -/
  | post (message : Message)
  /-- Has the subsystem on the bench handle a command at once. -/
  | handle (command : Command)
  /-- Has the subsystem on the bench hear of a mode. -/
  | enter (mode : Mode)
  | check
  | changeMode (mode : Mode)
  | battery (volts : Float32)
  /-- Gives the dispatcher the same sample several times, with a pause after each. -/
  | teleop (input : DriverInput) (times : Nat) (period : Micros)
  | evaluate (line : String)
  | restart
  | setLineNumber (n : Nat)
  | load
  | run
  | call (targets : List Address) (commands : List Command)

/-- Where a directive waits. -/
inductive Performing
  /-- The end of the wait ends the directive. -/
  | last (finding : Finding)
  | receiving
  | unpausing (poll : Micros)
  /-- A command goes to one task after the other. -/
  | telling (broadcast : Broadcast) (finding : Finding)
  | cycling (part : Part) (more : Nat) (cycle : Cycle part.Job)
  | handling (part : Part) (job : part.Job)
  | entering (part : Part) (job : part.Job)
  /-- The counts of the samples before, the newest first. -/
  | sampling (more : Nat) (input : DriverInput) (period : Micros) (counts : List Nat)
  | evaluating (line : Evaluation)
  | running (run : Run)
  | calling (call : Call)

/-- What a directive leads to. -/
abbrev Performance := Progress Performing Finding × Scene

namespace Scene

/-- The subsystem on the bench; other settings have none that matters. -/
def part (s : Scene) : Part :=
  match s.setting with
  | .bench p => p
  | _ => .autonomous

/-- A directive that is done. -/
def done (s : Scene) (f : Finding) : Except Fault Performance :=
  .ok (.finished f, s)

/-- Goes on from a broadcast that finds something out at its end. -/
def followBroadcast (s : Scene) (f : Finding) : Progress Broadcast Finding → Performance
  | .waiting wait b => (.waiting wait (.telling b f), s)
  | .finished f => (.finished f, s)

/-- Waits until no pause is on. -/
def waitUnpaused (s : Scene) (poll : Micros) : Except Fault Performance :=
  if s.world.control.paused then do
    let wait ← Wait.resumeFor s.world.now poll
    return (.waiting wait (.unpausing poll), s)
  else s.done .nothing

/-! ### The bench -/

/-- Runs `more` further cycles of a part. -/
def cycle (s : Scene) (p : Part) : Nat → Except Fault Performance
  | 0 => s.done (.count (s.robot.get p).loops.toNat)
  | more + 1 => do
    let (progress, r, w) ← Cycle.start (s.robot.get p) s.world
    let s := s.setPart p r w
    match progress with
    | .waiting wait c => return (.waiting wait (.cycling p more c), s)
    | .finished () => s.cycle p more

/-- Goes on from a cycle of a part. -/
def followCycle (s : Scene) (p : Part) (more : Nat)
    (stage : Stage (Cycle p.Job) Unit (Runner p.State)) : Except Fault Performance :=
  let (progress, r, w) := stage
  let s := s.setPart p r w
  match progress with
  | .waiting wait c => .ok (.waiting wait (.cycling p more c), s)
  | .finished () => s.cycle p more

/-- The scene with another state of a part, which keeps its number of cycles. -/
def setState (s : Scene) (p : Part) (x : p.State) (w : World) : Scene :=
  s.setPart p { s.robot.get p with subsystem := x } w

/-- Goes on from a command that a part handles. -/
def followHandle (s : Scene) (p : Part) (stage : Stage p.Job Reply p.State) : Performance :=
  let (progress, x, w) := stage
  let s := s.setState p x w
  match progress with
  | .waiting wait job => (.waiting wait (.handling p job), s)
  | .finished r => (.finished (.reply r), s)

/-- Goes on from a mode that a part hears of. -/
def followEnter {α : Type} (s : Scene) (p : Part) (stage : Stage p.Job α p.State) : Performance :=
  let (progress, x, w) := stage
  let s := s.setState p x w
  match progress with
  | .waiting wait job => (.waiting wait (.entering p job), s)
  | .finished _ => (.finished .nothing, s)

/-! ### The dispatcher -/

/-- Goes on from a change of mode. -/
def followChange (s : Scene) (stage : Stage Broadcast Bool Dispatcher) : Performance :=
  let (progress, d, w) := stage
  let s := { s with dispatcher := d, world := w }
  match progress with
  | .waiting wait b => (.waiting wait (.telling b (.bool true)), s)
  | .finished changed => (.finished (.bool changed), s)

/-- Gives the dispatcher samples; the counts of those before come with the newest first. -/
def sample (s : Scene) (i : DriverInput) (period : Micros) (counts : List Nat) :
    Nat → Except Fault Performance
  | 0 => s.done (.counts counts.reverse)
  | more + 1 => do
    let (n, d, w) := s.dispatcher.teleop i s.world
    let s := { s with dispatcher := d, world := w }
    if period > 0 then
      let wait ← Wait.sleepFor w.now period
      return (.waiting wait (.sampling more i period (n :: counts)), s)
    else s.sample i period (n :: counts) more

/-! ### The pilot -/

/-- Goes on from a line that is evaluated by itself. -/
def followLine (s : Scene) (stage : Stage Evaluation Bool Interpreter) : Performance :=
  let (progress, i, w) := stage
  let s := s.setPilot { s.pilot with interpreter := i } w
  match progress with
  | .waiting wait e => (.waiting wait (.evaluating e), s)
  | .finished stop => (.finished (.bool stop), s)

/-- Goes on from a script run. -/
def followRun (s : Scene) (stage : Stage Run RunResult Pilot) : Performance :=
  let (progress, p, w) := stage
  let s := s.setPilot p w
  match progress with
  | .waiting wait r => (.waiting wait (.running r), s)
  | .finished r => (.finished (.ran r), s)

/-- Goes on from a call. -/
def followCall (s : Scene) (p : Progress Call CallResult) (w : World) : Performance :=
  let s := s.withWorld w
  match p with
  | .waiting wait c => (.waiting wait (.calling c), s)
  | .finished r => (.finished (.called r), s)

/-- Changes the interpreter between two lines. -/
def adjust (s : Scene) (f : Interpreter → Interpreter) : Except Fault Performance :=
  let p := s.pilot
  (s.setPilot { p with interpreter := f p.interpreter } s.world).done .nothing

/-! ### All directives -/

/-- Begins a directive. -/
def perform (s : Scene) : Directive → Except Fault Performance
  | .poke p =>
    let (f, s) := s.poke p
    s.done f
  | .wait span => do
    let wait ← Wait.sleepFor s.world.now span
    return (.waiting wait (.last .nothing), s)
  | .send a m => .ok (.waiting (.send a m) (.last .nothing), s)
  | .reply m r => match m.replyTo with
    | none => s.done .nothing
    | some a => .ok (.waiting (.send a (m.answer r)) (.last .nothing), s)
  | .broadcast c => .ok (s.followBroadcast .nothing (Broadcast.start c .nothing Address.tasks))
  | .receive a => .ok (.waiting (.receive a none) .receiving, s)
  | .waitUnpaused poll => s.waitUnpaused poll
  | .cycles n => s.cycle s.part n
  | .setLoops n => (s.setPart s.part { s.robot.get s.part with loops := n } s.world).done .nothing
  | .post m =>
    let (f, s) := s.poke (.offer s.part.address m)
    s.done f
  | .handle c => do
    let stage ← Subsystem.handle c (s.robot.get s.part).subsystem s.world
    return s.followHandle s.part stage
  | .enter m => do
    let stage ← Subsystem.enter m (s.robot.get s.part).subsystem s.world
    return s.followEnter s.part stage
  | .check =>
    let (tripped, x, w) := Subsystem.check (s.robot.get s.part).subsystem s.world
    (s.setState s.part x w).done (.bool tripped)
  | .changeMode m => .ok (s.followChange (s.dispatcher.changeState m s.world))
  | .battery volts =>
    let (sent, w) := Dispatcher.reportBattery volts s.world
    (s.withWorld w).done (.bool sent)
  | .teleop i times period => s.sample i period [] times
  | .evaluate line => do
    let stage ← s.pilot.interpreter.evaluate line s.world
    return s.followLine stage
  | .restart => s.adjust fun i => i.restart s.world.now
  | .setLineNumber n => s.adjust fun i => { i with lineNumber := n }
  | .load =>
    let (r, p, w) := s.pilot.load s.world
    (s.setPilot p w).done (.loaded r)
  | .run => do
    let stage ← s.pilot.run s.world
    return s.followRun stage
  | .call targets commands => do
    let (p, caller, w) ← Call.start s.caller targets commands s.world
    return { s with caller := caller }.followCall p w

/-- Goes on with a directive after a wait. -/
def resume (s : Scene) (p : Performing) (wake : Wake) : Except Fault Performance :=
  match p with
  | .last f => s.done f
  | .receiving => match wake with
    | .received m _ => s.done (.message m)
    | _ => s.done .nothing
  | .unpausing poll => s.waitUnpaused poll
  | .telling b f => .ok (s.followBroadcast f (b.resume f))
  | .cycling p more c => do
    let stage ← c.resume wake (s.robot.get p) s.world
    s.followCycle p more stage
  | .handling p job => do
    let stage ← Subsystem.resume job wake (s.robot.get p).subsystem s.world
    return s.followHandle p stage
  | .entering p job => do
    let stage ← Subsystem.resume job wake (s.robot.get p).subsystem s.world
    return s.followEnter p stage
  | .sampling more i period counts => s.sample i period counts more
  | .evaluating e => do
    let stage ← s.pilot.interpreter.resume e wake s.world
    return s.followLine stage
  | .running r => do
    let stage ← s.pilot.resume r wake s.world
    return s.followRun stage
  | .calling c => do
    let (progress, w) ← c.resume wake s.world
    return s.followCall progress w

end Scene

end MatchRobot
