import MatchRobot.Rehearsal.Directive

/-!
# Actors

The tasks of a rehearsal: responders that stand in for a subsystem at its mailbox, the subsystems that
run on their own, the task that lets events happen at their times, and the main task with its
directives. An actor that is not finished waits for something; `Actor.resume` takes it on from there to
its next wait.

A subsystem that runs on its own keeps its mind in its actor, and goes on at the devices as the scene
shows them. So two actors for one part know nothing of each other beyond the mailbox and the devices.

What is noted as an event stays noted even if the same actor comes to a fault later on, so the note and
what follows it are two steps with `Wait.none` between them.
-/

namespace MatchRobot

/-- How a responder answers a message. -/
inductive Response
  | nothing
  /-- Sends a command to the reply mailbox under the number of the message's call. -/
  | noise (command : Command)
  /-- Replies, as to a call with the message's number plus `shift`. -/
  | reply (reply : Reply) (shift : UInt32)

/-- What a responder does with one message. -/
structure Reaction where
  /-- How long it waits before it answers. -/
  delay : Micros
  response : Response

/-- Something that happens at a time of its own. -/
structure Event where
  time : Micros
  poke : Poke

/-- An actor at a place where it waits. -/
inductive Actor
  /-- A responder between two messages. -/
  | responder (box : Address) (script : List Reaction)
  /-- A responder that has taken a message. -/
  | reacting (box : Address) (message : Message) (reaction : Reaction) (script : List Reaction)
  /-- A responder whose delay is over. -/
  | answering (box : Address) (message : Message) (response : Response) (script : List Reaction)
  /-- A subsystem before its first cycle. -/
  | boot (part : Part) (runner : Runner part.State)
  | part (part : Part) (runner : Runner part.State) (cycle : Cycle part.Job)
  | events (upcoming : List Event)
  /-- The main task between two directives. -/
  | main (directives : List Directive)
  | performing (doing : Performing) (directives : List Directive)

/-- What an actor leads to. -/
abbrev Act := Progress Actor Unit × Scene

namespace Actor

/-- An actor that goes on at once. -/
def goOn (a : Actor) (s : Scene) : Except Fault Act :=
  .ok (.waiting .none a, s)

/-- A responder that listens for its next message. -/
def listen (box : Address) (script : List Reaction) (s : Scene) : Except Fault Act :=
  match script with
  | [] => .ok (.finished (), s)
  | _ => .ok (.waiting (.receive box none) (.responder box script), s)

/-- A responder answers. -/
def respond (box : Address) (m : Message) (r : Response) (script : List Reaction) (s : Scene) :
    Except Fault Act :=
  match r with
  | .nothing => listen box script s
  | .noise c =>
    .ok (.waiting (.send .autoParser { command := c, callId := m.callId })
      (.answering box m .nothing script), s)
  | .reply reply shift => match m.replyTo with
    | none => listen box script s
    | some a =>
      let m := { m with callId := m.callId + shift }
      .ok (.waiting (.send a (m.answer reply)) (.answering box m .nothing script), s)

/-- A subsystem that runs on its own stands in its cycle. -/
def followPart (p : Part) (stage : Stage (Cycle p.Job) Empty (Runner p.State)) (s : Scene) : Act :=
  match stage with
  | (.waiting wait c, r, w) => (.waiting wait (.part p r c), s.setPart p r w)

/-- The next event, if its time has come. -/
def happen (events : List Event) (s : Scene) : Except Fault Act :=
  match events with
  | [] => .ok (.finished (), s)
  | e :: rest =>
    if s.world.now < e.time then .ok (.waiting (.sleep { time := e.time }) (.events events), s)
    else
      let (f, s) := s.poke e.poke
      (Actor.events rest).goOn (s.note f)

/-- The main task goes on from a directive. -/
def follow (directives : List Directive) (p : Performance) : Except Fault Act :=
  match p with
  | (.waiting wait doing, s) => .ok (.waiting wait (.performing doing directives), s)
  | (.finished f, s) => (main directives).goOn (s.record f)

/-- Takes an actor from the end of a wait to its next wait. -/
def resume (a : Actor) (wake : Wake) (s : Scene) : Except Fault Act :=
  match a with
  | .responder box script => match wake, script with
    | .received m _, r :: rest => (reacting box m r rest).goOn (s.note (.message m))
    | _, _ => listen box script s
  | .reacting box m r script =>
    if r.delay > 0 then do
      let wait ← Wait.sleepFor s.world.now r.delay
      return (.waiting wait (.answering box m r.response script), s)
    else respond box m r.response script s
  | .answering box m r script => respond box m r script s
  | .boot p r => do
    let w := s.world.notice (.starting (Subsystem.stamp p.State) p.address)
    let stage ← Cycle.start (r.attach (s.robot.get p)) w
    return followPart p stage s
  | .part p r c => do
    let stage ← c.runOn wake (r.attach (s.robot.get p)) s.world
    return followPart p stage s
  | .events upcoming => happen upcoming s
  | .main [] => .ok (.finished (), s)
  | .main (d :: rest) => do
    let p ← s.perform d
    follow rest p
  | .performing doing rest => do
    let p ← s.resume doing wake
    follow rest p

end Actor

end MatchRobot
