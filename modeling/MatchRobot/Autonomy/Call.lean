import MatchRobot.Task.Wait

/-!
# Synchronous calls

A call posts its commands with the mailbox of the interpreter as the reply mailbox and then waits
there. Replies are counted and not matched to their senders: a call to `n` targets is done after `n`
replies. Each call tags its messages with a number of its own, and a reply with another number belongs
to an earlier call that gave up.

A `Call` is a call under way. It first posts its messages one after the other, waiting for room where
a mailbox is full, and then collects replies. An error reply does not end the wait early.
-/

namespace MatchRobot

/-- The side of the interpreter that calls subsystems. -/
structure Caller where
  /-- How long the collection of replies may take. -/
  timeout : Option Micros
  /-- The number of the last call. -/
  lastCall : UInt32 := 0

namespace Caller

/-- The number of the next call; zero marks messages without one. -/
def nextCall (c : Caller) : UInt32 :=
  max (c.lastCall + 1) 1

end Caller

/-- The result of a call. -/
abbrev CallResult := Except CallError Unit

/-- A call under way. -/
structure Call where
  id : UInt32
  timeout : Option Micros
  expected : Nat
  received : Nat := 0
  failed : Bool := false
  /-- What is still to be posted after the message that is being posted; nothing is posted any more
  once replies are collected. -/
  unposted : Option (List (Address × Command)) := none

namespace Call

/-- The message of a call that carries a command. -/
def message (c : Call) (command : Command) : Message :=
  { command := command, replyTo := some .autoParser, callId := c.id }

/-- Goes on to collect replies, unless they are complete. -/
def collect (c : Call) (limit : Option Alarm) : Progress Call CallResult :=
  if c.received < c.expected then .waiting (.receive .autoParser limit) c
  else .finished (if c.failed then .error .rejected else .ok ())

/-- The alarm that ends the collection of replies, if there is a limit to it. -/
def limit (c : Call) (now : Micros) : Except Fault (Option Alarm) :=
  match c.timeout with
  | none => .ok none
  | some span => do
    let time ← Clock.after now span
    return some { time := time }

/-- Posts the next message, or begins to collect replies. -/
def post (c : Call) (rest : List (Address × Command)) (w : World) :
    Except Fault (Progress Call CallResult × World) :=
  match rest with
  | (a, command) :: more =>
    .ok (.waiting (.send a (c.message command)) { c with unposted := some more }, w)
  | [] => do
    let limit ← c.limit w.now
    return (collect { c with unposted := none } limit, w)

/-- Throws away the replies that came too late for the calls before. -/
def sweep (w : World) : World :=
  let (stale, w) := w.discard .autoParser
  if stale > 0 then w.notice (.staleReplies stale) else w

/-- Starts a call; lists of different lengths post nothing. -/
def start (caller : Caller) (targets : List Address) (commands : List Command) (w : World) :
    Except Fault (Stage Call CallResult Caller) :=
  if targets.length ≠ commands.length then
    let w := w.status "MULTICOMMAND error!"
    let w := w.notice (.callMismatch targets.length commands.length)
    .ok (.finished (.error (.lengthMismatch targets.length commands.length)), caller, w)
  else do
    let c : Call :=
      { id := caller.nextCall, timeout := caller.timeout, expected := targets.length }
    let (p, w) ← c.post (targets.zip commands) (sweep w)
    return (p, { caller with lastCall := c.id }, w)

/-- Counts a message from the reply mailbox, if it is a reply to this call. -/
def count (c : Call) (m : Message) (w : World) : Call × World :=
  if m.callId ≠ c.id then (c, w.notice (.lateReply m.callId))
  else match m.command.asReply with
    | none => (c, w.notice (.strayCommand m.command))
    | some r =>
      let w := match r with
        | .ok => w.status "auto ok"
        | .error => w.status "EARLY DEATH!"
      let c := { c with received := c.received + 1, failed := c.failed || r == .error }
      (c, w.notice (.replyCounted c.received c.expected))

/-- Gives up. -/
def giveUp (c : Call) (w : World) : CallResult × World :=
  let w := w.status "EARLY DEATH!"
  (.error (.timedOut c.received c.expected), w.notice (.repliesMissing c.received c.expected))

/-- Goes on after a wait. -/
def resume (c : Call) (wake : Wake) (w : World) :
    Except Fault (Progress Call CallResult × World) :=
  match c.unposted, wake with
  | some rest, _ => c.post rest w
  | none, .received m limit =>
    let (c, w) := c.count m w
    .ok (c.collect limit, w)
  | none, _ =>
    let (r, w) := c.giveUp w
    .ok (.finished r, w)

end Call

end MatchRobot
