import MatchRobot.Task.World

/-!
# Waits

A task runs until it has to wait. A `Wait` says what for, and `World.poll` looks whether the wait is
over: then it hands over a `Wake`, with the effect that ending the wait has on the world (a message
leaves its mailbox, or enters one). A wait that goes on is handed back with its alarm armed, and asks
the world to be woken.

An alarm rings only after a poll has found it unarmed or not due before, so even an alarm that is due
at once lets one poll pass. Where a wait has both an alarm and something else to wait for, the latter
is looked at first, so that a message still counts at the deadline itself.
-/

namespace MatchRobot

/-- An alarm clock; it is armed by the first poll that finds nothing else to do. -/
structure Alarm where
  time : Micros
  armed : Bool := false
  deriving Repr, DecidableEq

/-- Whether an alarm rings. -/
def Alarm.rings (a : Alarm) (now : Micros) : Bool :=
  a.armed && decide (a.time ≤ now)

/-- What a task waits for. -/
inductive Wait
  /-- Nothing at all. -/
  | none
  | sleep (alarm : Alarm)
  /-- A message, at most until the alarm rings. -/
  | receive (box : Address) (limit : Option Alarm)
  /-- Room for a message. -/
  | send (box : Address) (message : Message)
  /-- The operator's resume, at most until the alarm rings. -/
  | resume (limit : Alarm)

/-- How a wait ended. -/
inductive Wake
  | go
  /-- The alarm rang. -/
  | rang
  /-- A message arrived; the alarm goes on to run. -/
  | received (message : Message) (limit : Option Alarm)
  | sent
  | resumed

/-- What a poll finds. -/
inductive Poll
  | over (wake : Wake) (world : World)
  | pending (wait : Wait) (world : World)

namespace World

/-- Looks at an alarm when nothing else has ended a wait; arming it puts its time on the agenda. -/
def pollAlarm (w : World) (alarm : Alarm) (wait : Alarm → Wait) : Poll :=
  if alarm.rings w.now then .over .rang w
  else .pending (wait { alarm with armed := true })
    (if alarm.armed then w else w.expectTime alarm.time)

/-- Looks whether a wait is over. -/
def poll (w : World) : Wait → Poll
  | .none => .over .go w
  | .sleep alarm => w.pollAlarm alarm .sleep
  | .receive box limit => match w.take? box with
    | some (m, w) => .over (.received m limit) w
    | none =>
      let w := w.expectMail box
      match limit with
      | none => .pending (.receive box none) w
      | some alarm => w.pollAlarm alarm fun a => .receive box (some a)
  | .send box m => match w.post? box m with
    | some w => .over .sent w
    | none => .pending (.send box m) (w.expectRoom box)
  | .resume limit =>
    if w.control.signal = .given then
      .over .resumed { w with control := { w.control with signal := .quiet } }
    else w.expectResume.pollAlarm limit .resume

end World

namespace Wait

/-- A sleep of a span of time. -/
def sleepFor (now span : Micros) : Except Fault Wait := do
  let time ← Clock.after now span
  return .sleep { time := time }

/-- A wait for a message that lasts a span of time at most. -/
def receiveFor (box : Address) (now span : Micros) : Except Fault Wait := do
  let time ← Clock.after now span
  return .receive box (some { time := time })

/-- A wait for the operator's resume that lasts a span of time at most. -/
def resumeFor (now span : Micros) : Except Fault Wait := do
  let time ← Clock.after now span
  return .resume { time := time }

end Wait

/-- A task either waits, in a phase of its own, or is finished. -/
inductive Progress (ι α : Type)
  | waiting (wait : Wait) (phase : ι)
  | finished (result : α)

/-- What a piece of a task leads to: its progress, the state `σ` that it works on, and the world. -/
abbrev Stage (ι α σ : Type) := Progress ι α × σ × World

/-- The same progress in the phases of an enclosing task. -/
def Progress.inside {ι κ α : Type} (f : ι → κ) : Progress ι α → Progress κ α
  | waiting wait phase => waiting wait (f phase)
  | finished a => finished a

end MatchRobot
