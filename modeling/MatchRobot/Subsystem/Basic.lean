import MatchRobot.Task.Wait

/-!
# Subsystems and their cycle

A subsystem works its devices and listens at one mailbox. In each cycle it takes the next message, or the message
of a quiet cycle when the mailbox stays empty for too long, and handles it from start to finish before
it looks at the mailbox again. The reply that comes out goes back to the sender if one was asked for.

Changes of mode are heard and not answered. Every `Settings.safetyInterval` cycles the safety check
runs before the message is handled; if it has to cut the power, the message is not handled and the
answer is an error.

Handling a message can take long: then it leads to a *job*, which goes on after a wait. `Cycle` says
where a subsystem stands in its cycle, and `Cycle.resume` goes on from there.

A state holds the devices and what the subsystem keeps in mind. Several tasks of one kind share the
devices and the mailbox, but each has a mind of its own: `Subsystem.attach` brings the two together.
-/

namespace MatchRobot

/-- What a kind of subsystem does with its state `σ`. -/
class Subsystem (σ : Type) where
  /-- Work in the middle of which the subsystem waits. -/
  Job : Type
  address : Address
  /-- The name of the subsystem in log messages. -/
  stamp : String
  /-- How long the subsystem waits for a message before it runs a quiet cycle. -/
  cycle : σ → Micros
  /-- Hears of a mode. -/
  enter : Mode → σ → World → Except Fault (Stage Job Unit σ)
  /-- Samples the motor currents and tells whether it had to cut the power. -/
  check : σ → World → Bool × σ × World
  /-- Handles a command. -/
  handle : Command → σ → World → Except Fault (Stage Job Reply σ)
  /-- Goes on with a job after a wait; the reply of a job that belongs to a mode is not sent. -/
  resume : Job → Wake → σ → World → Except Fault (Stage Job Reply σ)
  /-- The mind of the first state with the devices of the second. -/
  attach : σ → σ → σ
  attach_self : ∀ s, attach s s = s := by intros; rfl
  attach_attach : ∀ s t u, attach (attach s t) u = attach s u := by intros; rfl

/-- The message that the end of a listening wait brings: that of a quiet cycle, if none arrived. -/
def Wake.message : Wake → Message
  | .received m _ => m
  | _ => .timeout

/-- A reply of some work that is finished at once. -/
def replied {ι σ : Type} (r : Reply) (s : σ) (w : World) : Stage ι Reply σ :=
  (.finished r, s, w)

/-- What becomes of a message that is taken up. -/
inductive Verdict
  /-- The safety check cut the power, and the message is not handled. -/
  | refused
  | handled (reply : Reply)

/-- The reply that a verdict leads to. -/
def Verdict.reply : Verdict → Reply
  | refused => .error
  | handled reply => reply

/-- Where a subsystem with jobs `ι` stands in its cycle. -/
inductive Cycle (ι : Type)
  | listening
  /-- It works on a mode that it heard of. -/
  | entering (job : ι)
  | handling (message : Message) (job : ι)
  /-- Its reply is being posted. -/
  | replying

/-- A subsystem that runs, with the number of its cycles. -/
structure Runner (σ : Type) where
  subsystem : σ
  loops : UInt32 := 0

/-- Changes the state of a subsystem that runs. -/
def Runner.modify {σ : Type} (r : Runner σ) (f : σ → σ) : Runner σ :=
  { r with subsystem := f r.subsystem }

/-- The task with the devices as another task of its kind left them. -/
def Runner.attach {σ : Type} [Subsystem σ] (r other : Runner σ) : Runner σ :=
  r.modify fun s => Subsystem.attach s other.subsystem

@[simp] theorem Runner.loops_attach {σ : Type} [Subsystem σ] (r other : Runner σ) :
    (r.attach other).loops = r.loops := rfl

@[simp] theorem Runner.attach_self {σ : Type} [Subsystem σ] (r : Runner σ) :
    r.attach r = r := by
  simp [attach, modify, Subsystem.attach_self]

namespace Cycle

variable {σ : Type} [Subsystem σ]

/-- The end of a cycle. -/
def finish {ι : Type} (r : Runner σ) (w : World) : Stage (Cycle ι) Unit (Runner σ) :=
  (.finished (), r, w)

/-- Begins a cycle by listening. -/
def start {α : Type} (r : Runner σ) (w : World) :
    Except Fault (Stage (Cycle (Subsystem.Job σ)) α (Runner σ)) := do
  let wait ← Wait.receiveFor (Subsystem.address σ) w.now (Subsystem.cycle r.subsystem)
  return (.waiting wait .listening, r, w)

/-- Answers a message, if its sender waits for an answer. -/
def answer (m : Message) (reply : Reply) (r : Runner σ) (w : World) :
    Stage (Cycle (Subsystem.Job σ)) Unit (Runner σ) :=
  match m.replyTo with
  | none => finish r w
  | some a => (.waiting (.send a (m.answer reply)) .replying, r, w)

/-- Goes on from the work on a mode. -/
def afterEnter {α : Type} (r : Runner σ) (s : Stage (Subsystem.Job σ) α σ) :
    Stage (Cycle (Subsystem.Job σ)) Unit (Runner σ) :=
  let (progress, subsystem, w) := s
  match progress with
  | .waiting wait job => (.waiting wait (.entering job), { r with subsystem := subsystem }, w)
  | .finished _ => finish { r with subsystem := subsystem } w

/-- Whether the safety check is due in a cycle. -/
def checkDue (loops : UInt32) : Bool :=
  loops.toNat % Settings.safetyInterval == 0

/-- Runs the safety check, if it is due, and tells whether it had to cut the power. -/
def inspect (r : Runner σ) (w : World) : Bool × Runner σ × World :=
  if checkDue r.loops then
    let (tripped, s, w) := Subsystem.check r.subsystem w
    (tripped, { r with subsystem := s }, w)
  else (false, r, w)

/-- Reports a message that is about to be handled; a quiet cycle goes unreported. -/
def announce (stamp : String) (m : Message) (w : World) : World :=
  if m.command.isTimeout then w else w.notice (.commandHeard stamp m.command)

/-- Work on a message, seen from the subsystem that runs; once it is finished, the message is
handled. -/
def handled (r : Runner σ) (s : Stage (Subsystem.Job σ) Reply σ) :
    Stage (Subsystem.Job σ) Verdict (Runner σ) :=
  let (progress, subsystem, w) := s
  match progress with
  | .waiting wait job => (.waiting wait job, { r with subsystem := subsystem }, w)
  | .finished reply => (.finished (.handled reply), { r with subsystem := subsystem }, w)

/-- Begins to work on a message that is no mode. -/
def treat (m : Message) (r : Runner σ) (w : World) :
    Except Fault (Stage (Subsystem.Job σ) Verdict (Runner σ)) :=
  let (tripped, r, w) := inspect r w
  if tripped then .ok (.finished .refused, r, w.notice (.cutoff (Subsystem.stamp σ) m.command))
  else do
    let stage ← Subsystem.handle m.command r.subsystem (announce (Subsystem.stamp σ) m w)
    return handled r stage

/-- Goes on with the work on a message. -/
def pursue (job : Subsystem.Job σ) (wake : Wake) (r : Runner σ) (w : World) :
    Except Fault (Stage (Subsystem.Job σ) Verdict (Runner σ)) := do
  let stage ← Subsystem.resume job wake r.subsystem w
  return handled r stage

/-- Goes on from the work on a message, which is answered as soon as there is a verdict on it. -/
def conclude (m : Message) :
    Stage (Subsystem.Job σ) Verdict (Runner σ) → Stage (Cycle (Subsystem.Job σ)) Unit (Runner σ)
  | (.waiting wait job, r, w) => (.waiting wait (.handling m job), r, w)
  | (.finished verdict, r, w) => answer m verdict.reply r w

/-- Takes a message up. -/
def take (m : Message) (r : Runner σ) (w : World) :
    Except Fault (Stage (Cycle (Subsystem.Job σ)) Unit (Runner σ)) :=
  let r := { r with loops := r.loops + 1 }
  match m.command with
  | .state mode => do
    let w := w.notice (.modeHeard (Subsystem.stamp σ) mode)
    let stage ← Subsystem.enter mode r.subsystem w
    return afterEnter r stage
  | _ => do
    let stage ← treat m r w
    return conclude m stage

/-- Goes on with a cycle after a wait. -/
def resume (c : Cycle (Subsystem.Job σ)) (wake : Wake) (r : Runner σ) (w : World) :
    Except Fault (Stage (Cycle (Subsystem.Job σ)) Unit (Runner σ)) :=
  match c with
  | .listening => take wake.message r w
  | .entering job => do
    let stage ← Subsystem.resume job wake r.subsystem w
    return afterEnter r stage
  | .handling m job => do
    let stage ← pursue job wake r w
    return conclude m stage
  | .replying => .ok (finish r w)

/-- Begins another cycle where one has ended. -/
def again : Stage (Cycle (Subsystem.Job σ)) Unit (Runner σ) →
    Except Fault (Stage (Cycle (Subsystem.Job σ)) Empty (Runner σ))
  | (.waiting wait c, r, w) => .ok (.waiting wait c, r, w)
  | (.finished (), r, w) => start r w

/-- Goes on after a wait, and begins another cycle where one ends: the loop of a subsystem that runs
on its own. -/
def runOn (c : Cycle (Subsystem.Job σ)) (wake : Wake) (r : Runner σ) (w : World) :
    Except Fault (Stage (Cycle (Subsystem.Job σ)) Empty (Runner σ)) := do
  let stage ← c.resume wake r w
  again stage

end Cycle

end MatchRobot
