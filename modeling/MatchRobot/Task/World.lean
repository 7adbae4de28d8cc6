import MatchRobot.Message.PostOffice
import MatchRobot.Report.Journal
import MatchRobot.Task.Agenda

/-!
# What the tasks share

The tasks of the robot share the clock, the mode flag, the post office, the switches of the operator,
the place that scripts are loaded from and the journal. A `World` holds these, and each operation here
changes what its name says and adds at most a report.

A task that waits leaves a request to be woken: for mail, for room in a full mailbox, for a resume or
for a time. A request stays open until what it asks for happens, even if the task has stopped waiting,
and answering it `stirs` the world, which makes everybody look again.
-/

namespace MatchRobot

/-- The signal that a resume gives. -/
inductive Signal
  | quiet
  /-- Somebody has asked for it. -/
  | awaited
  /-- It was given, and no waiting task has noticed it yet. -/
  | given
  deriving Repr, DecidableEq

/-- The operator's switches for a script. -/
structure Control where
  paused : Bool := false
  debug : Bool := false
  signal : Signal := .quiet
  deriving Repr, DecidableEq

/-- The requests to be woken that are still open. -/
structure Requests where
  /-- Mailboxes in which a message is expected. -/
  mail : List Address := []
  /-- Full mailboxes in which room is expected. -/
  room : List Address := []
  /-- Times that lie ahead. -/
  times : Agenda := .empty
  deriving Repr

/-- What the tasks share. -/
structure World where
  now : Micros := 0
  mode : Mode := .unknown
  post : PostOffice := .empty
  control : Control := {}
  source : ScriptSource := .missing
  journal : Journal := []
  requests : Requests := {}
  /-- Whether a request was answered since everybody looked last. -/
  stirred : Bool := false

namespace World

/-! ### Reports -/

/-- Adds a report to the journal. -/
def tell (w : World) (r : Report) : World :=
  { w with journal := ⟨w.now, r⟩ :: w.journal }

/-- Adds several reports to the journal. -/
def tellAll (w : World) (rs : List Report) : World :=
  rs.foldl tell w

/-- Adds a notice to the journal. -/
def notice (w : World) (n : Notice) : World :=
  w.tell (.notice n)

/-- Reports the progress of a script. -/
def status (w : World) (s : String) : World :=
  w.tell (.status s)

/-! ### Requests -/

/-- Asks to be woken by a message. -/
def expectMail (w : World) (a : Address) : World :=
  { w with requests := { w.requests with mail := w.requests.mail.insert a } }

/-- Asks to be woken when a full mailbox gets room. -/
def expectRoom (w : World) (a : Address) : World :=
  { w with requests := { w.requests with room := w.requests.room.insert a } }

/-- Asks to be woken by a resume. -/
def expectResume (w : World) : World :=
  { w with control := { w.control with signal := .awaited } }

/-- Asks to be woken at a time; one that has come already answers the request at once. -/
def expectTime (w : World) (t : Micros) : World :=
  if t ≤ w.now then { w with stirred := true }
  else { w with requests := { w.requests with times := w.requests.times.insert t } }

/-- A message has arrived. -/
def mailArrived (w : World) (a : Address) : World :=
  if a ∈ w.requests.mail then
    { w with stirred := true, requests := { w.requests with mail := w.requests.mail.erase a } }
  else w

/-- A full mailbox has got room. -/
def roomMade (w : World) (a : Address) : World :=
  if a ∈ w.requests.room then
    { w with stirred := true, requests := { w.requests with room := w.requests.room.erase a } }
  else w

/-- Moves the clock to the earliest time that was asked for, if there is one. -/
def advance? (w : World) : Option World :=
  w.requests.times.first?.map fun t =>
    { w with now := t, requests := { w.requests with times := w.requests.times.rest } }

/-! ### Mailboxes -/

/-- Posts a message to a mailbox that has room for it. -/
def post? (w : World) (a : Address) (m : Message) : Option World :=
  (w.post.post? a m).map fun p => { w with post := p }.mailArrived a

/-- Takes the oldest message out of a mailbox. -/
def take? (w : World) (a : Address) : Option (Message × World) :=
  (w.post.take? a).map fun (m, p) =>
    (m, { if w.post.hasRoom a then w else w.roomMade a with post := p })

/-- Posts a message without waiting; a full mailbox drops it. -/
def offer (w : World) (a : Address) (m : Message) : Bool × World :=
  match w.post? a m with
  | some w => (true, w)
  | none => (false, w.notice (.dropped a m.command))

/-- Takes out everything that waits at an address. -/
def drain (w : World) (a : Address) : List Message × World :=
  let emptied := if w.post.hasRoom a then w else w.roomMade a
  (w.post.queue a, { emptied with post := w.post.clear a })

/-- Throws away what waits at an address and counts it. -/
def discard (w : World) (a : Address) : Nat × World :=
  let (ms, w) := w.drain a
  (ms.length, w)

/-! ### Switches -/

/-- Pauses scripts; an earlier resume no longer counts, and neither does a request to hear of the
next one. -/
def pause (w : World) : World :=
  { w with control := { w.control with paused := true, signal := .quiet } }.notice .paused

/-- Lets scripts go on. -/
def unpause (w : World) : World :=
  let heard := w.control.signal == .awaited
  { w with
    control := { w.control with paused := false, signal := .given }
    stirred := w.stirred || heard }.notice .resumed

/-- Pauses scripts or lets them go on. -/
def togglePause (w : World) : World :=
  if w.control.paused then w.unpause else w.pause

/-- Turns the listing of script lines on or off. -/
def setDebug (w : World) (on : Bool) : World :=
  { w with control := { w.control with debug := on } }

/-! ### What the operations do to the clock -/

/-- The clock moves to a time that was asked for, and no earlier time was asked for. -/
theorem now_of_advance? {w v : World} (h : w.advance? = some v)
    (ordered : w.requests.times.toList.Pairwise (· < ·)) :
    v.now ∈ w.requests.times.toList ∧ ∀ t ∈ w.requests.times.toList, v.now ≤ t := by
  obtain ⟨t, ht, rfl⟩ := Option.map_eq_some_iff.1 h
  rw [Agenda.first?_eq_head?] at ht
  obtain ⟨ts, hts⟩ := List.head?_eq_some_iff.1 ht
  rw [hts] at ordered ⊢
  refine ⟨List.mem_cons_self .., fun u hu => ?_⟩
  rcases List.mem_cons.1 hu with rfl | hu
  · exact Nat.le_refl _
  · exact Nat.le_of_lt ((List.pairwise_cons.1 ordered).1 u hu)

/-! ### What the operations do to the mailboxes -/

@[simp] theorem post_mailArrived (w : World) (a : Address) : (w.mailArrived a).post = w.post := by
  unfold mailArrived
  split <;> rfl

@[simp] theorem post_roomMade (w : World) (a : Address) : (w.roomMade a).post = w.post := by
  unfold roomMade
  split <;> rfl

/-- Posting puts the message into the one mailbox, if that has room. -/
theorem post_of_post? {w v : World} {a : Address} {m : Message} (h : w.post? a m = some v) :
    w.post.post? a m = some v.post := by
  obtain ⟨p, hp, rfl⟩ := Option.map_eq_some_iff.1 h
  simpa using hp

/-- Taking takes the oldest message out of the one mailbox. -/
theorem post_of_take? {w v : World} {a : Address} {m : Message} (h : w.take? a = some (m, v)) :
    w.post.take? a = some (m, v.post) := by
  obtain ⟨⟨n, p⟩, hp, he⟩ := Option.map_eq_some_iff.1 h
  simp only [Prod.mk.injEq] at he
  obtain ⟨rfl, rfl⟩ := he
  simpa using hp

/-! ### What stays as it was -/

@[simp] theorem now_tell (w : World) (r : Report) : (w.tell r).now = w.now := rfl

@[simp] theorem mode_tell (w : World) (r : Report) : (w.tell r).mode = w.mode := rfl

@[simp] theorem post_tell (w : World) (r : Report) : (w.tell r).post = w.post := rfl

@[simp] theorem control_tell (w : World) (r : Report) : (w.tell r).control = w.control := rfl

@[simp] theorem now_tellAll (w : World) (rs : List Report) : (w.tellAll rs).now = w.now := by
  induction rs generalizing w with
  | nil => rfl
  | cons r rs ih => exact ih (w.tell r)

@[simp] theorem mode_tellAll (w : World) (rs : List Report) : (w.tellAll rs).mode = w.mode := by
  induction rs generalizing w with
  | nil => rfl
  | cons r rs ih => exact ih (w.tell r)

@[simp] theorem post_tellAll (w : World) (rs : List Report) : (w.tellAll rs).post = w.post := by
  induction rs generalizing w with
  | nil => rfl
  | cons r rs ih => exact ih (w.tell r)

end World

end MatchRobot
