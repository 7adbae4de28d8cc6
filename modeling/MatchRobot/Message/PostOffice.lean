import MatchRobot.Message.Command
import MatchRobot.Settings

/-!
# The post office

The post office holds one first-in first-out mailbox for each address. A mailbox has room for
`Settings.mailboxDepth` messages: `post?` puts a message at the end or finds no room, `take?` removes
the oldest one. Each operation touches one mailbox and leaves the others alone.
-/

namespace MatchRobot

/-- The mailboxes of the robot, one for each address, the oldest message first. -/
structure PostOffice where
  boxes : Vector (List Message) 7

namespace PostOffice

/-- A post office with empty mailboxes. -/
def empty : PostOffice :=
  ⟨Vector.replicate 7 []⟩

instance : Inhabited PostOffice := ⟨empty⟩

/-- The messages that wait at an address, the oldest first. -/
def queue (p : PostOffice) (a : Address) : List Message :=
  p.boxes[a.index]

/-- The post office with other messages waiting at one address. -/
def setQueue (p : PostOffice) (a : Address) (ms : List Message) : PostOffice :=
  ⟨p.boxes.set a.index ms⟩

/-- How many messages wait at an address. -/
def count (p : PostOffice) (a : Address) : Nat :=
  (p.queue a).length

/-- Whether a message can be posted to an address. -/
def hasRoom (p : PostOffice) (a : Address) : Bool :=
  p.count a < Settings.mailboxDepth

/-- Puts a message at the end of a mailbox that has room for it. -/
def post? (p : PostOffice) (a : Address) (m : Message) : Option PostOffice :=
  if p.hasRoom a then some (p.setQueue a (p.queue a ++ [m])) else none

/-- Takes the oldest message out of a mailbox. -/
def take? (p : PostOffice) (a : Address) : Option (Message × PostOffice) :=
  match p.queue a with
  | [] => none
  | m :: ms => some (m, p.setQueue a ms)

/-- Throws away what waits at an address. -/
def clear (p : PostOffice) (a : Address) : PostOffice :=
  p.setQueue a []

/-! ### What the operations do to the mailboxes -/

@[simp] theorem queue_empty (a : Address) : empty.queue a = [] := by
  simp [queue, empty]

@[simp] theorem queue_setQueue (p : PostOffice) (a : Address) (ms : List Message) :
    (p.setQueue a ms).queue a = ms := by
  simp [queue, setQueue]

theorem queue_setQueue_of_ne (p : PostOffice) {a b : Address} (h : a ≠ b) (ms : List Message) :
    (p.setQueue a ms).queue b = p.queue b := by
  have hne : (a.index : Nat) ≠ b.index := fun e => h (Address.index_inj.1 (Fin.ext e))
  simp [queue, setQueue, hne]

/-- A mailbox without room holds as many messages as it may. -/
theorem hasRoom_eq_false_iff {p : PostOffice} {a : Address} :
    p.hasRoom a = false ↔ Settings.mailboxDepth ≤ (p.queue a).length := by
  rw [hasRoom, decide_eq_false_iff_not, Nat.not_lt, count]

/-- Posting appends to the one mailbox and asks for room there. -/
theorem post?_eq_some_iff {p q : PostOffice} {a : Address} {m : Message} :
    p.post? a m = some q ↔ p.hasRoom a = true ∧ p.setQueue a (p.queue a ++ [m]) = q := by
  unfold post?
  split <;> simp [*]

/-- Taking removes the head of the one mailbox. -/
theorem take?_eq_some_iff {p q : PostOffice} {a : Address} {m : Message} :
    p.take? a = some (m, q) ↔ ∃ ms, p.queue a = m :: ms ∧ p.setQueue a ms = q := by
  unfold take?
  split
  · simp [*]
  · next n ns h => simp only [h, Option.some.injEq, Prod.mk.injEq, List.cons.injEq]; grind

end PostOffice

end MatchRobot
