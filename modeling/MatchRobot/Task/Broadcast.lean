import MatchRobot.Task.Wait

/-!
# Broadcasts

A broadcast posts one command to several mailboxes, one after the other, and waits for room where a
mailbox is full. The mailboxes behind a full one get nothing until there is room in it.
-/

namespace MatchRobot

/-- A broadcast that waits for room in a mailbox. -/
structure Broadcast where
  command : Command
  /-- The mailboxes that come after that one. -/
  rest : List Address

namespace Broadcast

/-- Posts a command to the mailboxes of a list, in this order, and comes to a result then. -/
def start {α : Type} (c : Command) (result : α) : List Address → Progress Broadcast α
  | [] => .finished result
  | a :: rest => .waiting (.send a { command := c }) ⟨c, rest⟩

/-- Goes on to the next mailbox. -/
def resume {α : Type} (b : Broadcast) (result : α) : Progress Broadcast α :=
  start b.command result b.rest

end Broadcast

end MatchRobot
