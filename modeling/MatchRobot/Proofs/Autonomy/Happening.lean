import MatchRobot.Proofs.Autonomy.Calls
import MatchRobot.Proofs.Subsystem.Balance

/-!
# What happens between a caller and its tasks

A `Happening` is something that a call or one of the tasks does. `Happening.judged` picks the verdicts on
the messages of calls with certain numbers. The lemmas on filters say which of the messages that are
settled and answered they account for.
-/

namespace MatchRobot

/-- A verdict, with the task that came to it and the message that it is on. -/
structure Ruling where
  box : Address
  message : Message
  verdict : Verdict

/-- The message of a ruling, as it was posted. -/
def Ruling.letter (x : Ruling) : Address × Message :=
  (x.box, x.message)

/-- The answer that a ruling leads to. -/
def Ruling.answer (x : Ruling) : Message :=
  x.message.answer x.verdict.reply

/-- Something that happens in a fleet. -/
inductive Happening
  | began
  | called (note : Call.Note)
  /-- The task with the given mailbox does something. -/
  | did (box : Address) (deed : Deed)

namespace Happening

/-- How many calls are begun. -/
def calls (t : List Happening) : Nat :=
  t.countP fun | began => true | _ => false

/-- What the caller posts, in order. -/
def sent (t : List Happening) : List (Address × Message) :=
  t.filterMap fun | called (.sent x) => some x | _ => none

/-- What the caller counts, in order. -/
def counted (t : List Happening) : List Message :=
  t.filterMap fun | called (.counted m) => some m | _ => none

/-- The verdicts of the tasks, in order. -/
def rulings (t : List Happening) : List Ruling :=
  t.filterMap fun | did a (.settled m v) => some ⟨a, m, v⟩ | _ => none

/-- The verdicts on messages that ask for a reply to the caller under one of the given numbers. -/
def judged (ids : UInt32 → Bool) (t : List Happening) : List Ruling :=
  (rulings t).filter fun x => x.message.replyTo == some .autoParser && ids x.message.callId

/-- The messages with a verdict whose senders wait for an answer. -/
def settled (t : List Happening) : List (Address × Message) :=
  ((rulings t).filter fun x => x.message.expectsReply).map Ruling.letter

/-- The answers that the verdicts lead to, with the mailboxes that they go to. -/
def answers (t : List Happening) : List (Address × Message) :=
  (rulings t).filterMap fun x => x.message.replyTo.map fun a => (a, x.answer)

section

variable (ids : UInt32 → Bool) (t l : List Happening) (notes : List Call.Note) (a : Address)
  (deeds : List Deed)

@[simp] lemma calls_append : calls (t ++ l) = calls t + calls l := List.countP_append

@[simp] lemma sent_append : sent (t ++ l) = sent t ++ sent l := List.filterMap_append

@[simp] lemma counted_append : counted (t ++ l) = counted t ++ counted l := List.filterMap_append

@[simp] lemma rulings_append : rulings (t ++ l) = rulings t ++ rulings l := List.filterMap_append

@[simp] lemma judged_append : judged ids (t ++ l) = judged ids t ++ judged ids l := by
  rw [judged, rulings_append, List.filter_append]
  rfl

@[simp] lemma sent_called : sent (notes.map called) = Call.Note.letters notes := by
  rw [sent, List.filterMap_map]
  exact List.filterMap_congr fun n _ => by cases n <;> rfl

@[simp] lemma counted_called : counted (notes.map called) = Call.Note.answers notes := by
  rw [counted, List.filterMap_map]
  exact List.filterMap_congr fun n _ => by cases n <;> rfl

@[simp] lemma rulings_called : rulings (notes.map called) = [] := by
  simp [rulings, List.filterMap_map, List.filterMap_none]

@[simp] lemma sent_did : sent (deeds.map (did a)) = [] := by
  simp [sent, List.filterMap_map, List.filterMap_none]

@[simp] lemma counted_did : counted (deeds.map (did a)) = [] := by
  simp [counted, List.filterMap_map, List.filterMap_none]

@[simp] lemma rulings_did :
    rulings (deeds.map (did a)) = (Deed.verdicts deeds).map fun x => ⟨a, x.1, x.2⟩ := by
  rw [rulings, Deed.verdicts, List.filterMap_map, List.map_filterMap]
  exact List.filterMap_congr fun d _ => by cases d <;> rfl

@[simp] lemma settled_called : settled (notes.map called) = [] := by
  simp [settled]

@[simp] lemma answers_called : answers (notes.map called) = [] := by
  simp [answers]

lemma settled_did : (settled (deeds.map (did a)) : Multiset (Address × Message)) =
    addressed a (((Deed.verdicts deeds).map Prod.fst).filter Message.expectsReply) := by
  rw [settled, rulings_did, List.filter_map, List.map_map, addressed, List.filter_map,
    List.map_map]
  rfl

lemma answers_did :
    answers (deeds.map (did a)) = (Deed.verdicts deeds).filterMap Message.replyFor := by
  rw [answers, rulings_did, List.filterMap_map]
  rfl

end

end Happening

/-! ### Messages that belong to calls -/

/-- Whether a message asks for a reply to the caller, under one of the given numbers. -/
def asksUnder (ids : UInt32 → Bool) (x : Address × Message) : Bool :=
  x.2.replyTo == some .autoParser && ids x.2.callId

/-- Whether a message is a reply to the caller, under one of the given numbers. -/
def repliesUnder (ids : UInt32 → Bool) (x : Address × Message) : Bool :=
  x.1 == .autoParser && x.2.command.asReply.isSome && ids x.2.callId

/-- Whether a message belongs to a call: it has a number, and it asks for a reply to the caller or is
one. -/
def Tagged (x : Address × Message) : Bool :=
  asksUnder (· != 0) x || repliesUnder (· != 0) x

section

variable {ids : UInt32 → Bool} {x : Address × Message}

/-- Numbers that leave out zero are proper ones. -/
lemma ne_zero_of_ids {n : UInt32} (zero : ids 0 = false) (h : ids n = true) : (n != 0) = true := by
  rw [bne_iff_ne]
  intro none
  rw [none, zero] at h
  cases h

lemma tagged_of_asksUnder (zero : ids 0 = false) (h : asksUnder ids x = true) :
    Tagged x = true := by
  simp only [asksUnder, Bool.and_eq_true] at h
  obtain ⟨asked, number⟩ := h
  simp [Tagged, asksUnder, asked, ne_zero_of_ids zero number]

lemma tagged_of_repliesUnder (zero : ids 0 = false) (h : repliesUnder ids x = true) :
    Tagged x = true := by
  simp only [repliesUnder, Bool.and_eq_true] at h
  obtain ⟨⟨home, reply⟩, number⟩ := h
  simp [Tagged, repliesUnder, home, reply, ne_zero_of_ids zero number]

end

namespace Happening

variable (ids : UInt32 → Bool) (t : List Happening)

/-- The messages to the caller's tasks that are settled. -/
lemma filter_settled : (settled t).filter (asksUnder ids) = (judged ids t).map Ruling.letter := by
  rw [settled, judged, List.filter_map, List.filter_filter]
  congr 1
  refine List.filter_congr fun x _ => ?_
  cases h : x.message.replyTo <;> simp [asksUnder, Ruling.letter, Message.expectsReply, h]

/-- An answer asks for nothing. -/
lemma filter_answers : (answers t).filter (asksUnder ids) = [] := by
  rw [List.filter_eq_nil_iff]
  intro y hy
  obtain ⟨x, -, h⟩ := List.mem_filterMap.1 hy
  obtain ⟨a, -, rfl⟩ := Option.map_eq_some_iff.1 h
  simp [asksUnder, Ruling.answer, Message.answer]

/-- The answers that go to the caller are those to its own messages. -/
lemma filter_answers_replies :
    ((answers t).filter (repliesUnder ids) : Multiset (Address × Message)) =
      addressed .autoParser ((judged ids t).map Ruling.answer) := by
  rw [answers, judged, addressed, List.map_map, Multiset.coe_eq_coe]
  refine List.Perm.of_eq ?_
  induction rulings t with
  | nil => rfl
  | cons x rest ih =>
    have reply : x.answer.command.asReply.isSome = true := by
      simp [Ruling.answer, Message.answer]
    have number : x.answer.callId = x.message.callId := rfl
    cases h : x.message.replyTo with
    | none => simpa [h] using ih
    | some a =>
      by_cases home : a = .autoParser
      · subst home
        cases own : ids x.message.callId <;> simp [h, repliesUnder, reply, number, own, ih]
      · simp [h, repliesUnder, home, ih]

end Happening

end MatchRobot
