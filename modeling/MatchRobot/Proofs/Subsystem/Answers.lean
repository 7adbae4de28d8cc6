import Mathlib.Tactic.ByContra
import MatchRobot.Proofs.Subsystem.Deeds

/-!
# Every synchronous message is answered once

A message whose sender waits for an answer is taken once and comes to one verdict, and the verdict is
posted once, to the mailbox that the message names and under the number of its call. Nothing else that
a subsystem posts is a reply. The two halves are kept as equations between lists, so that the order is
part of what is proved, and each allows for what is still under way: the message that is worked on, and
the answer that waits for room.

Messages leave the mailbox of a subsystem in no other way, with the one exception of the macro that
hangs a gear: what arrives in the meantime is thrown away at its end, and nobody is told.
`Part.answers_once` says all this of every part, and `Part.sweep_drops_call` shows the exception.
-/

namespace MatchRobot

/-- Whether the sender of a message gets an answer; the news of a mode is not answered. -/
def Message.asks (m : Message) : Bool :=
  m.expectsReply && !m.isMode

/-- The answer that a verdict on a message leads to, with the mailbox that it goes to. -/
def Message.replyFor (x : Message × Verdict) : Option (Address × Message) :=
  x.1.replyTo.map fun a => (a, x.1.answer x.2.reply)

namespace Cycle

variable {σ : Type} [Subsystem σ]

/-- The message that a cycle works on, if its sender waits for an answer. -/
def inHand {ι : Type} : Cycle ι → List Message
  | handling m _ => [m].filter Message.expectsReply
  | _ => []

/-- The answer that a cycle waits to post. -/
def owed {ι : Type} : Cycle ι → Wait → List (Address × Message)
  | replying, .send a m => [(a, m)]
  | _, _ => []

/-- Whether an alarm is armed makes no difference to what is owed. -/
lemma owed_of_rearmed {ι : Type} (c : Cycle ι) {wait wait' : Wait} (h : wait.Rearmed wait') :
    c.owed wait' = c.owed wait := by
  cases h <;> cases c <;> rfl

/-- The messages that a running subsystem has taken and come to no verdict on. -/
def unsettled {ι α : Type} : Progress (Cycle ι) α → List Message
  | .waiting _ c => c.inHand
  | .finished _ => []

/-- The answers that a running subsystem waits to post. -/
def unposted {ι α : Type} : Progress (Cycle ι) α → List (Address × Message)
  | .waiting wait c => c.owed wait
  | .finished _ => []

variable {fits : Subsystem.Job σ → Wait → Prop} {bin : Option Address}
  {sweeps : Subsystem.Job σ → Prop} {v w : World}

/-! ### One stretch of work -/

/-- What a wait takes out of the mailbox is in hand afterwards. -/
lemma taken_of_ended (modest : Subsystem.Modest σ fits bin sweeps) {wait : Wait} {wake : Wake}
    {c : Cycle (Subsystem.Job σ)} (fit : Fits (Subsystem.address σ) fits c wait)
    (ended : v.Ended wait wake w) :
    c.inHand ++ (wait.taken (Subsystem.address σ) wake).filter Message.asks =
      (c.hand wake).toList.filter Message.expectsReply := by
  cases fit with
  | listening =>
    cases ended with
    | @received _ limit m _ h =>
      cases mode : m.isMode <;>
        simp [Wait.taken, hand, inHand, Wake.message, mode, Message.asks, List.filter_cons]
    | missed =>
      simp [Wait.taken, hand, inHand, Wake.message, Message.timeout, Message.isMode,
        Message.expectsReply]
  | entering fit =>
    rw [Wait.taken_eq_nil (fun limit => modest.reads fit)]
    rfl
  | handling news fit =>
    rw [Wait.taken_eq_nil (fun limit => modest.reads fit)]
    exact List.append_nil _
  | replying reply => rfl

/-- What is in hand is settled, or still in hand. -/
lemma Next.settled {own : Address} {m : Option Message} {vs : List (Message × Verdict)} {wait : Wait}
    {c : Cycle (Subsystem.Job σ)} (next : Next own fits m vs wait c) :
    m.toList.filter Message.expectsReply =
      (vs.map Prod.fst).filter Message.expectsReply ++ c.inHand := by
  cases next with
  | working => rfl
  | entering | listening | mute | answering => exact (List.append_nil _).symm

/-- A reply is posted only where an answer was owed. -/
lemma posted_of_ended (modest : Subsystem.Modest σ fits bin sweeps) {wait : Wait} {wake : Wake}
    {c : Cycle (Subsystem.Job σ)} (fit : Fits (Subsystem.address σ) fits c wait)
    (ended : v.Ended wait wake w) :
    (wait.posted wake).filter (fun x => x.2.command.asReply.isSome) = c.owed wait := by
  cases fit with
  | listening => rfl
  | entering fit => exact (modest.mild fit).posted wake
  | handling news fit => exact (modest.mild fit).posted wake
  | replying reply =>
    cases ended
    simp [Wait.posted, owed, reply]

/-- A verdict leads to an answer that is owed, if there is one at all. -/
lemma Next.owed {own : Address} {m : Option Message} {vs : List (Message × Verdict)} {wait : Wait}
    {c : Cycle (Subsystem.Job σ)} (next : Next own fits m vs wait c) :
    vs.filterMap Message.replyFor = c.owed wait := by
  cases next with
  | mute unasked => simp [Message.replyFor, unasked, Cycle.owed]
  | answering asked => simp [Message.replyFor, asked, Cycle.owed]
  | entering | listening | working => rfl

/-- Work throws away the head of the mailbox, and nothing else leaves it. -/
lemma queue_of_runOn (modest : Subsystem.Modest σ fits bin sweeps) {wait : Wait} {wake : Wake}
    {c : Cycle (Subsystem.Job σ)} {p : Progress (Cycle (Subsystem.Job σ)) Empty} {r r' : Runner σ}
    (fit : Fits (Subsystem.address σ) fits c wait) (done : c.runOn wake r v = .ok (p, r', w)) :
    v.post.queue (Subsystem.address σ) =
        c.thrown wake r v ++ w.post.queue (Subsystem.address σ) ∧
      (¬ Sweeping sweeps c → c.thrown wake r v = []) := by
  have shrunk : w.post.queue (Subsystem.address σ) <:+ v.post.queue (Subsystem.address σ) := by
    rcases (runOn_next modest fit done).1 with kept | ⟨-, kept⟩
    · exact kept.suffix _
    · exact kept.suffix _
  have thrown : c.thrown wake r v = (v.post.queue (Subsystem.address σ)).take
      (v.post.count (Subsystem.address σ) - w.post.count (Subsystem.address σ)) := by
    unfold Cycle.thrown
    rw [done]
  rw [thrown]
  refine ⟨?_, fun busy => ?_⟩
  · obtain ⟨lost, hq⟩ := shrunk
    simp [PostOffice.count, ← hq]
  · rcases (runOn_next modest fit done).1 with kept | ⟨sweeping, -⟩
    · simp [PostOffice.count, kept.same _ modest.elsewhere]
    · exact absurd sweeping busy

/-- What leaves the mailbox of a subsystem at a step of its own is taken or thrown away, and what
enters it was posted. -/
lemma queue_of_step (modest : Subsystem.Modest σ fits bin sweeps)
    {b c : Stage (Cycle (Subsystem.Job σ)) Empty (Runner σ)} {l : List Deed}
    (step : (routine σ).Step b l c)
    (fit : ∀ wait phase, b.1 = .waiting wait phase → Fits (Subsystem.address σ) fits phase wait) :
    b.2.2.post.queue (Subsystem.address σ) ++ postedTo (Subsystem.address σ) (Deed.posts l) =
      Deed.taken l ++ Deed.dropped l ++ c.2.2.post.queue (Subsystem.address σ) := by
  cases step with
  | pending looked =>
    have same := (World.rearmed_of_poll looked).2.same (Subsystem.address σ) nofun
    exact (List.append_nil _).trans same.symm
  | @woken wait wake phase r v u stage looked worked =>
    have ended := (World.ended_of_poll looked).queue (Subsystem.address σ)
    have emptied := (queue_of_runOn modest (fit _ _ rfl) worked).1
    simp only [routine, posts_deeds, taken_deeds, dropped_deeds]
    rw [ended, emptied, List.append_assoc]

/-! ### Whole runs -/

/-- What becomes of the messages of a subsystem, up to a moment of its run. -/
structure Answered (t : List Deed) (b : Stage (Cycle (Subsystem.Job σ)) Empty (Runner σ)) :
    Prop where
  /-- Each message whose sender is to get an answer comes to one verdict, in order. -/
  settled : (Deed.taken t).filter Message.asks =
    ((Deed.verdicts t).map Prod.fst).filter Message.expectsReply ++ unsettled b.1
  /-- Each such verdict is posted as one reply, in order, and there are no other replies. -/
  replied : (Deed.verdicts t).filterMap Message.replyFor = Deed.replies t ++ unposted b.1

lemma answered_of_run (modest : Subsystem.Modest σ fits bin sweeps)
    {outside : Runner σ × World → Runner σ × World → Prop}
    {a b : Stage (Cycle (Subsystem.Job σ)) Empty (Runner σ)} {t : List Deed}
    (run : (routine σ).Run outside a t b) (begun : ∃ limit,
      a.1 = .waiting (.receive (Subsystem.address σ) limit) listening) :
    Answered t b := by
  have fitting : ∀ wait c, a.1 = .waiting wait c → Fits (Subsystem.address σ) fits c wait := by
    obtain ⟨limit, ha⟩ := begun
    intro wait c h
    cases ha.symm.trans h
    exact .listening
  induction run with
  | start =>
    obtain ⟨limit, ha⟩ := begun
    constructor
    · rw [ha]; rfl
    · rw [ha]; rfl
  | look run step ih =>
    have fit := fits_of_run modest run fitting
    cases step with
    | pending looked =>
      rw [List.append_nil]
      refine ⟨ih.settled, ih.replied.trans ?_⟩
      rw [unposted, unposted, owed_of_rearmed _ (World.rearmed_of_poll looked).1]
    | @woken wait wake c r v u stage looked worked =>
      have ended := World.ended_of_poll looked
      obtain ⟨-, wait', c', stopped, next⟩ := runOn_next modest (fit _ _ rfl) worked
      have held := taken_of_ended modest (fit _ _ rfl) ended
      have posted := posted_of_ended modest (fit _ _ rfl) ended
      have settled := ih.settled
      have replied := ih.replied
      rw [unsettled] at settled
      rw [unposted] at replied
      constructor
      · rw [stopped, unsettled, routine, Deed.taken_append, Deed.verdicts_append, taken_deeds,
          verdicts_deeds, List.filter_append, settled, List.append_assoc, held, next.settled,
          List.map_append, List.filter_append, List.append_assoc]
      · rw [stopped, unposted, routine, Deed.verdicts_append, Deed.replies_append, verdicts_deeds,
          replies_deeds, List.filterMap_append, replied, posted, next.owed]
  | around run change ih => exact ⟨ih.settled, ih.replied⟩

end Cycle

/-! ### Every part -/

namespace Part

/-- Every part answers each message whose sender is to get an answer once, and posts no other reply.
Its mailbox loses nothing but what it takes, and what the floor intake throws away at the end of the
macro that hangs a gear. -/
theorem answers_once (p : Part) {r : Runner p.State} {w : World}
    {outside : Runner p.State × World → Runner p.State × World → Prop}
    {first b : Stage (Cycle p.Job) Empty (Runner p.State)} {t : List Deed}
    (begun : Cycle.start r w = .ok first) (run : (Cycle.routine p.State).Run outside first t b) :
    Cycle.Answered t b ∧ ∀ {l c}, (Cycle.routine p.State).Step b l c →
      b.2.2.post.queue p.address ++ postedTo p.address (Deed.posts l) =
          Deed.taken l ++ Deed.dropped l ++ c.2.2.post.queue p.address ∧
        (Deed.dropped l ≠ [] → ∃ wait phase, b.1 = .waiting wait phase ∧
          Cycle.Sweeping p.Sweeps phase) := by
  obtain ⟨progress, r', w'⟩ := first
  obtain ⟨rfl, rfl, limit, rfl⟩ := Cycle.start_eq_ok begun
  have fit := Cycle.fits_of_run p.modest run fun wait c h => by cases h; exact .listening
  refine ⟨Cycle.answered_of_run p.modest run ⟨limit, rfl⟩, fun {l c} step => ?_⟩
  refine ⟨Cycle.queue_of_step p.modest step fit, fun dropped => ?_⟩
  cases step with
  | pending looked => exact absurd rfl dropped
  | @woken wait wake phase r v u stage looked worked =>
    refine ⟨wait, phase, rfl, ?_⟩
    by_contra busy
    rw [Cycle.routine, Cycle.dropped_deeds] at dropped
    exact dropped ((Cycle.queue_of_runOn p.modest (fit _ _ rfl) worked).2 busy)

/-- A message whose sender waits for an answer. -/
def call (command : Command) : Message :=
  { command := command, replyTo := some .autoParser, callId := 7 }

theorem hopper_answers_once : ∃ first t b,
    Cycle.start (⟨{}, 0⟩ : Runner Hopper) {} = .ok first ∧
      (Cycle.routine Hopper).Run (fun _ _ => True) first t b ∧ Cycle.Answered t b ∧
      (Deed.replies t).map (fun x => (x.1, x.2.callId)) = [(.autoParser, 7)] := by
  have played : ((Cycle.start (⟨{}, 0⟩ : Runner Hopper) {}).toOption.any fun first =>
      ((Cycle.routine Hopper).play [deliver .hopper (call (.hopper .stop)), .look, .look] first).any
        fun x => (Deed.replies x.1).map (fun x => (x.1, x.2.callId)) == [(.autoParser, 7)]) = true := by
    decide +kernel
  obtain ⟨first, t, b, begun, run, answered⟩ :=
    Routine.exists_run_of_begun (fun _ _ => True) played fun _ _ _ => trivial
  exact ⟨first, t, b, begun, run, (answers_once .hopper begun run).1, by simpa using answered⟩

/-- A message that reaches the floor intake while it hangs a gear gets no answer, although its sender
waits for one. -/
theorem sweep_drops_call : ¬ ∀ (p : Part) (r : Runner p.State) (w : World) outside first t b,
    Cycle.start r w = .ok first → (Cycle.routine p.State).Run outside first t b →
    Cycle.unsettled b.1 = [] → Cycle.unposted b.1 = [] →
    (Deed.replies t).length = ((Deed.taken t ++ Deed.dropped t).filter Message.asks).length := by
  have played : ((Cycle.start (⟨{}, 0⟩ : Runner FloorIntake) {}).toOption.any fun first =>
      ((Cycle.routine FloorIntake).play
          [deliver .gearFloor { command := .floor .hangGear }, .look,
            deliver .gearFloor (call (.floor .stop)), .look, second .gearFloor, .look,
            .look, second .gearFloor, .look, .look, second .gearFloor, .look] first).any fun x =>
        (Deed.replies x.1).isEmpty && (Deed.taken x.1).length == 1 && (Deed.dropped x.1).length == 1
        && ((Deed.taken x.1 ++ Deed.dropped x.1).filter Message.asks).length == 1
        && (Cycle.unsettled x.2.1).isEmpty && (Cycle.unposted x.2.1).isEmpty) = true := by
    decide +kernel
  obtain ⟨first, t, b, begun, run, passed⟩ :=
    Routine.exists_run_of_begun (fun _ _ => True) played fun _ _ _ => trivial
  simp only [Bool.and_eq_true, List.isEmpty_iff, beq_iff_eq] at passed
  obtain ⟨⟨⟨⟨⟨none, -⟩, -⟩, one⟩, settled⟩, posted⟩ := passed
  intro claim
  have equal := claim .gearFloor _ _ _ first t b begun run settled posted
  rw [none, one] at equal
  cases equal

end Part

end MatchRobot
