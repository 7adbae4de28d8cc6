import Mathlib.Tactic.Abel
import MatchRobot.Proofs.Subsystem.Answers
import MatchRobot.Proofs.Task.Mail

/-!
# The balance of a task

A task holds the message that it works on and owes the answer that it waits to post. Its jobs may post
messages of their own and fetch some from other mailboxes. `Cycle.flow_of_woken` is the balance of a
stretch of work: what it holds, what it owes and what is in the mail afterwards, together with the
messages that it settled and those that its jobs fetched, were there before, or they answer one of its
verdicts, or its jobs posted them.

Jobs that only sleep post nothing and fetch nothing, and `Cycle.flow_of_step` is what is left of the
balance then.
-/

namespace MatchRobot

namespace Cycle

/-- What a task with the given mailbox works on and what it waits to post. -/
def held {ι α : Type} (own : Address) (p : Progress (Cycle ι) α) : Multiset (Address × Message) :=
  addressed own (unsettled p) + unposted p

/-- What a job posts at the end of a wait. -/
def errands {ι : Type} (c : Cycle ι) (wait : Wait) (wake : Wake) : List (Address × Message) :=
  match c with
  | entering _ | handling _ _ => wait.posted wake
  | _ => []

/-- What a job takes out of a mailbox at the end of a wait. -/
def fetched {ι : Type} (c : Cycle ι) (wait : Wait) (wake : Wake) : List (Address × Message) :=
  match c with
  | entering _ | handling _ _ => wait.picked wake
  | _ => []

variable {σ : Type} [Subsystem σ] {fits : Subsystem.Job σ → Wait → Prop} {bin : Option Address}
  {sweeps : Subsystem.Job σ → Prop}

/-- A task posts what it owes, and what its jobs post. -/
lemma posted_eq_errands {ι : Type} {fits : ι → Wait → Prop} {own : Address} {wait : Wait}
    {wake : Wake} {c : Cycle ι} {v w : World} (fit : Fits own fits c wait)
    (ended : v.Ended wait wake w) : wait.posted wake = c.owed wait ++ c.errands wait wake := by
  cases fit with
  | listening => rfl
  | entering => rfl
  | handling => rfl
  | replying =>
    cases ended
    rfl

/-- A task takes messages from its own mailbox, and what its jobs fetch. -/
lemma picked_eq_fetched (modest : Subsystem.Modest σ fits bin sweeps) {wait : Wait}
    {c : Cycle (Subsystem.Job σ)} (fit : Fits (Subsystem.address σ) fits c wait) (wake : Wake) :
    (wait.picked wake : Multiset (Address × Message)) =
      addressed (Subsystem.address σ) (wait.taken (Subsystem.address σ) wake) +
        c.fetched wait wake := by
  cases fit with
  | listening => cases wake <;> simp [Wait.picked, Wait.taken, addressed, fetched]
  | entering fit =>
    rw [Wait.taken_eq_nil (fun limit => modest.reads fit), addressed_nil, zero_add]
    rfl
  | handling news fit =>
    rw [Wait.taken_eq_nil (fun limit => modest.reads fit), addressed_nil, zero_add]
    rfl
  | replying => rfl

/-- A job that sleeps posts nothing. -/
lemma errands_of_asleep {ι : Type} {own : Address} {wait : Wait} {c : Cycle ι}
    (fit : Fits own Asleep c wait) (wake : Wake) : c.errands wait wake = [] := by
  cases fit with
  | entering asleep | handling news asleep =>
    obtain ⟨a, rfl⟩ := asleep
    rfl
  | listening | replying => rfl

/-- What is in hand and owed afterwards, with the mail and what is settled and fetched, was there
before. -/
lemma balance {α : Type}
    {hand hand' owed owed' settled asked taken fetched errands old mid new : Multiset α}
    (work : hand + asked = settled + hand') (heard : asked ≤ taken)
    (wait : old + (owed + errands) = taken + fetched + mid) (shrunk : new ≤ mid) :
    hand' + owed' + new + settled + fetched ≤ hand + owed + old + owed' + errands := by
  calc hand' + owed' + new + settled + fetched
      = (settled + hand') + owed' + new + fetched := by abel
    _ = (hand + asked) + owed' + new + fetched := by rw [work]
    _ ≤ (hand + taken) + owed' + mid + fetched := by gcongr
    _ = hand + (taken + fetched + mid) + owed' := by abel
    _ = hand + (old + (owed + errands)) + owed' := by rw [wait]
    _ = hand + owed + old + owed' + errands := by abel

/-- The balance of a stretch of work: a message that is settled was held or waited in a mailbox, what a
job fetches waited there too, an answer comes from a verdict, and jobs post the rest. -/
lemma flow_of_woken (modest : Subsystem.Modest σ fits bin sweeps) {wait : Wait} {wake : Wake}
    {c : Cycle (Subsystem.Job σ)} {r r' : Runner σ} {u v w : World}
    {p : Progress (Cycle (Subsystem.Job σ)) Empty} (fit : Fits (Subsystem.address σ) fits c wait)
    (ended : u.Ended wait wake v) (done : c.runOn wake r v = .ok (p, r', w)) :
    held (Subsystem.address σ) p + w.mail +
        addressed (Subsystem.address σ)
          (((c.judged wake r v).map Prod.fst).filter Message.expectsReply) +
        c.fetched wait wake ≤
      held (Subsystem.address σ) (.waiting wait c : Progress _ Empty) + u.mail +
        ((c.judged wake r v).filterMap Message.replyFor : List (Address × Message)) +
        c.errands wait wake := by
  obtain ⟨kept, wait', c', stopped, next⟩ := runOn_next modest fit done
  have mail := ended.mail
  rw [posted_eq_errands fit ended, picked_eq_fetched modest fit, ← Multiset.coe_add] at mail
  have shrunk : w.mail ≤ v.mail := by
    rcases kept with kept | ⟨-, kept⟩
    · exact kept.mail_le
    · exact kept.mail_le
  have hand := congrArg (addressed (Subsystem.address σ))
    ((taken_of_ended modest fit ended).trans next.settled)
  rw [addressed_append, addressed_append] at hand
  have heard : addressed (Subsystem.address σ)
      ((wait.taken (Subsystem.address σ) wake).filter Message.asks) ≤
        addressed (Subsystem.address σ) (wait.taken (Subsystem.address σ) wake) :=
    addressed_le List.filter_sublist
  rw [stopped, next.owed]
  exact balance hand heard mail shrunk

/-- A look at a task that waits on changes nothing of what it holds. -/
lemma held_of_rearmed {ι : Type} (own : Address) (c : Cycle ι) {wait wait' : Wait}
    (h : wait.Rearmed wait') : held own (.waiting wait' c : Progress _ Empty) =
      held own (.waiting wait c : Progress _ Empty) := by
  simp only [held, unsettled, unposted, owed_of_rearmed c h]

/-- The balance of a step of a task whose jobs only sleep. -/
lemma flow_of_step (modest : Subsystem.Modest σ Asleep none sweeps)
    {b c : Stage (Cycle (Subsystem.Job σ)) Empty (Runner σ)} {l : List Deed}
    (step : (routine σ).Step b l c)
    (fit : ∀ wait phase, b.1 = .waiting wait phase →
      Fits (Subsystem.address σ) Asleep phase wait) :
    held (Subsystem.address σ) c.1 + c.2.2.mail +
        addressed (Subsystem.address σ)
          (((Deed.verdicts l).map Prod.fst).filter Message.expectsReply) ≤
      held (Subsystem.address σ) b.1 + b.2.2.mail +
        ((Deed.verdicts l).filterMap Message.replyFor : List (Address × Message)) := by
  cases step with
  | @pending wait wait' phase r v w looked =>
    obtain ⟨rearmed, kept⟩ := World.rearmed_of_poll looked
    simp only [held_of_rearmed _ phase rearmed, Deed.verdicts, List.filterMap_nil, List.map_nil,
      List.filter_nil, addressed_nil, add_zero, Multiset.coe_nil]
    exact add_le_add_right kept.mail_le _
  | @woken wait wake phase r v u _ looked worked =>
    have fit := fit _ _ rfl
    have flow := flow_of_woken modest fit (World.ended_of_poll looked) worked
    rw [errands_of_asleep fit, Multiset.coe_nil, add_zero] at flow
    rw [routine, verdicts_deeds]
    exact le_trans (Multiset.le_add_right _ _) flow

end Cycle

end MatchRobot
