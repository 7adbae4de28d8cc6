import Mathlib.Data.List.Basic
import MatchRobot.Proofs.Subsystem.Modest

/-!
# What a subsystem does with its messages

A subsystem that runs takes messages out of its mailbox, works on them and posts answers. A `Deed` is
one such event, and `Cycle.routine` is the loop of a subsystem as a routine whose notes are its deeds.

`Cycle.Fits` says what the cycle waits for in each of its phases, and `Cycle.Next` what a stretch of
work leads to: the message in hand is still worked on, or there is a verdict on it and the cycle either
listens again or waits to post the answer. `Cycle.runOn_next` proves both of every modest subsystem.
-/

namespace MatchRobot

/-- Whether a message is the news of a mode, which is heard and not answered. -/
def Message.isMode (m : Message) : Bool :=
  match m.command with
  | .state _ => true
  | _ => false

lemma Message.command_ne_state {m : Message} (h : m.isMode = false) (mode : Mode) :
    m.command ≠ .state mode := by
  intro news
  simp [isMode, news] at h

/-- Something that a subsystem does with a message. -/
inductive Deed
  | took (m : Message)
  /-- The subsystem emptied its mailbox, and the message was in there. -/
  | swept (m : Message)
  | settled (m : Message) (v : Verdict)
  | posted (a : Address) (m : Message)

namespace Deed

/-- The messages taken, in order. -/
def taken (t : List Deed) : List Message :=
  t.filterMap fun | took m => some m | _ => none

/-- The messages thrown away, in order. -/
def dropped (t : List Deed) : List Message :=
  t.filterMap fun | swept m => some m | _ => none

/-- The verdicts, in order. -/
def verdicts (t : List Deed) : List (Message × Verdict) :=
  t.filterMap fun | settled m v => some (m, v) | _ => none

/-- The messages posted, in order. -/
def posts (t : List Deed) : List (Address × Message) :=
  t.filterMap fun | posted a m => some (a, m) | _ => none

/-- The posted messages that are replies. -/
def replies (t : List Deed) : List (Address × Message) :=
  (posts t).filter fun x => x.2.command.asReply.isSome

variable (t l : List Deed)

@[simp] lemma taken_append : taken (t ++ l) = taken t ++ taken l := List.filterMap_append

@[simp] lemma verdicts_append : verdicts (t ++ l) = verdicts t ++ verdicts l := List.filterMap_append

@[simp] lemma posts_append : posts (t ++ l) = posts t ++ posts l := List.filterMap_append

@[simp] lemma replies_append : replies (t ++ l) = replies t ++ replies l := by
  rw [replies, posts_append, List.filter_append]
  rfl

end Deed

namespace Cycle

variable {σ : Type} [Subsystem σ]

/-! ### Deeds -/

/-- The message that a stretch of work is about. -/
def hand {ι : Type} : Cycle ι → Wake → Option Message
  | listening, wake => if wake.message.isMode then none else some wake.message
  | handling m _, _ => some m
  | _, _ => none

/-- The verdict that the work on a message comes to, if it is finished. -/
def verdictOn {ι α : Type} (m : Message) : Except Fault (Stage ι Verdict α) →
    List (Message × Verdict)
  | .ok (.finished v, _) => [(m, v)]
  | _ => []

/-- The verdict that a stretch of work comes to, with its message. -/
def judged (c : Cycle (Subsystem.Job σ)) (wake : Wake) (r : Runner σ) (w : World) :
    List (Message × Verdict) :=
  match c with
  | listening =>
    if wake.message.isMode then []
    else verdictOn wake.message (treat wake.message { r with loops := r.loops + 1 } w)
  | handling m job => verdictOn m (pursue job wake r w)
  | _ => []

/-- The messages that a stretch of work throws out of the subsystem's own mailbox. -/
def thrown (c : Cycle (Subsystem.Job σ)) (wake : Wake) (r : Runner σ) (w : World) : List Message :=
  match c.runOn wake r w with
  | .ok (_, _, u) =>
    let own := Subsystem.address σ
    (w.post.queue own).take (w.post.count own - u.post.count own)
  | .error _ => []

/-- The deeds of a stretch of work, and of the end of the wait before it. -/
def deeds (wait : Wait) (c : Cycle (Subsystem.Job σ)) (wake : Wake) (r : Runner σ) (w : World) :
    List Deed :=
  (wait.taken (Subsystem.address σ) wake).map .took ++
    (c.judged wake r w).map (fun x => .settled x.1 x.2) ++
    (c.thrown wake r w).map .swept ++ (wait.posted wake).map fun x => .posted x.1 x.2

/-- The loop of a subsystem that runs on its own; noted are its deeds. -/
def routine (σ : Type) [Subsystem σ] :
    Routine (Cycle (Subsystem.Job σ)) Empty (Runner σ) Deed where
  resume := runOn
  notes := deeds

section

variable (wait : Wait) (c : Cycle (Subsystem.Job σ)) (wake : Wake) (r : Runner σ) (w : World)

@[simp] lemma taken_deeds :
    Deed.taken (deeds wait c wake r w) = wait.taken (Subsystem.address σ) wake := by
  simp [deeds, Deed.taken, List.filterMap_map, List.filterMap_none]

@[simp] lemma verdicts_deeds : Deed.verdicts (deeds wait c wake r w) = c.judged wake r w := by
  simp [deeds, Deed.verdicts, List.filterMap_map, List.filterMap_none]

@[simp] lemma dropped_deeds : Deed.dropped (deeds wait c wake r w) = c.thrown wake r w := by
  simp [deeds, Deed.dropped, List.filterMap_map, List.filterMap_none]

@[simp] lemma posts_deeds : Deed.posts (deeds wait c wake r w) = wait.posted wake := by
  simp [deeds, Deed.posts, List.filterMap_map, List.filterMap_none]

lemma replies_deeds : Deed.replies (deeds wait c wake r w) =
    (wait.posted wake).filter fun x => x.2.command.asReply.isSome := by
  rw [Deed.replies, posts_deeds]

end

/-! ### Where a cycle stands -/

/-- What a cycle waits for in each of its phases. -/
inductive Fits (own : Address) {ι : Type} (fits : ι → Wait → Prop) : Cycle ι → Wait → Prop
  | listening {limit : Option Alarm} : Fits own fits listening (.receive own limit)
  | entering {job : ι} {wait : Wait} (fit : fits job wait) : Fits own fits (entering job) wait
  | handling {m : Message} {job : ι} {wait : Wait} (news : m.isMode = false) (fit : fits job wait) :
      Fits own fits (handling m job) wait
  | replying {a : Address} {m : Message} (reply : m.command.asReply.isSome) :
      Fits own fits replying (.send a m)

/-- What a stretch of work leads to, by the message that it is about and the verdict that it comes
to. -/
inductive Next (own : Address) {ι : Type} (fits : ι → Wait → Prop) :
    Option Message → List (Message × Verdict) → Wait → Cycle ι → Prop
  | entering {job : ι} {wait : Wait} (fit : fits job wait) : Next own fits none [] wait (entering job)
  | listening {limit : Option Alarm} : Next own fits none [] (.receive own limit) listening
  | working {m : Message} {job : ι} {wait : Wait} (fit : fits job wait) :
      Next own fits (some m) [] wait (handling m job)
  | mute {m : Message} {v : Verdict} {limit : Option Alarm} (unasked : m.replyTo = none) :
      Next own fits (some m) [(m, v)] (.receive own limit) listening
  | answering {m : Message} {v : Verdict} {a : Address} (asked : m.replyTo = some a) :
      Next own fits (some m) [(m, v)] (.send a (m.answer v.reply)) replying

/-- Whether a stretch of work may empty the mailbox of the subsystem. -/
def Sweeping {ι : Type} (sweeps : ι → Prop) : Cycle ι → Prop
  | entering job | handling _ job => sweeps job
  | _ => False

section

variable {fits : Subsystem.Job σ → Wait → Prop} {bin : Option Address}
  {sweeps : Subsystem.Job σ → Prop} {r : Runner σ} {v w : World}

/-- The safety check changes no mailbox. -/
lemma kept_inspect (modest : Subsystem.Modest σ fits bin sweeps) (r : Runner σ) (w : World) :
    World.Kept bin w (inspect r w).2.2 := by
  unfold inspect
  split
  · exact modest.check _ _
  · rfl

lemma kept_announce (stamp : String) (m : Message) (h : World.Kept bin v w) :
    World.Kept bin v (announce stamp m w) := by
  unfold announce
  split
  · exact h
  · exact World.kept_notice _ h

lemma keeps_handled {stage : Stage (Subsystem.Job σ) Reply σ} (h : Keeps fits bin v (.ok stage)) :
    Keeps fits bin v (.ok (handled r stage)) := by
  obtain ⟨progress, s, u⟩ := stage
  obtain ⟨kept, fit⟩ := h _ _ _ rfl
  cases progress with
  | waiting wait job => exact keeps_waiting kept (fit wait job rfl)
  | finished reply => exact keeps_finished kept

lemma keeps_treat (modest : Subsystem.Modest σ fits bin sweeps) (m : Message) (r : Runner σ)
    (w : World) : Keeps fits bin w (treat m r w) := by
  have inspected := kept_inspect modest r w
  unfold treat
  simp only
  split
  · exact keeps_finished (World.kept_notice _ inspected)
  · refine keeps_map ?_ fun stage => keeps_handled
    intro progress s u done
    obtain ⟨kept, fit⟩ := modest.handle _ _ _ _ _ _ done
    exact ⟨(kept_announce _ m inspected).trans kept, fit⟩

lemma keeps_pursue {job : Subsystem.Job σ} {wake : Wake}
    (h : Keeps fits bin w (Subsystem.resume job wake r.subsystem w)) :
    Keeps fits bin w (pursue job wake r w) :=
  keeps_map h fun _ => keeps_handled

/-- A cycle begins by listening, in the same world. -/
lemma start_eq_ok {α : Type} {p : Progress (Cycle (Subsystem.Job σ)) α} {r' : Runner σ}
    (h : start r v = .ok (p, r', w)) : r' = r ∧ w = v ∧
      ∃ limit, p = .waiting (.receive (Subsystem.address σ) limit) listening := by
  obtain ⟨wait, waited, h⟩ := bind_eq_ok.1 h
  obtain ⟨time, -, armed⟩ := bind_eq_ok.1 waited
  cases armed
  cases h
  exact ⟨rfl, rfl, _, rfl⟩

/-- Work on a message is gone on with, or it has come to a verdict, which is answered. -/
lemma next_conclude {m : Message} {work : Except Fault (Stage (Subsystem.Job σ) Verdict (Runner σ))}
    {p : Progress (Cycle (Subsystem.Job σ)) Empty} {r' : Runner σ} (h : Keeps fits bin v work)
    (done : (do let stage ← work; return conclude m stage) >>= again = .ok (p, r', w)) :
    World.Kept bin v w ∧ ∃ wait c, p = .waiting wait c ∧
      Next (Subsystem.address σ) fits (some m) (verdictOn m work) wait c := by
  obtain ⟨stage, concluded, done⟩ := bind_eq_ok.1 done
  obtain ⟨⟨progress, s, u⟩, rfl, concluded⟩ := bind_eq_ok.1 concluded
  obtain ⟨kept, fit⟩ := h _ _ _ rfl
  cases progress with
  | waiting wait job =>
    cases concluded
    cases done
    exact ⟨kept, wait, _, rfl, .working (fit wait job rfl)⟩
  | finished verdict =>
    cases concluded
    cases asked : m.replyTo with
    | none =>
      simp only [conclude, answer, asked] at done
      obtain ⟨-, rfl, limit, rfl⟩ := start_eq_ok done
      exact ⟨kept, _, _, rfl, .mute asked⟩
    | some a =>
      simp only [conclude, answer, asked] at done
      cases done
      exact ⟨kept, _, _, rfl, .answering asked⟩

/-- Work on a mode is gone on with, or the next cycle begins. -/
lemma next_afterEnter {α : Type} {work : Except Fault (Stage (Subsystem.Job σ) α σ)}
    {p : Progress (Cycle (Subsystem.Job σ)) Empty} {r' : Runner σ} (h : Keeps fits bin v work)
    (done : (do let stage ← work; return afterEnter r stage) >>= again = .ok (p, r', w)) :
    World.Kept bin v w ∧ ∃ wait c, p = .waiting wait c ∧
      Next (Subsystem.address σ) fits none [] wait c := by
  obtain ⟨stage, entered, done⟩ := bind_eq_ok.1 done
  obtain ⟨⟨progress, s, u⟩, rfl, entered⟩ := bind_eq_ok.1 entered
  obtain ⟨kept, fit⟩ := h _ _ _ rfl
  cases progress with
  | waiting wait job =>
    cases entered
    cases done
    exact ⟨kept, wait, _, rfl, .entering (fit wait job rfl)⟩
  | finished x =>
    cases entered
    obtain ⟨-, rfl, limit, rfl⟩ := start_eq_ok done
    exact ⟨kept, _, _, rfl, .listening⟩

/-- A message that is no mode is treated. -/
lemma take_of_isMode_eq_false {m : Message} (h : m.isMode = false) :
    take m r w = do
      let stage ← treat m { r with loops := r.loops + 1 } w
      return conclude m stage := by
  unfold take
  unfold Message.isMode at h
  split
  · next hm => rw [hm] at h; cases h
  · rfl

/-- The news of a mode is heard. -/
lemma take_of_isMode {m : Message} (h : m.isMode = true) : ∃ mode, m.command = .state mode ∧
    take m r w = do
      let stage ← Subsystem.enter mode r.subsystem (w.notice (.modeHeard (Subsystem.stamp σ) mode))
      return afterEnter { r with loops := r.loops + 1 } stage := by
  unfold Message.isMode at h
  split at h
  · next mode hm =>
    refine ⟨mode, hm, ?_⟩
    unfold take
    rw [hm]
  · cases h

/-- Taking a message up is heeding a mode or beginning to work on the message. -/
lemma next_take (modest : Subsystem.Modest σ fits bin sweeps) {m : Message}
    {p : Progress (Cycle (Subsystem.Job σ)) Empty} {r' : Runner σ}
    (done : take m r v >>= again = .ok (p, r', w)) :
    World.Kept bin v w ∧ ∃ wait c, p = .waiting wait c ∧
      Next (Subsystem.address σ) fits (if m.isMode then none else some m)
        (if m.isMode then [] else verdictOn m (treat m { r with loops := r.loops + 1 } v)) wait c := by
  cases mode : m.isMode with
  | true =>
    obtain ⟨new, -, taken⟩ := take_of_isMode (r := r) (w := v) mode
    rw [taken] at done
    have entered := modest.enter new r.subsystem (v.notice (.modeHeard (Subsystem.stamp σ) new))
    obtain ⟨kept, next⟩ := next_afterEnter entered done
    exact ⟨(World.kept_notice _ (.refl v)).trans kept, next⟩
  | false =>
    rw [take_of_isMode_eq_false mode] at done
    exact next_conclude (keeps_treat modest m _ v) done

/-- What a stretch of work leads to, and what it leaves alone. Only a job that sweeps touches the
mailbox of the subsystem. -/
theorem runOn_next (modest : Subsystem.Modest σ fits bin sweeps) {wait : Wait} {wake : Wake}
    {c : Cycle (Subsystem.Job σ)} {p : Progress (Cycle (Subsystem.Job σ)) Empty} {r' : Runner σ}
    (fit : Fits (Subsystem.address σ) fits c wait) (done : c.runOn wake r v = .ok (p, r', w)) :
    (World.Kept bin v w ∨ Sweeping sweeps c ∧ World.Kept (some (Subsystem.address σ)) v w) ∧
      ∃ wait' c', p = .waiting wait' c' ∧
        Next (Subsystem.address σ) fits (c.hand wake) (c.judged wake r v) wait' c' := by
  cases fit with
  | listening =>
    obtain ⟨kept, next⟩ := next_take modest done
    exact ⟨.inl kept, next⟩
  | @entering job _ fit =>
    by_cases sweeping : sweeps job
    · obtain ⟨kept, next⟩ := next_afterEnter (modest.sweep wake r.subsystem v fit sweeping) done
      exact ⟨.inr ⟨sweeping, kept⟩, next⟩
    · obtain ⟨kept, next⟩ := next_afterEnter (modest.resume wake r.subsystem v fit sweeping) done
      exact ⟨.inl kept, next⟩
  | @handling m job _ news fit =>
    by_cases sweeping : sweeps job
    · have pursued := keeps_pursue (modest.sweep wake r.subsystem v fit sweeping)
      obtain ⟨kept, next⟩ := next_conclude pursued done
      exact ⟨.inr ⟨sweeping, kept⟩, next⟩
    · have pursued := keeps_pursue (modest.resume wake r.subsystem v fit sweeping)
      obtain ⟨kept, next⟩ := next_conclude pursued done
      exact ⟨.inl kept, next⟩
  | replying reply =>
    obtain ⟨-, rfl, limit, rfl⟩ := start_eq_ok done
    exact ⟨.inl (.refl w), _, _, rfl, .listening⟩

/-- The message in hand is no mode. -/
lemma isMode_of_hand {own : Address} {wait : Wait} {wake : Wake} {c : Cycle (Subsystem.Job σ)}
    {m : Message} (fit : Fits own fits c wait) (h : c.hand wake = some m) : m.isMode = false := by
  cases fit with
  | listening =>
    simp only [hand, Option.ite_none_left_eq_some, Bool.not_eq_true, Option.some.injEq] at h
    obtain ⟨news, rfl⟩ := h
    exact news
  | handling news =>
    cases h
    exact news
  | _ => cases h

/-- What the cycle waits for next fits its phase. -/
lemma Next.toFits {own : Address} {c : Cycle (Subsystem.Job σ)} {wait : Wait} {hand : Option Message}
    {vs : List (Message × Verdict)} (next : Next own fits hand vs wait c)
    (news : ∀ m, hand = some m → m.isMode = false) : Fits own fits c wait := by
  cases next with
  | entering fit => exact .entering fit
  | listening => exact .listening
  | working fit => exact .handling (news _ rfl) fit
  | mute => exact .listening
  | answering => exact .replying (by simp [Message.answer])

/-- Whether an alarm is armed makes no difference to what a cycle waits for. -/
lemma Fits.rearmed (modest : Subsystem.Modest σ fits bin sweeps) {c : Cycle (Subsystem.Job σ)}
    {own : Address} {wait wait' : Wait} (h : Fits own fits c wait) (k : wait.Rearmed wait') :
    Fits own fits c wait' := by
  cases h with
  | listening => cases k; exact .listening
  | entering fit => exact .entering (modest.rearmed fit k)
  | handling news fit => exact .handling news (modest.rearmed fit k)
  | replying reply => cases k; exact .replying reply

/-- Where work stops, what the cycle waits for fits its phase. -/
lemma fits_of_runOn (modest : Subsystem.Modest σ fits bin sweeps) {wait : Wait} {wake : Wake}
    {c : Cycle (Subsystem.Job σ)} {stage : Stage (Cycle (Subsystem.Job σ)) Empty (Runner σ)}
    (fit : Fits (Subsystem.address σ) fits c wait) (done : c.runOn wake r v = .ok stage) :
    ∀ wait' c', stage.1 = .waiting wait' c' → Fits (Subsystem.address σ) fits c' wait' := by
  obtain ⟨-, wait'', c'', stopped, next⟩ := runOn_next modest fit done
  intro wait' c' h
  cases stopped.symm.trans h
  exact next.toFits fun m => isMode_of_hand fit

section

variable {a b : Stage (Cycle (Subsystem.Job σ)) Empty (Runner σ)} {t l : List Deed}

lemma fits_of_step (modest : Subsystem.Modest σ fits bin sweeps) (step : (routine σ).Step a l b)
    (begun : ∀ wait c, a.1 = .waiting wait c → Fits (Subsystem.address σ) fits c wait) :
    ∀ wait c, b.1 = .waiting wait c → Fits (Subsystem.address σ) fits c wait :=
  step.fitting (fun fit => fit.rearmed modest) (fun fit => fits_of_runOn modest fit) begun

/-- All through a run, what a cycle waits for fits its phase. -/
lemma fits_of_run (modest : Subsystem.Modest σ fits bin sweeps)
    {outside : Runner σ × World → Runner σ × World → Prop} (run : (routine σ).Run outside a t b)
    (begun : ∀ wait c, a.1 = .waiting wait c → Fits (Subsystem.address σ) fits c wait) :
    ∀ wait c, b.1 = .waiting wait c → Fits (Subsystem.address σ) fits c wait :=
  run.fitting (fun fit => fit.rearmed modest) (fun fit => fits_of_runOn modest fit) begun

end

end

end Cycle

/-! ### Moves of the surroundings -/

namespace Part

/-- Somebody posts a message to a part, if there is room. -/
def deliver (p : Part) (m : Message) : Routine.Move (Runner p.State) :=
  .around fun x => (x.1, (x.2.offer p.address m).2)

/-- The clock moves on by a second. -/
def second (p : Part) : Routine.Move (Runner p.State) :=
  .around fun x => (x.1, { x.2 with now := x.2.now + Clock.second })

end Part

end MatchRobot
