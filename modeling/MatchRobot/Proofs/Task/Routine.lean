import MatchRobot.Proofs.Task.Kept

/-!
# Routines and their runs

A task runs from one wait to the next, and everything else that shares its world may happen in
between. A `Routine` says how a task goes on from the end of a wait, and what is to be noted of that
stretch of work. `Routine.Step` is one look at the task: its wait goes on, or it is over and the task
runs up to the next one. `Routine.Run` puts such steps together with whatever the surroundings do.

Before that stands what a look at a wait does: `World.Ended` gives the ways in which a wait ends, and
`Wait.Rearmed` says what stays the same of one that goes on.
-/

namespace MatchRobot

/-! ### What a look at a wait does -/

/-- How a wait ends: what wakes the task, and the world it finds then. -/
inductive World.Ended (v : World) : Wait → Wake → World → Prop
  | go : Ended v .none .go v
  | rang {alarm : Alarm} : Ended v (.sleep alarm) .rang v
  | received {box : Address} {limit : Option Alarm} {m : Message} {w : World}
      (h : v.take? box = some (m, w)) : Ended v (.receive box limit) (.received m limit) w
  | missed {box : Address} {alarm : Alarm} :
      Ended v (.receive box (some alarm)) .rang (v.expectMail box)
  | sent {box : Address} {m : Message} {w : World} (h : v.post? box m = some w) :
      Ended v (.send box m) .sent w
  | resumed {limit : Alarm} :
      Ended v (.resume limit) .resumed { v with control := { v.control with signal := .quiet } }
  | unresumed {limit : Alarm} : Ended v (.resume limit) .rang v.expectResume

/-- All that one who goes on waiting does to the world is to ask to be woken. -/
inductive World.Asked (v : World) : World → Prop
  | ask (requests : Requests) (stirred : Bool) (signal : Signal) :
      Asked v { v with
        requests := requests
        stirred := stirred
        control := { v.control with signal := signal } }

/-- Two waits for the same, whether their alarms are armed or not. -/
inductive Wait.Rearmed : Wait → Wait → Prop
  | sleep {a b : Alarm} : Rearmed (.sleep a) (.sleep b)
  | receive {box : Address} {a b : Option Alarm} : Rearmed (.receive box a) (.receive box b)
  | send {box : Address} {m : Message} : Rearmed (.send box m) (.send box m)
  | resume {a b : Alarm} : Rearmed (.resume a) (.resume b)

namespace World

variable {v w : World} {wait wait' : Wait} {wake : Wake}

lemma pollAlarm_eq_over {alarm : Alarm} {f : Alarm → Wait}
    (h : v.pollAlarm alarm f = .over wake w) : wake = .rang ∧ w = v := by
  unfold pollAlarm at h
  split at h
  · simp only [Poll.over.injEq] at h
    exact ⟨h.1.symm, h.2.symm⟩
  · cases h

lemma pollAlarm_eq_pending {alarm : Alarm} {f : Alarm → Wait}
    (h : v.pollAlarm alarm f = .pending wait w) : (∃ a, wait = f a) ∧ Kept none v w := by
  unfold pollAlarm at h
  split at h
  · cases h
  · simp only [Poll.pending.injEq] at h
    obtain ⟨rfl, rfl⟩ := h
    refine ⟨⟨_, rfl⟩, ?_⟩
    unfold expectTime
    split
    · rfl
    · split <;> exact kept_of_eq rfl rfl rfl

/-- A look that finds a wait over. -/
lemma ended_of_poll (h : v.poll wait = .over wake w) : v.Ended wait wake w := by
  cases wait with
  | none =>
    obtain ⟨rfl, rfl⟩ : Wake.go = wake ∧ v = w := by simpa [poll] using h
    exact .go
  | sleep alarm =>
    obtain ⟨rfl, rfl⟩ := pollAlarm_eq_over h
    exact .rang
  | receive box limit =>
    simp only [poll] at h
    split at h
    · next taken =>
      obtain ⟨rfl, rfl⟩ : Wake.received _ limit = wake ∧ _ = w := by simpa using h
      exact .received taken
    · cases limit with
      | none => cases h
      | some alarm =>
        obtain ⟨rfl, rfl⟩ := pollAlarm_eq_over h
        exact .missed
  | send box m =>
    simp only [poll] at h
    split at h
    · next posted =>
      obtain ⟨rfl, rfl⟩ : Wake.sent = wake ∧ _ = w := by simpa using h
      exact .sent posted
    · cases h
  | resume limit =>
    simp only [poll] at h
    split at h
    · obtain ⟨rfl, rfl⟩ : Wake.resumed = wake ∧ _ = w := by simpa using h
      exact .resumed
    · obtain ⟨rfl, rfl⟩ := pollAlarm_eq_over h
      exact .unresumed

/-- A look that finds a wait going on changes nothing but its alarm and the open requests. -/
lemma rearmed_of_poll (h : v.poll wait = .pending wait' w) :
    wait.Rearmed wait' ∧ Kept none v w := by
  cases wait with
  | none => cases h
  | sleep alarm =>
    obtain ⟨⟨a, rfl⟩, hw⟩ := pollAlarm_eq_pending h
    exact ⟨.sleep, hw⟩
  | receive box limit =>
    simp only [poll] at h
    split at h
    · cases h
    · cases limit with
      | none =>
        obtain ⟨rfl, rfl⟩ : Wait.receive box none = wait' ∧ v.expectMail box = w := by
          simpa using h
        exact ⟨.receive, kept_of_eq rfl rfl rfl⟩
      | some alarm =>
        obtain ⟨⟨a, rfl⟩, hw⟩ := pollAlarm_eq_pending h
        have asked : Kept none v (v.expectMail box) := kept_of_eq rfl rfl rfl
        exact ⟨.receive, asked.trans hw⟩
  | send box m =>
    simp only [poll] at h
    split at h
    · cases h
    · obtain ⟨rfl, rfl⟩ : Wait.send box m = wait' ∧ v.expectRoom box = w := by simpa using h
      exact ⟨.send, kept_of_eq rfl rfl rfl⟩
  | resume limit =>
    simp only [poll] at h
    split at h
    · cases h
    · obtain ⟨⟨a, rfl⟩, hw⟩ := pollAlarm_eq_pending h
      have asked : Kept none v v.expectResume := kept_of_eq rfl rfl rfl
      exact ⟨.resume, asked.trans hw⟩

lemma Asked.trans {u : World} (h : u.Asked v) (k : v.Asked w) : u.Asked w := by
  cases h
  cases k
  exact .ask _ _ _

lemma asked_of_pollAlarm {alarm : Alarm} {f : Alarm → Wait}
    (h : v.pollAlarm alarm f = .pending wait w) : v.Asked w := by
  unfold pollAlarm at h
  split at h
  · cases h
  · cases h
    split
    · exact .ask _ _ _
    · unfold expectTime
      split <;> exact .ask _ _ _

lemma asked_of_poll (h : v.poll wait = .pending wait' w) : v.Asked w := by
  cases wait with
  | none => cases h
  | sleep alarm => exact asked_of_pollAlarm h
  | receive box limit =>
    simp only [poll] at h
    split at h
    · cases h
    · have asks : v.Asked (v.expectMail box) := .ask _ _ _
      cases limit with
      | none =>
        cases h
        exact asks
      | some alarm => exact asks.trans (asked_of_pollAlarm h)
  | send box m =>
    simp only [poll] at h
    split at h
    · cases h
    · cases h
      exact .ask _ _ _
  | resume limit =>
    simp only [poll] at h
    split at h
    · cases h
    · have asks : v.Asked v.expectResume := .ask _ _ _
      exact asks.trans (asked_of_pollAlarm h)

lemma untouched_take? {a : Address} {m : Message} (h : v.take? a = some (m, w)) :
    w.now = v.now ∧ w.mode = v.mode := by
  obtain ⟨⟨n, p⟩, -, he⟩ := Option.map_eq_some_iff.1 h
  simp only [Prod.mk.injEq] at he
  obtain ⟨-, rfl⟩ := he
  unfold roomMade
  simp only
  split
  · exact ⟨rfl, rfl⟩
  · split <;> exact ⟨rfl, rfl⟩

lemma untouched_post? {a : Address} {m : Message} (h : v.post? a m = some w) :
    w.now = v.now ∧ w.mode = v.mode := by
  obtain ⟨p, -, rfl⟩ := Option.map_eq_some_iff.1 h
  unfold mailArrived
  split <;> exact ⟨rfl, rfl⟩

/-- Whatever ends a wait leaves the clock and the mode flag alone. -/
lemma Ended.untouched (h : v.Ended wait wake w) : w.now = v.now ∧ w.mode = v.mode := by
  cases h with
  | received h => exact untouched_take? h
  | sent h => exact untouched_post? h
  | _ => exact ⟨rfl, rfl⟩

lemma journal_take? {a : Address} {m : Message} (h : v.take? a = some (m, w)) :
    w.journal = v.journal := by
  obtain ⟨⟨n, p⟩, -, he⟩ := Option.map_eq_some_iff.1 h
  cases he
  unfold roomMade
  split
  · rfl
  · split <;> rfl

lemma journal_post? {a : Address} {m : Message} (h : v.post? a m = some w) :
    w.journal = v.journal := by
  obtain ⟨p, -, rfl⟩ := Option.map_eq_some_iff.1 h
  unfold mailArrived
  split <;> rfl

/-- Whatever ends a wait, nothing is reported. -/
lemma Ended.journal (h : v.Ended wait wake w) : w.journal = v.journal := by
  cases h with
  | received h => exact journal_take? h
  | sent h => exact journal_post? h
  | _ => rfl

lemma Ended.mode (h : v.Ended wait wake w) : w.mode = v.mode :=
  h.untouched.2

/-- Taking a message removes it from the head of its mailbox. -/
lemma queue_of_take? {a : Address} {m : Message} (h : v.take? a = some (m, w)) :
    v.post.queue a = m :: w.post.queue a ∧ ∀ b, a ≠ b → w.post.queue b = v.post.queue b := by
  obtain ⟨ms, hq, hp⟩ := PostOffice.take?_eq_some_iff.1 (post_of_take? h)
  rw [← hp]
  exact ⟨by simpa using hq, fun b hb => PostOffice.queue_setQueue_of_ne _ hb _⟩

/-- Posting a message adds it at the end of its mailbox. -/
lemma queue_of_post? {a : Address} {m : Message} (h : v.post? a m = some w) :
    w.post.queue a = v.post.queue a ++ [m] ∧ ∀ b, a ≠ b → w.post.queue b = v.post.queue b := by
  obtain ⟨-, hp⟩ := PostOffice.post?_eq_some_iff.1 (post_of_post? h)
  rw [← hp]
  exact ⟨by simp, fun b hb => PostOffice.queue_setQueue_of_ne _ hb _⟩

end World

/-! ### Messages that waits move -/

/-- The message that the end of a wait takes out of a mailbox. -/
def Wait.taken (box : Address) : Wait → Wake → List Message
  | .receive a _, .received m _ => if a = box then [m] else []
  | _, _ => []

/-- The message that the end of a wait for room posts, with its address. -/
def Wait.posted : Wait → Wake → List (Address × Message)
  | .send a m, .sent => [(a, m)]
  | _, _ => []

/-- The messages among those posted that went to one mailbox. -/
def postedTo (box : Address) (posts : List (Address × Message)) : List Message :=
  posts.filterMap fun x => if x.1 = box then some x.2 else none

/-- Who does not wait for mail at a mailbox takes nothing out of it. -/
lemma Wait.taken_eq_nil {box : Address} {wait : Wait} (h : ∀ limit, wait ≠ .receive box limit)
    (wake : Wake) : wait.taken box wake = [] := by
  cases wait with
  | receive a limit =>
    cases wake with
    | received m limit' => exact if_neg fun ha => h limit (by rw [ha])
    | _ => rfl
  | _ => rfl

/-- A mild wait posts no reply. -/
lemma Wait.Mild.posted {wait : Wait} (h : wait.Mild) (wake : Wake) :
    (wait.posted wake).filter (fun x => x.2.command.asReply.isSome) = [] := by
  cases wait with
  | send a m =>
    cases wake with
    | sent => simp [Wait.posted, h a m rfl]
    | _ => rfl
  | _ => rfl

/-- The end of a wait accounts for every message that a mailbox gained or lost. -/
lemma World.Ended.queue {v w : World} {wait : Wait} {wake : Wake} (h : v.Ended wait wake w)
    (box : Address) : v.post.queue box ++ postedTo box (wait.posted wake) =
      wait.taken box wake ++ w.post.queue box := by
  cases h with
  | @received a limit m _ h =>
    obtain ⟨head, others⟩ := World.queue_of_take? h
    by_cases ha : a = box
    · subst ha
      simp [Wait.taken, Wait.posted, postedTo, head]
    · simp [Wait.taken, Wait.posted, postedTo, ha, others box ha]
  | @sent a m _ h =>
    obtain ⟨last, others⟩ := World.queue_of_post? h
    by_cases ha : a = box
    · subst ha
      simp [Wait.taken, Wait.posted, postedTo, last]
    · simp [Wait.taken, Wait.posted, postedTo, ha, others box ha]
  | _ => exact List.append_nil _

/-! ### Where a task stands -/

namespace Progress

variable {ι α : Type} {p : Progress ι α}

/-- Whether a task waits. -/
def isWaiting : Progress ι α → Bool
  | waiting .. => true
  | finished _ => false

lemma isWaiting_iff : p.isWaiting = true ↔ ∃ wait phase, p = .waiting wait phase := by
  cases p <;> simp [isWaiting]

/-- What a task has come to, if it is finished. -/
def result? : Progress ι α → Option α
  | waiting .. => none
  | finished a => some a

lemma result?_eq_some_iff {a : α} : p.result? = some a ↔ p = .finished a := by
  cases p <;> simp [result?]

end Progress

/-! ### Routines -/

/-- How a task with phases `ι` and state `σ` goes on from the end of a wait, and what is to be noted
of the stretch of work that follows. -/
structure Routine (ι α σ ε : Type) where
  resume : ι → Wake → σ → World → Except Fault (Stage ι α σ)
  notes : Wait → ι → Wake → σ → World → List ε

namespace Routine

variable {ι α σ ε : Type}

/-- One look at a task, with what is noted of it. -/
inductive Step (f : Routine ι α σ ε) : Stage ι α σ → List ε → Stage ι α σ → Prop
  | pending {wait wait' : Wait} {c : ι} {s : σ} {v w : World}
      (looked : v.poll wait = .pending wait' w) :
      Step f (.waiting wait c, s, v) [] (.waiting wait' c, s, w)
  | woken {wait : Wait} {wake : Wake} {c : ι} {s : σ} {v w : World} {stage : Stage ι α σ}
      (looked : v.poll wait = .over wake w) (worked : f.resume c wake s w = .ok stage) :
      Step f (.waiting wait c, s, v) (f.notes wait c wake s w) stage

/-- A run of a task: looks at it, and in between whatever the surroundings do to its state and its
world. The notes come in order. -/
inductive Run (f : Routine ι α σ ε) (outside : σ × World → σ × World → Prop) :
    Stage ι α σ → List ε → Stage ι α σ → Prop
  | start (a : Stage ι α σ) : Run f outside a [] a
  | look {a b c : Stage ι α σ} {t l : List ε} (run : Run f outside a t b) (step : f.Step b l c) :
      Run f outside a (t ++ l) c
  | around {a : Stage ι α σ} {t : List ε} {p : Progress ι α} {s s' : σ} {w w' : World}
      (run : Run f outside a t (p, s, w)) (change : outside (s, w) (s', w')) :
      Run f outside a t (p, s', w')

section

variable {f : Routine ι α σ ε} {fits : ι → Wait → Prop} {a b : Stage ι α σ} {t l : List ε}

/-- A step of a task ends at a wait that fits its phase, if it begins at one and all work ends so. -/
lemma Step.fitting (step : f.Step a l b)
    (rearmed : ∀ {c wait wait'}, fits c wait → wait.Rearmed wait' → fits c wait')
    (worked : ∀ {wait wake c s v stage}, fits c wait → f.resume c wake s v = .ok stage →
      ∀ wait' c', stage.1 = .waiting wait' c' → fits c' wait')
    (begun : ∀ wait c, a.1 = .waiting wait c → fits c wait) :
    ∀ wait c, b.1 = .waiting wait c → fits c wait := by
  cases step with
  | pending looked =>
    intro wait c h
    cases h
    exact rearmed (begun _ _ rfl) (World.rearmed_of_poll looked).1
  | woken looked done => exact worked (begun _ _ rfl) done

/-- All through a run, a task waits for what fits its phase. -/
lemma Run.fitting {outside : σ × World → σ × World → Prop} (run : f.Run outside a t b)
    (rearmed : ∀ {c wait wait'}, fits c wait → wait.Rearmed wait' → fits c wait')
    (worked : ∀ {wait wake c s v stage}, fits c wait → f.resume c wake s v = .ok stage →
      ∀ wait' c', stage.1 = .waiting wait' c' → fits c' wait')
    (begun : ∀ wait c, a.1 = .waiting wait c → fits c wait) :
    ∀ wait c, b.1 = .waiting wait c → fits c wait := by
  induction run with
  | start => exact begun
  | look run step ih => exact step.fitting rearmed worked ih
  | around run change ih => exact ih

end

/-- Runs can be put together. -/
lemma Run.trans {f : Routine ι α σ ε} {outside : σ × World → σ × World → Prop}
    {a b c : Stage ι α σ} {t l : List ε} (first : f.Run outside a t b)
    (second : f.Run outside b l c) : f.Run outside a (t ++ l) c := by
  induction second with
  | start => rw [List.append_nil]; exact first
  | look run step ih =>
    rw [← List.append_assoc]
    exact .look ih step
  | around run change ih => exact .around ih change

/-! ### Runs that are played -/

/-- What happens next in a run that is played: a look at the task, or a change by the surroundings. -/
inductive Move (σ : Type)
  | look
  | around (change : σ × World → σ × World)

/-- One look at a task that is not finished, with what is noted of it. -/
def look? (f : Routine ι α σ ε) : Stage ι α σ → Option (List ε × Stage ι α σ)
  | (.finished _, _, _) => none
  | (.waiting wait c, s, v) => match v.poll wait with
    | .pending wait' w => some ([], .waiting wait' c, s, w)
    | .over wake w => match f.resume c wake s w with
      | .ok stage => some (f.notes wait c wake s w, stage)
      | .error _ => none

/-- Plays a run. -/
def play (f : Routine ι α σ ε) : List (Move σ) → Stage ι α σ → Option (List ε × Stage ι α σ)
  | [], a => some ([], a)
  | .look :: moves, a => do
    let (t, b) ← f.look? a
    let (l, c) ← f.play moves b
    return (t ++ l, c)
  | .around change :: moves, (p, x) => f.play moves (p, change x)

lemma step_of_look? {f : Routine ι α σ ε} {a b : Stage ι α σ} {l : List ε}
    (h : f.look? a = some (l, b)) : f.Step a l b := by
  obtain ⟨_ | _, s, v⟩ := a
  · simp only [look?] at h
    split at h
    · next looked =>
      cases h
      exact .pending looked
    · next looked =>
      split at h
      · next worked =>
        cases h
        exact .woken looked worked
      · cases h
  · cases h

/-- What is played is a run, if the surroundings keep to their bounds. -/
lemma run_of_play {f : Routine ι α σ ε} {outside : σ × World → σ × World → Prop}
    {moves : List (Move σ)} {a b : Stage ι α σ} {t : List ε} (h : f.play moves a = some (t, b))
    (bounds : ∀ change, .around change ∈ moves → ∀ x, outside x (change x)) :
    f.Run outside a t b := by
  induction moves generalizing a t with
  | nil =>
    cases h
    exact .start _
  | cons move moves ih =>
    have rest : ∀ change, .around change ∈ moves → ∀ x, outside x (change x) :=
      fun change hc => bounds change (List.mem_cons_of_mem _ hc)
    cases move with
    | look =>
      simp only [play, Option.bind_eq_bind, Option.bind_eq_some_iff] at h
      obtain ⟨⟨u, c⟩, looked, ⟨l, d⟩, played, h⟩ := h
      cases h
      exact ((Run.start a).look (step_of_look? looked)).trans (ih played rest)
    | around change =>
      obtain ⟨p, s, w⟩ := a
      have changed := (Run.start (f := f) (p, s, w)).around
        (bounds change (List.mem_cons_self ..) (s, w))
      exact changed.trans (ih h rest)

/-- A run that passes a check can be played. -/
lemma exists_run_of_play {f : Routine ι α σ ε} {outside : σ × World → σ × World → Prop}
    {moves : List (Move σ)} {a : Stage ι α σ} {good : List ε × Stage ι α σ → Bool}
    (h : (f.play moves a).any good = true)
    (bounds : ∀ change, .around change ∈ moves → ∀ x, outside x (change x)) :
    ∃ t b, f.Run outside a t b ∧ good (t, b) = true := by
  obtain ⟨⟨t, b⟩, played, passed⟩ := (Option.any_eq_true _ _).1 h
  exact ⟨t, b, run_of_play played bounds, passed⟩

/-- A task that begins well and passes a check on the run that is played then. -/
lemma exists_run_of_begun {f : Routine ι α σ ε} (outside : σ × World → σ × World → Prop)
    {opening : Except Fault (Stage ι α σ)} {moves : List (Move σ)}
    {good : List ε × Stage ι α σ → Bool}
    (h : (opening.toOption.any fun a => (f.play moves a).any good) = true)
    (bounds : ∀ change, .around change ∈ moves → ∀ x, outside x (change x)) :
    ∃ a t b, opening = .ok a ∧ f.Run outside a t b ∧ good (t, b) = true := by
  cases opening with
  | error e => cases h
  | ok a =>
    obtain ⟨t, b, run, passed⟩ := exists_run_of_play h bounds
    exact ⟨a, t, b, rfl, run, passed⟩

end Routine

end MatchRobot
