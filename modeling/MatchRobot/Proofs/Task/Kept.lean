import Mathlib.Tactic.Lemma
import MatchRobot.Task.Wait

/-!
# What work leaves alone

Between two waits a task works on its own state and on the world that it shares with the others.
`World.Kept` says what it leaves alone there: the clock, the mode flag, and all mailboxes but for one
that it may empty. No piece of work puts a message into a mailbox; that happens only at the end of a
wait for room, and `Wait.Mild` says of a wait that the message there is no reply.

`Keeps` puts both together for a piece of work that may come to a fault.
-/

namespace MatchRobot

/-! ### Worlds -/

/-- Between two worlds neither the clock nor the mode flag moved, no mailbox got a message, and none
but the given one lost any. -/
structure World.Kept (bin : Option Address) (v w : World) : Prop where
  now : w.now = v.now
  mode : w.mode = v.mode
  suffix : ∀ a, w.post.queue a <:+ v.post.queue a
  same : ∀ a, bin ≠ some a → w.post.queue a = v.post.queue a

namespace World

variable {bin : Option Address} {u v w : World}

@[refl] lemma Kept.refl (w : World) : Kept bin w w :=
  ⟨rfl, rfl, fun _ => List.suffix_rfl, fun _ _ => rfl⟩

/-- What changes neither the clock nor the mode flag nor the mailboxes. -/
lemma kept_of_eq (now : w.now = v.now) (mode : w.mode = v.mode) (post : w.post = v.post) :
    Kept none v w :=
  ⟨now, mode, fun a => by simp only [post, List.suffix_rfl], fun a _ => by rw [post]⟩

lemma Kept.trans (h : Kept bin u v) (k : Kept bin v w) : Kept bin u w where
  now := k.now.trans h.now
  mode := k.mode.trans h.mode
  suffix a := (k.suffix a).trans (h.suffix a)
  same a ha := (k.same a ha).trans (h.same a ha)

/-- Whoever empties no mailbox empties at most the given one. -/
lemma Kept.weaken (h : Kept none v w) : Kept bin v w :=
  ⟨h.now, h.mode, h.suffix, fun a _ => h.same a (by simp)⟩

lemma kept_tell (r : Report) (h : Kept bin v w) : Kept bin v (w.tell r) :=
  ⟨h.now, h.mode, h.suffix, h.same⟩

lemma kept_notice (n : Notice) (h : Kept bin v w) : Kept bin v (w.notice n) :=
  kept_tell _ h

lemma kept_status (s : String) (h : Kept bin v w) : Kept bin v (w.status s) :=
  kept_tell _ h

lemma kept_tellAll (rs : List Report) (h : Kept bin v w) : Kept bin v (w.tellAll rs) :=
  ⟨by rw [now_tellAll]; exact h.now, by rw [mode_tellAll]; exact h.mode,
    by rw [post_tellAll]; exact h.suffix, by rw [post_tellAll]; exact h.same⟩

lemma kept_setDebug (on : Bool) (h : Kept bin v w) : Kept bin v (w.setDebug on) :=
  ⟨h.now, h.mode, h.suffix, h.same⟩

/-- Throwing away what waits at an address empties that mailbox. -/
lemma queue_discard_self (w : World) (a : Address) : (w.discard a).2.post.queue a = [] := by
  simp [discard, drain, PostOffice.clear]

lemma queue_discard_of_ne (w : World) {a b : Address} (h : a ≠ b) :
    (w.discard a).2.post.queue b = w.post.queue b := by
  simp [discard, drain, PostOffice.clear, PostOffice.queue_setQueue_of_ne _ h]

lemma kept_discard {a : Address} (h : Kept (some a) v w) : Kept (some a) v (w.discard a).2 := by
  have emptied : (if w.post.hasRoom a then w else w.roomMade a).now = w.now ∧
      (if w.post.hasRoom a then w else w.roomMade a).mode = w.mode := by
    unfold roomMade
    split
    · exact ⟨rfl, rfl⟩
    · split <;> exact ⟨rfl, rfl⟩
  refine h.trans ⟨emptied.1, emptied.2, fun b => ?_, fun b hb => ?_⟩
  · by_cases hab : a = b
    · subst hab
      rw [queue_discard_self]
      exact List.nil_suffix
    · simp only [queue_discard_of_ne w hab, List.suffix_rfl]
  · exact queue_discard_of_ne w fun hab => hb (congrArg some hab)

/-- Throwing away what waits at an address, with a notice if anything was there. -/
lemma kept_discard_notice (a : Address) (n : Nat → Notice) (w : World) :
    Kept (some a) w (if (w.discard a).1 > 0 then (w.discard a).2.notice (n (w.discard a).1)
      else (w.discard a).2) := by
  have swept : Kept (some a) w (w.discard a).2 := kept_discard (.refl w)
  split
  · exact kept_notice _ swept
  · exact swept

end World

/-! ### Pieces of work -/

lemma bind_eq_ok {ε α β : Type} {x : Except ε α} {f : α → Except ε β} {b : β} :
    x >>= f = .ok b ↔ ∃ a, x = .ok a ∧ f a = .ok b := by
  cases x <;> simp [bind, Except.bind]

/-- A piece of work that never comes to a fault of its own leaves the faults to the one before it. -/
lemma bind_eq_error_iff {ε α β : Type} {x : Except ε α} {f : α → Except ε β} {e : ε}
    (h : ∀ a, x = .ok a → f a ≠ .error e) : x >>= f = .error e ↔ x = .error e := by
  cases x with
  | ok a => exact ⟨fun faulty => absurd faulty (h a rfl), nofun⟩
  | error e' =>
    have failed : (Except.error e' >>= f) = .error e' := rfl
    rw [failed, Except.error.injEq, Except.error.injEq]

lemma bind_pure_eq_error_iff {ε α β : Type} {x : Except ε α} {f : α → β} {e : ε} :
    (do let a ← x; return f a) = .error e ↔ x = .error e :=
  bind_eq_error_iff fun _ _ => nofun

/-- An instant that is beyond the clock is a fault of its own kind. -/
lemma Clock.after_eq_error_iff {now span : Micros} {fault : Fault} :
    after now span = .error fault ↔ fault = .clockOverflow ∧ limit ≤ now + span := by
  unfold after
  by_cases fits : now + span < limit
  · simp only [fits, if_true, reduceCtorEq, false_iff, not_and]
    exact fun _ => Nat.not_le_of_lt fits
  · simp only [fits, if_false, Except.error.injEq, eq_comm, Nat.le_of_not_lt fits, and_true]

/-- A sleep comes to a fault exactly if its end is beyond the clock. -/
lemma Wait.sleepFor_eq_error_iff {now span : Micros} {fault : Fault} :
    sleepFor now span = .error fault ↔ fault = .clockOverflow ∧ Clock.limit ≤ now + span :=
  bind_pure_eq_error_iff.trans Clock.after_eq_error_iff

namespace Wait

/-- A wait for nothing but time. -/
def IsSleep (wait : Wait) : Prop :=
  ∃ a, wait = .sleep a

/-- A wait that does not lead to a reply being posted. -/
def Mild (wait : Wait) : Prop :=
  ∀ a m, wait = .send a m → m.command.asReply = .none

lemma IsSleep.mild {wait : Wait} (h : wait.IsSleep) : wait.Mild := by
  obtain ⟨a, rfl⟩ := h
  intro b m hm
  cases hm

lemma mild_receive (box : Address) (limit : Option Alarm) : (receive box limit).Mild := by
  intro a m hm
  cases hm

/-- A wait to post a command that is no reply. -/
lemma mild_send {a : Address} {m : Message} (h : m.command.asReply = .none) :
    (send a m).Mild := by
  intro b n hn
  cases hn
  exact h

end Wait

/-- A command that is posted to a task and not answered: it is neither a reply nor the news of a
mode. -/
structure Message.Errand (m : Message) (a : Address) : Prop where
  away : a ≠ .autoParser
  unasked : m.replyTo = none
  plain : m.command.asReply = none
  news : ∀ mode, m.command ≠ .state mode

namespace Wait

lemma isSleep_of_sleepFor {now span : Micros} {wait : Wait} (h : sleepFor now span = .ok wait) :
    wait.IsSleep := by
  obtain ⟨t, -, ht⟩ := bind_eq_ok.1 h
  cases ht
  exact ⟨_, rfl⟩

lemma eq_resume_of_resumeFor {now span : Micros} {wait : Wait}
    (h : resumeFor now span = .ok wait) : ∃ a, wait = .resume a := by
  obtain ⟨t, -, ht⟩ := bind_eq_ok.1 h
  cases ht
  exact ⟨_, rfl⟩

end Wait

/-- Work that begins in the world `v`, leaves it alone but for the given mailbox, and stops only where
its phase fits what it waits for. -/
def Keeps {ι α σ : Type} (fits : ι → Wait → Prop) (bin : Option Address) (v : World)
    (work : Except Fault (Stage ι α σ)) : Prop :=
  ∀ p s w, work = .ok (p, s, w) →
    World.Kept bin v w ∧ ∀ wait c, p = .waiting wait c → fits c wait

section

variable {ι α β σ : Type} {fits : ι → Wait → Prop} {bin : Option Address} {v w : World}

lemma keeps_finished {a : α} {s : σ} (h : World.Kept bin v w) :
    Keeps fits bin v (.ok (.finished a, s, w)) := by
  intro p s' w' hp
  cases hp
  exact ⟨h, fun _ _ h => nomatch h⟩

lemma keeps_waiting {wait : Wait} {c : ι} {s : σ} (h : World.Kept bin v w) (fit : fits c wait) :
    Keeps (α := α) fits bin v (.ok (.waiting wait c, s, w)) := by
  intro p s' w' hp
  cases hp
  exact ⟨h, fun _ _ h => by cases h; exact fit⟩

lemma keeps_bind {x : Except Fault β} {f : β → Except Fault (Stage ι α σ)}
    (h : ∀ b, x = .ok b → Keeps fits bin v (f b)) : Keeps fits bin v (x >>= f) := by
  intro p s w hp
  obtain ⟨b, hx, hf⟩ := bind_eq_ok.1 hp
  exact h b hx p s w hf

/-- Work that is kept to its bounds by a step that puts its outcome in another form. -/
lemma keeps_map {κ γ τ : Type} {fits' : κ → Wait → Prop} {work : Except Fault (Stage ι α σ)}
    {f : Stage ι α σ → Stage κ γ τ} (h : Keeps fits bin v work)
    (map : ∀ stage, Keeps fits bin v (.ok stage) → Keeps fits' bin v (.ok (f stage))) :
    Keeps fits' bin v (work >>= fun stage => .ok (f stage)) := by
  refine keeps_bind fun stage done => map stage ?_
  rw [← done]
  exact h

/-- Work that goes to sleep. -/
lemma keeps_sleep {now span : Micros} {c : ι} {s : σ} (h : World.Kept bin v w)
    (fit : ∀ a, fits c (.sleep a)) :
    Keeps (α := α) fits bin v (do
      let wait ← Wait.sleepFor now span
      return (.waiting wait c, s, w)) :=
  keeps_bind fun _ hwait => by
    obtain ⟨a, rfl⟩ := Wait.isSleep_of_sleepFor hwait
    exact keeps_waiting h (fit a)

end

end MatchRobot
