import MatchRobot.Proofs.Autonomy.Fleet

/-!
# Every counted reply is an answer to the call under way

A call counts replies and does not ask where they come from. What makes the count right is its number:
as long as the numbers do not come round, no message of an earlier call bears it, and nobody else
tags messages. So a call begins with no traffic under its number (`Fleet.clear_of_run`), and from
then on the balance of `Fleet.Flow` leaves room for one verdict for each message that it posts, and for
one reply for each verdict.

`Fleet.call_settled` puts this together with what the call itself has posted and counted: when it
returns, except for a timeout, the verdicts are exactly those on its messages, and the replies that it
counted are exactly the answers.
-/

namespace MatchRobot

open scoped List

namespace Fleet

variable {ι : Type} {σ : ι → Type} [∀ i, Subsystem (σ i)]

/-- A beginning: the caller has made no call, every task listens, and nothing in the mailboxes belongs
to a call. -/
structure Fresh (f : Fleet σ) : Prop where
  unused : f.caller.lastCall = 0
  idle : ∃ r, f.line = .finished r
  listening : ∀ i, ∃ limit,
    (f.crew i).1 = .waiting (.receive (Subsystem.address (σ i)) limit) .listening
  clean : f.world.mail.filter (Tagged ·) = 0

lemma Fresh.sound {f : Fleet σ} (fresh : f.Fresh) : f.Sound where
  crew := by
    intro i wait c h
    obtain ⟨limit, listening⟩ := fresh.listening i
    cases listening.symm.trans h
    exact .listening
  line := .inl fresh.idle

lemma Fresh.filter_traffic [Fintype ι] {f : Fleet σ} (fresh : f.Fresh)
    {p : Address × Message → Bool} (tagged : ∀ x, p x → Tagged x) :
    f.traffic.filter (p ·) = 0 := by
  have idle : ∀ i, Cycle.held (Subsystem.address (σ i)) (f.crew i).1 = 0 := by
    intro i
    obtain ⟨limit, listening⟩ := fresh.listening i
    rw [listening]
    rfl
  simp only [traffic, idle, Finset.sum_const_zero, zero_add]
  rw [Multiset.filter_eq_nil]
  intro x hx own
  exact Multiset.filter_eq_nil.1 fresh.clean x hx (tagged x own)

section

variable [DecidableEq ι] {sweeps : ∀ i, Subsystem.Job (σ i) → Prop} {f g : Fleet σ}
  {t u : List Happening}

/-! ### Numbers -/

/-- The numbers of the calls so far: there are no more than calls, and no message bears a later one. -/
structure Numbered (t : List Happening) (f : Fleet σ) : Prop where
  few : f.caller.lastCall.toNat ≤ Happening.calls t
  old : ∀ x ∈ Happening.sent t, x.2.callId ≤ f.caller.lastCall

/-- A step takes at most one number, and only where a call begins. -/
lemma lastCall_of_step {l : List Happening} (sound : f.Sound) (step : Step f l g) :
    g.caller.lastCall = f.caller.lastCall ∨
      Happening.calls l = 1 ∧ g.caller.lastCall = f.caller.nextCall := by
  cases step with
  | @call targets commands p caller w away started =>
    by_cases even : targets.length = commands.length
    · exact .inr ⟨rfl, (Call.start_of_length_eq even started).1⟩
    · exact .inl (congrArg Caller.lastCall (Call.start_of_length_ne even started).2.1)
  | line step =>
    exact .inl (congrArg Caller.lastCall (Call.underWay_of_step step sound.line).2.1)
  | task => exact .inl rfl
  | around => exact .inl rfl

lemma numbered_of_run (modest : ∀ i, Subsystem.Modest (σ i) Asleep none (sweeps i))
    (fresh : f.Fresh) (run : Run f t g) (few : Happening.calls t < UInt32.size) : Numbered t g := by
  induction run with
  | start => exact ⟨by simp [fresh.unused], fun x hx => absurd hx List.not_mem_nil⟩
  | @step g h t l run step ih =>
    rw [Happening.calls_append] at few
    have numbered := ih (by omega)
    have sound := sound_of_run modest fresh.sound run
    have grown : h.caller.lastCall.toNat ≤ Happening.calls (t ++ l) ∧
        g.caller.lastCall ≤ h.caller.lastCall := by
      rw [Happening.calls_append, UInt32.le_iff_toNat_le]
      have before := numbered.few
      rcases lastCall_of_step sound step with same | ⟨one, next⟩
      · rw [same]
        omega
      · rw [next, Caller.toNat_nextCall (by omega)]
        omega
    refine ⟨grown.1, fun x hx => ?_⟩
    rw [Happening.sent_append, List.mem_append] at hx
    rcases hx with before | now
    · exact UInt32.le_trans (numbered.old x before) grown.2
    · exact UInt32.le_of_eq (sent_of_step sound step x now).2

/-- Nothing is under way with a number that no call has used. -/
lemma clear_of_run [Fintype ι] (modest : ∀ i, Subsystem.Modest (σ i) Asleep none (sweeps i))
    (fresh : f.Fresh) (run : Run f t g) {n : UInt32} (positive : n ≠ 0)
    (unused : ∀ x ∈ Happening.sent t, x.2.callId ≠ n) :
    g.traffic.filter (asksUnder (· == n) ·) = 0 ∧
      g.traffic.filter (repliesUnder (· == n) ·) = 0 := by
  have zero : ((0 : UInt32) == n) = false := beq_false_of_ne positive.symm
  have flow : Flow (· == n) f t g := flow_of_run zero modest fresh.sound run
  have sent : (Happening.sent t).filter (asksUnder (· == n)) = [] := by
    rw [List.filter_eq_nil_iff]
    intro x hx
    simp [asksUnder, unused x hx]
  have requests := flow.requests
  rw [fresh.filter_traffic fun x => tagged_of_asksUnder zero, sent, Multiset.coe_nil, add_zero,
    nonpos_iff_eq_zero, add_eq_zero] at requests
  obtain ⟨asked, judged⟩ := requests
  have none : Happening.judged (· == n) t = [] := List.map_eq_nil_iff.1 ((Multiset.coe_eq_zero _).1 judged)
  have replies := flow.replies
  rw [fresh.filter_traffic fun x => tagged_of_repliesUnder zero, none, List.map_nil,
    addressed_nil, add_zero, nonpos_iff_eq_zero, add_eq_zero] at replies
  exact ⟨asked, replies.1⟩

/-! ### One call -/

/-- A call keeps standing as long as no other call begins. -/
lemma stands_of_run {id : UInt32} {letters sent : List (Address × Message)}
    {counted : List Message} (run : Run f u g) (single : Happening.calls u = 0)
    (stands : Call.Stands id letters sent counted f.line) :
    Call.Stands id letters (sent ++ Happening.sent u) (counted ++ Happening.counted u) g.line := by
  induction run with
  | start => simpa [Happening.sent, Happening.counted] using stands
  | @step g h u l run step ih =>
    rw [Happening.calls_append] at single
    have before := ih (by omega)
    rw [Happening.sent_append, Happening.counted_append, ← List.append_assoc, ← List.append_assoc]
    cases step with
    | call => exact absurd (Nat.eq_zero_of_add_eq_zero_left single) (by decide)
    | line step =>
      rw [Happening.sent_called, Happening.counted_called]
      exact (Call.stands_of_step step before).1
    | task => simpa using before
    | around => simpa [Happening.sent, Happening.counted] using before

/-- A call that is finished posts nothing more. -/
lemma finished_of_run {r : CallResult} (run : Run f u g) (single : Happening.calls u = 0)
    (finished : f.line = .finished r) : g.line = .finished r ∧ Happening.sent u = [] := by
  induction run with
  | start => exact ⟨finished, rfl⟩
  | @step g h u l run step ih =>
    rw [Happening.calls_append] at single
    obtain ⟨before, none⟩ := ih (by omega)
    rw [Happening.sent_append, none]
    cases step with
    | call => exact absurd (Nat.eq_zero_of_add_eq_zero_left single) (by decide)
    | line step =>
      rw [before] at step
      cases step
    | task => exact ⟨before, Happening.sent_did _ _⟩
    | around => exact ⟨before, rfl⟩

end

/-- What a call with a number has come to, by what has happened since it began. -/
structure Settled (id : UInt32) (letters : List (Address × Message)) (u : List Happening)
    (line : Progress Call CallResult) : Prop where
  /-- It posts its messages in order, and no others. -/
  posted : Happening.sent u <+: letters
  /-- No message is settled more often than it was posted. -/
  judged : (Happening.judged (· == id) u).map Ruling.letter <+~ Happening.sent u
  /-- No message is counted but the answers to its own. -/
  counted : Happening.counted u <+~ (Happening.judged (· == id) u).map Ruling.answer
  own : ∀ m ∈ Happening.counted u, m.callId = id ∧ m.command.asReply.isSome
  /-- Except for a timeout, it ends when all of its messages have been posted, settled and answered,
  and the result says whether there was an error among the answers. -/
  ends : ∀ r, line = .finished r → (∃ received expected, r = .error (.timedOut received expected)) ∨
    Happening.sent u = letters ∧ (Happening.judged (· == id) u).map Ruling.letter ~ letters ∧
      Happening.counted u ~ (Happening.judged (· == id) u).map Ruling.answer ∧
      r = if (Happening.judged (· == id) u).any (·.verdict.reply == .error) then .error .rejected
        else .ok ()

section

variable [Fintype ι] {f g : Fleet σ} {u : List Happening} {id : UInt32}
  {letters : List (Address × Message)}

/-- An answer says whether there was an error. -/
lemma any_refuses (rulings : List Ruling) : (rulings.map Ruling.answer).any Message.refuses =
    rulings.any (·.verdict.reply == .error) := by
  rw [List.any_map]
  congr 1
  funext x
  simp [Message.refuses, Ruling.answer, Message.answer]

/-- From nothing under way with its number, a call can only count answers to its own messages. -/
lemma settled_of_flow (requests : f.traffic.filter (asksUnder (· == id) ·) = 0)
    (replies : f.traffic.filter (repliesUnder (· == id) ·) = 0) (flow : Flow (· == id) f u g)
    (stands : Call.Stands id letters (Happening.sent u) (Happening.counted u) g.line) :
    Settled id letters u g.line := by
  have judged : (Happening.judged (· == id) u).map Ruling.letter <+~ Happening.sent u := by
    have balance := flow.requests
    rw [requests, zero_add] at balance
    have asked := le_trans (Multiset.le_add_left _ _) balance
    exact (Multiset.coe_le.1 asked).trans List.filter_sublist.subperm
  have counted : Happening.counted u <+~ (Happening.judged (· == id) u).map Ruling.answer := by
    have all : (addressed .autoParser (Happening.counted u)).filter (repliesUnder (· == id) ·) =
        addressed .autoParser (Happening.counted u) := by
      rw [Multiset.filter_eq_self]
      intro x hx
      obtain ⟨m, hm, rfl⟩ := List.mem_map.1 (Multiset.mem_coe.1 hx)
      obtain ⟨number, reply⟩ := stands.own m hm
      simp [repliesUnder, number, reply]
    have balance := flow.replies
    rw [replies, zero_add, all] at balance
    have answered := Multiset.map_le_map (f := Prod.snd) (le_trans (Multiset.le_add_left _ _) balance)
    rw [map_snd_addressed, map_snd_addressed] at answered
    exact Multiset.coe_le.1 answered
  refine ⟨stands.sent_prefix, judged, counted, stands.own, fun r finished => ?_⟩
  rw [finished] at stands
  generalize Happening.sent u = sent at stands judged
  generalize Happening.counted u = tallied at stands counted
  cases stands with
  | missed own received expected => exact .inl ⟨received, expected, rfl⟩
  | complete own full =>
    -- As many replies are counted as messages were posted, which leaves no room between the two.
    have fewer := judged.length_le
    have enough := counted.length_le
    rw [List.length_map] at fewer enough
    have answers := counted.perm_of_length_le (by rw [List.length_map]; omega)
    have settled := judged.perm_of_length_le (by rw [List.length_map]; omega)
    refine .inr ⟨rfl, settled, answers, ?_⟩
    rw [answers.any_eq, any_refuses]

end

/-- A call of parts of the robot, after any history of fewer than `2 ^ 32 - 1` calls, comes to an end
other than a timeout only when each of its messages has been handled or refused by its target and
answered; the result is an error if and only if one of these answers is. What it counts are answers to
its own messages, whatever else arrives. Lists of different lengths post nothing. -/
theorem call_settled [Fintype ι] [DecidableEq ι] {part : ι → Part}
    (others : ∀ i, part i ≠ .autonomous) {f₀ f g : Fleet fun i => (part i).State}
    {t u : List Happening} (fresh : f₀.Fresh) (history : Run f₀ t f)
    (few : Happening.calls t < 2 ^ 32 - 1) {targets : List Address} {commands : List Command}
    (away : ∀ a ∈ targets, a ≠ .autoParser) {p : Progress Call CallResult} {caller : Caller}
    {w : World} (started : Call.start f.caller targets commands f.world = .ok (p, caller, w))
    (run : Run { f with line := p, caller := caller, world := w } u g)
    (single : Happening.calls u = 0) :
    (targets.length ≠ commands.length →
      g.line = .finished (.error (.lengthMismatch targets.length commands.length)) ∧
        caller = f.caller ∧ w.post = f.world.post ∧ Happening.sent u = []) ∧
    (targets.length = commands.length →
      f.caller.lastCall < caller.lastCall ∧ Settled caller.lastCall
        ((targets.zip commands).map (Call.letter caller.lastCall)) u g.line) := by
  have modest := fun i => Part.modest_of_ne (others i)
  refine ⟨fun uneven => ?_, fun even => ?_⟩
  · obtain ⟨rfl, rfl, same⟩ := Call.start_of_length_ne uneven started
    obtain ⟨line, none⟩ := finished_of_run run single rfl
    exact ⟨line, rfl, same, none⟩
  · obtain ⟨number, -, stands⟩ := Call.start_of_length_eq even started
    rw [← number] at stands
    have size : UInt32.size = 2 ^ 32 := rfl
    have numbered := numbered_of_run modest fresh history (by omega)
    have later : f.caller.lastCall < caller.lastCall := by
      have last := numbered.few
      rw [UInt32.lt_iff_toNat_lt, number, Caller.toNat_nextCall (by omega)]
      omega
    have positive : caller.lastCall ≠ 0 := by
      intro zero
      rw [zero] at later
      exact absurd later (UInt32.not_lt_zero)
    have unused : ∀ x ∈ Happening.sent (t ++ [.began]), x.2.callId ≠ caller.lastCall := by
      intro x hx same
      rw [Happening.sent_append, List.mem_append] at hx
      rcases hx with old | new
      · have early := numbered.old x old
        rw [same] at early
        exact absurd later (UInt32.not_lt.2 early)
      · exact absurd new List.not_mem_nil
    -- The step that begins the call belongs to the history: it leaves the traffic clear of the number.
    have begun := history.step (.call away started)
    obtain ⟨requests, replies⟩ := clear_of_run modest fresh begun positive unused
    have sound := sound_of_run modest fresh.sound begun
    have flow : Flow (· == caller.lastCall) _ u g :=
      flow_of_run (beq_false_of_ne positive.symm) modest sound run
    exact ⟨later, settled_of_flow requests replies flow (stands_of_run run single stands)⟩

/-- A hopper that listens, and a caller that waits a second for its replies. -/
def hopperFleet : Fleet fun _ : Unit => Part.hopper.State where
  world := {}
  caller := { timeout := some Clock.second }
  line := .finished (.ok ())
  crew _ := (.waiting (.receive .hopper none) .listening, ⟨{}, 0⟩)

lemma fresh_hopperFleet : hopperFleet.Fresh where
  unused := rfl
  idle := ⟨_, rfl⟩
  listening _ := ⟨_, rfl⟩
  clean := by
    have none : hopperFleet.world.mail = 0 :=
      Finset.sum_eq_zero fun a _ => congrArg (addressed a) (PostOffice.queue_empty a)
    rw [none]
    rfl

/-- Whether a hopper and its caller can play these moves, a call to stop the hopper and further moves,
so that the call ends well and the events pass a check. -/
def playsStop (before after : List (Move Unit)) (good : List Happening → List Happening → Bool) : Bool :=
  (hopperFleet.play before).any fun (t, f) =>
    match Call.start f.caller [.hopper] [.hopper .stop] f.world with
    | .ok (p, caller, w) =>
      (play { f with line := p, caller := caller, world := w } after).any fun (u, g) =>
        good t u && (match g.line with | .finished (.ok ()) => true | _ => false)
    | .error _ => false

lemma exists_of_playsStop {before after : List (Move Unit)} {good : List Happening → List Happening → Bool}
    (h : playsStop before after good = true) :
    ∃ (f g : Fleet fun _ : Unit => Part.hopper.State) (t u : List Happening)
      (p : Progress Call CallResult) (caller : Caller) (w : World),
      Run hopperFleet t f ∧
        Call.start f.caller [.hopper] [.hopper .stop] f.world = .ok (p, caller, w) ∧
        Run { f with line := p, caller := caller, world := w } u g ∧ good t u = true ∧
        g.line = .finished (.ok ()) := by
  obtain ⟨⟨t, f⟩, played, h⟩ := (Option.any_eq_true _ _).1 h
  simp only at h
  split at h
  · next p caller w started =>
    obtain ⟨⟨u, g⟩, later, h⟩ := (Option.any_eq_true _ _).1 h
    rw [Bool.and_eq_true] at h
    obtain ⟨passed, ended⟩ := h
    refine ⟨f, g, t, u, p, caller, w, run_of_play played, started, run_of_play later, passed, ?_⟩
    split at ended
    · next line => exact line
    · cases ended
  · cases h

/-- A hopper answers a call that has timed out while the next one waits. Both messages are settled, and
one reply is counted. -/
theorem late_reply_is_not_counted :
    ∃ (f₀ f g : Fleet fun _ : Unit => Part.hopper.State) (t u : List Happening)
      (p : Progress Call CallResult) (caller : Caller) (w : World),
      f₀.Fresh ∧ Run f₀ t f ∧ Happening.calls t = 1 ∧
        Call.start f.caller [.hopper] [.hopper .stop] f.world = .ok (p, caller, w) ∧
        Run { f with line := p, caller := caller, world := w } u g ∧ Happening.calls u = 0 ∧
        Settled caller.lastCall [Call.letter caller.lastCall (.hopper, .hopper .stop)] u g.line ∧
        g.line = .finished (.ok ()) ∧ (Happening.rulings u).length = 2 ∧
        (Happening.counted u).length = 1 := by
  have played : playsStop [.call [.hopper] [.hopper .stop], .line, .line, .second, .line]
      [.line, .task (), .task (), .line, .task (), .task (), .line] (fun t u =>
        Happening.calls t == 1 && Happening.calls u == 0 && (Happening.rulings u).length == 2 &&
          (Happening.counted u).length == 1) = true := by
    decide +kernel
  obtain ⟨f, g, t, u, p, caller, w, history, started, run, passed, ended⟩ :=
    exists_of_playsStop played
  simp only [Bool.and_eq_true, beq_iff_eq] at passed
  obtain ⟨⟨⟨one, single⟩, both⟩, counted⟩ := passed
  have settled := call_settled (fun _ : Unit => (nofun : Part.hopper ≠ .autonomous))
    fresh_hopperFleet history (by rw [one]; decide) (by simp) started run single
  exact ⟨hopperFleet, f, g, t, u, p, caller, w, fresh_hopperFleet, history, one, started, run,
    single, (settled.2 rfl).2, ended, both, counted⟩

end Fleet

end MatchRobot
