import MatchRobot.Proofs.Autonomy.Happening

/-!
# A caller and its crew

A `Fleet` is a caller together with the tasks that share its world, and `Fleet.Step` interleaves them in
any order: the call under way goes on, or one of the tasks, or another call begins, or the surroundings
do something else. The surroundings may do what they like but for one thing: they bring no message that
belongs to a call (`Tagged`).

The mailboxes, what the tasks work on and what they owe are the `Fleet.traffic`. Each step moves
messages about in it, and `Fleet.flow_of_step` is the balance: whatever leaves the traffic was in it, or
it was posted by the caller, or it answers a verdict. `Fleet.Flow` reads that balance twice, for the
messages that ask the caller's tasks for a reply and for the replies themselves.
-/

namespace MatchRobot

/-! ### The call -/

namespace Call

variable {id : UInt32}

/-- A call counts what it takes from the mailbox of the replies. -/
lemma tally_le_picked {letters sent : List (Address × Message)} {counted : List Message}
    {wait : Wait} {wake : Wake} {c : Call} {u v : World}
    (h : Stands id letters sent counted (.waiting wait c)) (ended : u.Ended wait wake v) :
    addressed .autoParser (c.tally wake v) ≤ wait.picked wake := by
  cases h with
  | posting tallied all unposted whole =>
    rw [tally_of_unposted unposted]
    exact Multiset.zero_le _
  | @collecting _ _ limit tallied all posted short =>
    cases ended with
    | received taken => exact addressed_le (c.tally_sublist _ limit v)
    | missed =>
      rw [tally_rang]
      exact Multiset.zero_le _

lemma mail_of_start {caller caller' : Caller} {targets : List Address} {commands : List Command}
    {v w : World} {p : Progress Call CallResult}
    (h : start caller targets commands v = .ok (p, caller', w)) : w.mail ≤ v.mail := by
  by_cases even : targets.length = commands.length
  · exact (start_of_length_eq even h).2.1.mail_le
  · have same := (start_of_length_ne even h).2.2
    simp only [World.mail, same]
    exact le_rfl

/-- The balance of a step of a call: what is counted was in the mail. -/
lemma mail_of_step {a b : Stage Call CallResult Caller} {l : List Note}
    (step : routine.Step a l b) (h : UnderWay id a.1) :
    b.2.2.mail + addressed .autoParser (Note.answers l) ≤ a.2.2.mail + Note.letters l := by
  cases step with
  | pending looked => simpa [Note.answers, Note.letters] using (World.rearmed_of_poll looked).2.mail_le
  | @woken wait wake c caller v u _ looked worked =>
    obtain ⟨⟨p, w⟩, resumed, done⟩ := bind_eq_ok.1 worked
    cases done
    rcases h with ⟨r, finished⟩ | ⟨xs, sent, counted, -, stands⟩
    · cases finished
    · have ended := World.ended_of_poll looked
      rw [letters_notes, answers_notes, ended.mail, add_comm]
      exact add_le_add (tally_le_picked stands ended) (kept_resume resumed).mail_le

end Call

/-! ### Fleets -/

/-- A caller, with the call under way or the result of the last one, and the tasks of its crew. -/
structure Fleet {ι : Type} (σ : ι → Type) [∀ i, Subsystem (σ i)] where
  world : World
  caller : Caller
  line : Progress Call CallResult
  crew : ∀ i, Progress (Cycle (Subsystem.Job (σ i))) Empty × Runner (σ i)

namespace Fleet

variable {ι : Type} {σ : ι → Type} [∀ i, Subsystem (σ i)]

/-- Between two worlds no message came up that belongs to a call. -/
def Innocent (v w : World) : Prop :=
  w.mail.filter (Tagged ·) ≤ v.mail.filter (Tagged ·)

lemma Innocent.filter_le {v w : World} (innocent : Innocent v w) {p : Address × Message → Bool}
    (tagged : ∀ x, p x → Tagged x) : w.mail.filter (p ·) ≤ v.mail.filter (p ·) := by
  have own : ∀ s : Multiset (Address × Message),
      s.filter (p ·) = (s.filter (Tagged ·)).filter (p ·) := by
    intro s
    rw [Multiset.filter_filter]
    exact Multiset.filter_congr fun x _ => ⟨fun h => ⟨h, tagged x h⟩, And.left⟩
  rw [own w.mail, own v.mail]
  exact Multiset.filter_le_filter _ innocent

section

variable [DecidableEq ι]

/-- What can happen next. -/
inductive Step : Fleet σ → List Happening → Fleet σ → Prop
  /-- Another call begins; one that was under way is given up. -/
  | call {f : Fleet σ} {targets : List Address} {commands : List Command}
      {p : Progress Call CallResult} {caller : Caller} {w : World}
      (away : ∀ a ∈ targets, a ≠ .autoParser)
      (started : Call.start f.caller targets commands f.world = .ok (p, caller, w)) :
      Step f [.began] { f with line := p, caller := caller, world := w }
  | line {f : Fleet σ} {p : Progress Call CallResult} {caller : Caller} {w : World}
      {notes : List Call.Note}
      (step : Call.routine.Step (f.line, f.caller, f.world) notes (p, caller, w)) :
      Step f (notes.map .called) { f with line := p, caller := caller, world := w }
  | task {f : Fleet σ} {i : ι} {p : Progress (Cycle (Subsystem.Job (σ i))) Empty}
      {r : Runner (σ i)} {w : World} {deeds : List Deed}
      (step : (Cycle.routine (σ i)).Step ((f.crew i).1, (f.crew i).2, f.world) deeds (p, r, w)) :
      Step f (deeds.map (.did (Subsystem.address (σ i))))
        { f with world := w, crew := Function.update f.crew i (p, r) }
  /-- The surroundings change the world and the devices of the tasks. -/
  | around {f : Fleet σ} {w : World} {rs : ∀ i, Runner (σ i)} (innocent : Innocent f.world w) :
      Step f [] { f with world := w, crew := fun i => ((f.crew i).1, rs i) }

/-- What can happen in any order; the events come in order. -/
inductive Run : Fleet σ → List Happening → Fleet σ → Prop
  | start (f : Fleet σ) : Run f [] f
  | step {f g h : Fleet σ} {t l : List Happening} (run : Run f t g) (step : Step g l h) :
      Run f (t ++ l) h

end

/-- What every run keeps: each task waits for what fits its place, and a call under way has the last
number. -/
structure Sound (f : Fleet σ) : Prop where
  crew : ∀ i wait c, (f.crew i).1 = .waiting wait c →
    Cycle.Fits (Subsystem.address (σ i)) Asleep c wait
  line : Call.UnderWay f.caller.lastCall f.line

/-- The messages that are under way: in the mailboxes, in the hands of the tasks, or owed. -/
def traffic [Fintype ι] (f : Fleet σ) : Multiset (Address × Message) :=
  ∑ i, Cycle.held (Subsystem.address (σ i)) (f.crew i).1 + f.world.mail

section

variable [Fintype ι] {ids : UInt32 → Bool} {f g h : Fleet σ} {t l : List Happening}

/-- The balance of events for the messages of calls with the given numbers: their requests and the
replies to them. -/
structure Flow (ids : UInt32 → Bool) (f : Fleet σ) (t : List Happening) (g : Fleet σ) : Prop where
  requests : g.traffic.filter (asksUnder ids ·) + (Happening.judged ids t).map Ruling.letter ≤
    f.traffic.filter (asksUnder ids ·) + (Happening.sent t).filter (asksUnder ids)
  replies : g.traffic.filter (repliesUnder ids ·) +
      (addressed .autoParser (Happening.counted t)).filter (repliesUnder ids ·) ≤
    f.traffic.filter (repliesUnder ids ·) +
      addressed .autoParser ((Happening.judged ids t).map Ruling.answer)

lemma Flow.refl (ids : UInt32 → Bool) (f : Fleet σ) : Flow ids f [] f where
  requests := by simp [Happening.judged, Happening.rulings, Happening.sent]
  replies := by simp [Happening.judged, Happening.rulings, Happening.counted]

/-- Balances add up. -/
lemma Flow.trans (first : Flow ids f t g) (second : Flow ids g l h) : Flow ids f (t ++ l) h where
  requests := by
    have sum := add_le_add first.requests second.requests
    rw [Happening.judged_append, Happening.sent_append, List.map_append, List.filter_append,
      ← Multiset.coe_add, ← Multiset.coe_add]
    refine le_of_add_le_add_left (a := g.traffic.filter (asksUnder ids ·)) ?_
    calc _ = _ := by abel
      _ ≤ _ := sum
      _ = _ := by abel
  replies := by
    have sum := add_le_add first.replies second.replies
    rw [Happening.judged_append, Happening.counted_append, List.map_append, addressed_append,
      addressed_append, Multiset.filter_add]
    refine le_of_add_le_add_left (a := g.traffic.filter (repliesUnder ids ·)) ?_
    calc _ = _ := by abel
      _ ≤ _ := sum
      _ = _ := by abel

end

section

variable [DecidableEq ι] {sweeps : ∀ i, Subsystem.Job (σ i) → Prop} {f g h : Fleet σ}
  {t l : List Happening}

lemma sound_of_step (modest : ∀ i, Subsystem.Modest (σ i) Asleep none (sweeps i))
    (sound : f.Sound) (step : Step f l g) : g.Sound := by
  cases step with
  | call away started => exact ⟨sound.crew, Call.underWay_of_start away started⟩
  | line step =>
    obtain ⟨line, same, -⟩ := Call.underWay_of_step step sound.line
    simp only at same
    subst same
    exact ⟨sound.crew, line⟩
  | @task i p r w deeds step =>
    refine ⟨fun j wait c h => ?_, sound.line⟩
    by_cases same : j = i
    · subst same
      simp only [Function.update_self] at h
      exact Cycle.fits_of_step (modest j) step (sound.crew j) wait c h
    · simp only [Function.update_of_ne same] at h
      exact sound.crew j wait c h
  | around innocent => exact ⟨sound.crew, sound.line⟩

/-- What the caller posts has the last number, and goes to other mailboxes than its own. -/
lemma sent_of_step (sound : f.Sound) (step : Step f l g) :
    ∀ x ∈ Happening.sent l, x.1 ≠ .autoParser ∧ x.2.callId = g.caller.lastCall := by
  cases step with
  | line step =>
    obtain ⟨-, same, own⟩ := Call.underWay_of_step step sound.line
    simp only at same
    subst same
    rw [Happening.sent_called]
    exact own
  | task => simp
  | call => exact fun x hx => absurd hx List.not_mem_nil
  | around => exact fun x hx => absurd hx List.not_mem_nil

/-- The traffic without what one task has, which is the same whatever the task has. -/
lemma traffic_update [Fintype ι] (f : Fleet σ) (i : ι)
    (x : Progress (Cycle (Subsystem.Job (σ i))) Empty × Runner (σ i)) (w : World) :
    ∃ rest, f.traffic = Cycle.held (Subsystem.address (σ i)) (f.crew i).1 + rest + f.world.mail ∧
      traffic { f with world := w, crew := Function.update f.crew i x } =
        Cycle.held (Subsystem.address (σ i)) x.1 + rest + w.mail := by
  obtain ⟨rest, before, after⟩ :=
    exists_rest (fun j y => Cycle.held (Subsystem.address (σ j)) y.1) f.crew i
  exact ⟨rest, congrArg (· + f.world.mail) before, congrArg (· + w.mail) (after x)⟩

/-- The balance of a step of a task. -/
lemma flow_of_task [Fintype ι] (modest : ∀ i, Subsystem.Modest (σ i) Asleep none (sweeps i))
    (sound : f.Sound) {i : ι} {p : Progress (Cycle (Subsystem.Job (σ i))) Empty}
    {r : Runner (σ i)} {w : World} {deeds : List Deed}
    (step : (Cycle.routine (σ i)).Step ((f.crew i).1, (f.crew i).2, f.world) deeds (p, r, w)) :
    traffic { f with world := w, crew := Function.update f.crew i (p, r) } +
        Happening.settled (deeds.map (.did (Subsystem.address (σ i)))) +
        addressed .autoParser (Happening.counted (deeds.map (.did (Subsystem.address (σ i))))) ≤
      f.traffic + Happening.sent (deeds.map (.did (Subsystem.address (σ i)))) +
        Happening.answers (deeds.map (.did (Subsystem.address (σ i)))) := by
  have task := Cycle.flow_of_step (modest i) step (sound.crew i)
  obtain ⟨rest, before, after⟩ := traffic_update f i (p, r) w
  rw [before, after, Happening.settled_did, Happening.answers_did, Happening.sent_did,
    Happening.counted_did, addressed_nil, Multiset.coe_nil, add_zero, add_zero]
  calc _ = rest + (Cycle.held (Subsystem.address (σ i)) p + w.mail +
        addressed (Subsystem.address (σ i))
          (((Deed.verdicts deeds).map Prod.fst).filter Message.expectsReply)) := by abel
    _ ≤ rest + (Cycle.held (Subsystem.address (σ i)) (f.crew i).1 + f.world.mail +
        ((Deed.verdicts deeds).filterMap Message.replyFor : List (Address × Message))) :=
      add_le_add_right task _
    _ = _ := by abel

/-- The balance of a step, for messages that belong to calls: what is settled or counted was under way,
and what comes up is posted by the caller or answers a verdict. -/
lemma flow_of_step [Fintype ι] (modest : ∀ i, Subsystem.Modest (σ i) Asleep none (sweeps i))
    (sound : f.Sound) (step : Step f l g) {p : Address × Message → Bool}
    (tagged : ∀ x, p x → Tagged x) :
    (g.traffic + Happening.settled l + addressed .autoParser (Happening.counted l)).filter (p ·) ≤
      (f.traffic + Happening.sent l + Happening.answers l).filter (p ·) := by
  cases step with
  | @call targets commands p caller w away started =>
    refine Multiset.filter_le_filter _ ?_
    have mail := Call.mail_of_start started
    simpa [traffic, Happening.settled, Happening.answers, Happening.rulings, Happening.sent, Happening.counted]
      using mail
  | @line p caller w notes step =>
    refine Multiset.filter_le_filter _ ?_
    have mail := Call.mail_of_step step sound.line
    simp only [traffic, Happening.settled_called, Happening.answers_called, Happening.sent_called,
      Happening.counted_called, Multiset.coe_nil, add_zero, add_assoc]
    exact add_le_add_right mail _
  | task step => exact Multiset.filter_le_filter _ (flow_of_task modest sound step)
  | @around w rs innocent =>
    have quiet := innocent.filter_le tagged
    simpa [traffic, Happening.settled, Happening.answers, Happening.rulings, Happening.sent, Happening.counted]
      using quiet

lemma flow_step [Fintype ι] {ids : UInt32 → Bool} (zero : ids 0 = false)
    (modest : ∀ i, Subsystem.Modest (σ i) Asleep none (sweeps i)) (sound : f.Sound)
    (step : Step f l g) : Flow ids f l g where
  requests := by
    have flow := flow_of_step modest sound step fun x => tagged_of_asksUnder zero
    simp only [Multiset.filter_add, Multiset.filter_coe, Bool.decide_eq_true, Happening.filter_settled,
      Happening.filter_answers, Multiset.coe_nil, add_zero] at flow
    exact le_trans (Multiset.le_add_right _ _) flow
  replies := by
    have flow := flow_of_step modest sound step fun x => tagged_of_repliesUnder zero
    have away : (Happening.sent l).filter (repliesUnder ids) = [] := by
      rw [List.filter_eq_nil_iff]
      intro x hx
      simp [repliesUnder, (sent_of_step sound step x hx).1]
    simp only [Multiset.filter_add, Multiset.filter_coe, Bool.decide_eq_true, away,
      Happening.filter_answers_replies, Multiset.coe_nil, add_zero] at flow
    refine le_trans ?_ flow
    gcongr
    exact Multiset.le_add_right _ _

lemma sound_of_run (modest : ∀ i, Subsystem.Modest (σ i) Asleep none (sweeps i)) (sound : f.Sound)
    (run : Run f t g) : g.Sound := by
  induction run with
  | start => exact sound
  | step run step ih => exact sound_of_step modest ih step

/-- The balance of a run that begins soundly. -/
lemma flow_of_run [Fintype ι] {ids : UInt32 → Bool} (zero : ids 0 = false)
    (modest : ∀ i, Subsystem.Modest (σ i) Asleep none (sweeps i)) (sound : f.Sound)
    (run : Run f t g) : Flow ids f t g := by
  induction run with
  | start => exact .refl ids _
  | step run step ih =>
    exact ih.trans (flow_step zero modest (sound_of_run modest sound run) step)

end

/-! ### Runs that are played -/

/-- What happens next in a run that is played. -/
inductive Move (ι : Type)
  | call (targets : List Address) (commands : List Command)
  | line
  | task (i : ι)
  /-- The clock moves on by a second. -/
  | second

variable [DecidableEq ι]

/-- Plays a move, if it is possible. -/
def move? (f : Fleet σ) : Move ι → Option (List Happening × Fleet σ)
  | .call targets commands =>
    if .autoParser ∈ targets then none
    else match Call.start f.caller targets commands f.world with
      | .ok (p, caller, w) =>
        some ([.began], { f with line := p, caller := caller, world := w })
      | .error _ => none
  | .line => (Call.routine.look? (f.line, f.caller, f.world)).map fun (notes, p, caller, w) =>
      (notes.map .called, { f with line := p, caller := caller, world := w })
  | .task i =>
    ((Cycle.routine (σ i)).look? ((f.crew i).1, (f.crew i).2, f.world)).map fun (deeds, p, r, w) =>
      (deeds.map (.did (Subsystem.address (σ i))),
        { f with world := w, crew := Function.update f.crew i (p, r) })
  | .second => some ([], { f with world := { f.world with now := f.world.now + Clock.second } })

/-- Plays a run. -/
def play (f : Fleet σ) : List (Move ι) → Option (List Happening × Fleet σ)
  | [] => some ([], f)
  | move :: moves => do
    let (l, g) ← f.move? move
    let (t, h) ← g.play moves
    return (l ++ t, h)

lemma step_of_move? {f g : Fleet σ} {move : Move ι} {l : List Happening}
    (h : f.move? move = some (l, g)) : Step f l g := by
  cases move with
  | call targets commands =>
    simp only [move?] at h
    split at h
    · cases h
    · next away =>
      split at h
      · next started =>
        cases h
        exact .call (fun a ha home => away (home ▸ ha)) started
      · cases h
  | line =>
    obtain ⟨⟨notes, p, caller, w⟩, looked, h⟩ := Option.map_eq_some_iff.1 h
    cases h
    exact .line (Routine.step_of_look? looked)
  | task i =>
    obtain ⟨⟨deeds, p, r, w⟩, looked, h⟩ := Option.map_eq_some_iff.1 h
    cases h
    exact .task (Routine.step_of_look? looked)
  | second =>
    cases h
    exact .around (le_refl (f.world.mail.filter (Tagged ·)))

/-- What is played is a run. -/
lemma run_of_play {f g : Fleet σ} {moves : List (Move ι)} {t : List Happening}
    (h : f.play moves = some (t, g)) : Run f t g := by
  suffices ∀ (e : Fleet σ) s, Run e s f → Run e (s ++ t) g from this f [] (.start f)
  intro e s run
  induction moves generalizing f s t with
  | nil =>
    cases h
    rw [List.append_nil]
    exact run
  | cons move moves ih =>
    simp only [play, Option.bind_eq_bind, Option.bind_eq_some_iff] at h
    obtain ⟨⟨l, k⟩, moved, ⟨u, g'⟩, played, h⟩ := h
    cases h
    rw [← List.append_assoc]
    exact ih played (s ++ l) (run.step (step_of_move? moved))

end Fleet

end MatchRobot
