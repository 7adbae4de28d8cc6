import MatchRobot.Proofs.Assembly.Mailboxes
import MatchRobot.Proofs.Subsystem.Balance

/-!
# Replies that wait for room

A call that times out leaves its messages behind. Their replies come later, and the next call throws them
away; but if the script is over, nobody does. The mailbox of the replies has room for eight of them, and
a part that has another one waits for room before it does anything else.

`owing` counts the messages that are replies or lead to one. A call adds one message and takes one reply,
or it times out; so the whole robot never owes more than the calls that timed out, and one for the call
that collects its reply at the moment (`Assembly.debt_of_run`). Therefore nobody waits to post a reply
before eight calls have timed out, and after eight only while the ninth collects its reply
(`Assembly.timeouts_of_stuck`). After nine, the drivetrain may wait while nobody collects replies any more
(`Assembly.stuck_after_run`).
-/

namespace MatchRobot

instance : Fintype Part where
  elems := {.drivetrain, .autonomous, .climber, .hopper, .gearIntake, .gearFloor}
  complete p := by cases p <;> decide

/-! ### Messages that lead to replies -/

/-- Whether a message is to be answered, or is an answer to the interpreter. -/
def Owing (x : Address × Message) : Prop :=
  x.2.expectsReply ∨ x.1 = .autoParser

instance : DecidablePred Owing :=
  fun x => inferInstanceAs (Decidable (x.2.expectsReply ∨ x.1 = .autoParser))

/-- How many of some messages are replies or lead to one. -/
def owing (s : Multiset (Address × Message)) : Nat :=
  s.countP Owing

@[simp] lemma owing_add (s u : Multiset (Address × Message)) : owing (s + u) = owing s + owing u :=
  Multiset.countP_add ..

lemma owing_mono {s u : Multiset (Address × Message)} (h : s ≤ u) : owing s ≤ owing u :=
  Multiset.countP_le_of_le _ h

lemma owing_singleton {x : Address × Message} (h : Owing x) : owing ([x] : List _) = 1 :=
  Multiset.countP_cons_of_pos 0 h

/-- A message away from the mailbox of the replies that nobody is to answer does not count. -/
lemma owing_unasked {a : Address} {m : Message} (away : a ≠ .autoParser)
    (unasked : m.replyTo = none) : owing ([(a, m)] : List _) = 0 := by
  refine Multiset.countP_cons_of_neg 0 ?_
  rintro (asked | home)
  · rw [Message.expectsReply, unasked] at asked
    cases asked
  · exact away home

/-- All that waits in the mailbox of the replies counts. -/
lemma owing_replies (ms : List Message) : owing (addressed .autoParser ms) = ms.length := by
  induction ms with
  | nil => rfl
  | cons m ms ih =>
    have head : addressed .autoParser (m :: ms) =
        ([(.autoParser, m)] : List (Address × Message)) + addressed .autoParser ms := rfl
    have reply : Owing (.autoParser, m) := .inr rfl
    rw [head, owing_add, owing_singleton reply, ih, List.length_cons, Nat.add_comm]

/-- An answer takes the place of a message that was to be answered. -/
lemma owing_answers (own : Address) (vs : List (Message × Verdict)) :
    owing (vs.filterMap Message.replyFor : List (Address × Message)) ≤
      owing (addressed own ((vs.map Prod.fst).filter Message.expectsReply)) := by
  induction vs with
  | nil => exact Nat.le_refl 0
  | cons x vs ih =>
    cases asked : x.1.replyTo with
    | none => simpa [Message.replyFor, Message.expectsReply, asked] using ih
    | some a =>
      have owes : Owing (own, x.1) := .inl (by simp [Message.expectsReply, asked])
      have one : owing ([(a, x.1.answer x.2.reply)] : List (Address × Message)) ≤ 1 :=
        Multiset.countP_le_card ..
      have answers : ((x :: vs).filterMap Message.replyFor : Multiset (Address × Message)) =
          ([(a, x.1.answer x.2.reply)] : List _) + (vs.filterMap Message.replyFor : List _) := by
        simp [Message.replyFor, asked]
      have messages : addressed own (((x :: vs).map Prod.fst).filter Message.expectsReply) =
          ([(own, x.1)] : List _) +
            addressed own ((vs.map Prod.fst).filter Message.expectsReply) := by
        simp [Message.expectsReply, asked, addressed]
      rw [answers, messages, owing_add, owing_add, owing_singleton owes]
      exact Nat.add_le_add one ih

/-- Whether a part listens at a mailbox. -/
def Progress.listens {ι : Type} (box : Address) : Progress (Cycle ι) Empty → Bool
  | .waiting (.receive x _) .listening => x == box
  | _ => false

lemma Progress.listens_iff {ι : Type} {p : Progress (Cycle ι) Empty} {box : Address} :
    p.listens box = true ↔ ∃ limit, p = .waiting (.receive box limit) .listening := by
  unfold listens
  split
  · simp
  · next other => simpa using fun limit => other box limit

/-! ### The call of a script -/

/-- Whether a task collects the reply to a call. -/
def Progress.collecting {ι α : Type} : Progress ι α → Nat
  | .waiting (.receive .autoParser _) _ => 1
  | _ => 0

/-- Whether an alarm is armed makes no difference to that. -/
lemma Progress.collecting_of_rearmed {ι α : Type} {wait wait' : Wait} (c : ι)
    (h : wait.Rearmed wait') : (Progress.waiting wait' c : Progress ι α).collecting =
      (Progress.waiting wait c : Progress ι α).collecting := by
  cases h with
  | @receive box => cases box <;> rfl
  | _ => rfl

/-- A call that has posted its message collects the reply. -/
lemma Interpreter.collects_of_asking {i : Interpreter} {c : Call} {ok failed : String} {w : World}
    {stage : Stage Evaluation Bool Interpreter} (last : c.unposted = some [])
    (short : c.received < c.expected) (done : i.resume (.calling c ok failed) .sent w = .ok stage) :
    ∃ limit e, stage.1 = .waiting (.receive .autoParser limit) e := by
  obtain ⟨⟨p, u⟩, resumed, done⟩ := bind_eq_ok.1 done
  cases done
  simp only [Call.resume, last] at resumed
  obtain ⟨-, limit, rfl⟩ := Call.post_nil_eq_ok resumed
  have waits : Call.collect { c with unposted := none } limit =
      .waiting (.receive .autoParser limit) { c with unposted := none } := if_pos short
  rw [waits]
  exact ⟨limit, _, rfl⟩

lemma Autonomous.collects_of_asking {a : Autonomous} {r : MatchRobot.Run} {c : Call}
    {ok failed : String} {w : World} {stage : Stage MatchRobot.Run Reply Autonomous}
    (line : r.line = .calling c ok failed) (last : c.unposted = some [])
    (short : c.received < c.expected) (done : Subsystem.resume r .sent a w = .ok stage) :
    ∃ limit r', stage.1 = .waiting (.receive .autoParser limit) r' := by
  obtain ⟨⟨p, pilot, u⟩, resumed, done⟩ := bind_eq_ok.1 done
  cases done
  obtain ⟨⟨q, i, u'⟩, evaluated, resumed⟩ := bind_eq_ok.1 resumed
  rw [line] at evaluated
  obtain ⟨limit, e, collects⟩ := Interpreter.collects_of_asking last short evaluated
  simp only at collects
  subst collects
  cases resumed
  exact ⟨limit, _, rfl⟩

/-- So does the task that runs the script. -/
lemma Cycle.collects_of_asking {r r' : Runner Autonomous} {run : MatchRobot.Run}
    {c : Cycle MatchRobot.Run} {call : Call} {ok failed : String} {v w : World}
    {p : Progress (Cycle MatchRobot.Run) Empty}
    (job : c = .entering run ∨ ∃ m, c = .handling m run) (line : run.line = .calling call ok failed)
    (last : call.unposted = some []) (short : call.received < call.expected)
    (done : c.runOn .sent r v = .ok (p, r', w)) : p.collecting = 1 := by
  obtain ⟨stage, resumed, again⟩ := bind_eq_ok.1 done
  rcases job with rfl | ⟨m, rfl⟩
  · obtain ⟨⟨q, a, u⟩, worked, resumed⟩ := bind_eq_ok.1 resumed
    obtain ⟨limit, run', collects⟩ := Autonomous.collects_of_asking line last short worked
    simp only at collects
    subst collects
    cases resumed
    cases again
    rfl
  · obtain ⟨stage', pursued, resumed⟩ := bind_eq_ok.1 resumed
    obtain ⟨⟨q, a, u⟩, worked, pursued⟩ := bind_eq_ok.1 pursued
    obtain ⟨limit, run', collects⟩ := Autonomous.collects_of_asking line last short worked
    simp only at collects
    subst collects
    cases pursued
    cases resumed
    cases again
    rfl

/-- A call that posts its message goes on to collect; one that collects takes a reply or times out; and
other errands of a script are not answered. -/
lemma Cycle.collecting_of_woken {r r' : Runner Autonomous} {c : Cycle MatchRobot.Run} {wait : Wait}
    {wake : Wake} {u v w : World} {p : Progress (Cycle MatchRobot.Run) Empty}
    (fit : Fits .autonomous Autonomous.Fits c wait) (ended : u.Ended wait wake v)
    (done : c.runOn wake r v = .ok (p, r', w)) :
    owing (c.errands wait wake) + (Progress.waiting wait c : Progress _ Empty).collecting ≤
      owing (c.fetched wait wake) + (wait.missed wake).count .autoParser + p.collecting := by
  have jobs : ∀ {run : MatchRobot.Run}, (c = .entering run ∨ ∃ m, c = .handling m run) →
      run.line.Fits wait → owing (wait.posted wake) +
        (Progress.waiting wait c : Progress _ Empty).collecting ≤
          owing (wait.picked wake) + (wait.missed wake).count .autoParser + p.collecting := by
    intro run job fit
    generalize hline : run.line = line at fit
    cases fit with
    | posting errand =>
      cases ended
      have none := owing_unasked errand.away errand.unasked
      exact le_trans (Nat.le_of_eq none) (Nat.zero_le _)
    | @asking call ok failed command last short =>
      cases ended
      have collects := Cycle.collects_of_asking job hline last short done
      rw [collects]
      have one : owing (Wait.posted (.send .drivetrain (call.message (.drive command))) .sent) ≤ 1 :=
        Multiset.countP_le_card ..
      exact le_trans one (Nat.le_add_left 1 _)
    | @collecting call ok failed limit posted =>
      cases ended with
      | @received _ _ m _ taken =>
        have reply : Owing (.autoParser, m) := .inr rfl
        have one : owing ([(.autoParser, m)] : List (Address × Message)) = 1 := owing_singleton reply
        have picked : Wait.picked (.receive .autoParser limit) (.received m limit) =
            [(.autoParser, m)] := rfl
        rw [picked, one, Nat.add_assoc]
        exact Nat.le_add_right 1 _
      | missed =>
        exact le_trans (Nat.le_add_left 1 0) (Nat.le_add_right _ _)
    | held | delayHeld | delaying | settling => exact Nat.zero_le _
  cases fit with
  | listening | replying => exact Nat.zero_le _
  | @entering run _ fit => exact jobs (.inl rfl) fit
  | @handling m run _ news fit => exact jobs (.inr ⟨m, rfl⟩) fit

/-! ### What all have in hand -/

/-- What of a part's own messages is a reply or leads to one. -/
def Part.debt (p : Part) (progress : Progress (Cycle p.Job) Empty) : Nat :=
  owing (Cycle.held p.address progress)

/-- A part that collects a reply. -/
def Part.collecting (p : Part) (progress : Progress (Cycle p.Job) Empty) : Nat :=
  if p = .autonomous then progress.collecting else 0

/-- A look at a part adds nothing to what is owed, except that the script may call; it takes a reply then,
or misses it. -/
lemma Part.debt_of_step {p : Part} {a b : Stage (Cycle p.Job) Empty (Runner p.State)}
    {l : List Occurrence} (step : p.routine.Step a l b)
    (fit : ∀ wait c, a.1 = .waiting wait c → Cycle.Fits p.address p.Fits c wait) :
    p.debt b.1 + owing b.2.2.mail + p.collecting a.1 ≤
      p.debt a.1 + owing a.2.2.mail +
        (Occurrence.misses .autonomous l).count .autoParser + p.collecting b.1 := by
  cases step with
  | @pending wait wait' c r v w looked =>
    obtain ⟨rearmed, kept⟩ := World.rearmed_of_poll looked
    have mail := owing_mono kept.mail_le
    have same : p.collecting (.waiting wait' c) = p.collecting (.waiting wait c) := by
      rw [collecting, collecting, Progress.collecting_of_rearmed c rearmed]
    simp only [debt, Cycle.held_of_rearmed p.address c rearmed, same]
    have none : (Occurrence.misses .autonomous []).count .autoParser = 0 := rfl
    omega
  | @woken wait wake c r v u b looked worked =>
    obtain ⟨progress, r', w⟩ := b
    have fit := fit _ _ rfl
    have ended := World.ended_of_poll looked
    have flow := owing_mono (Cycle.flow_of_woken p.modest fit ended worked)
    have answers := owing_answers (Subsystem.address p.State) (c.judged wake r u)
    have jobs : owing (c.errands wait wake) + p.collecting (.waiting wait c) ≤
        owing (c.fetched wait wake) +
          (Occurrence.misses .autonomous (p.routine.notes wait c wake r u)).count .autoParser +
          p.collecting progress := by
      by_cases script : p = .autonomous
      · subst script
        have misses : Occurrence.misses .autonomous (Part.autonomous.routine.notes wait c wake r u) =
            wait.missed wake := Occurrence.misses_did_self _ _ _
        rw [misses]
        exact Cycle.collecting_of_woken fit ended worked
      · have asleep : Cycle.Fits p.address Asleep c wait := by
          cases p with
          | autonomous => exact absurd rfl script
          | drivetrain | climber | hopper | gearIntake | gearFloor => exact fit
        rw [Cycle.errands_of_asleep asleep, collecting, if_neg script]
        exact Nat.zero_le _
    simp only [owing_add] at flow
    simp only [debt, address]
    omega

namespace World

lemma owing_mail (w : World) : owing w.mail = ∑ box, owing (addressed box (w.post.queue box)) :=
  map_sum (Multiset.countPAddMonoidHom Owing) (fun box => addressed box (w.post.queue box)) Finset.univ

/-- Errands are not answered. -/
lemma owing_of_errands {v w : World} (h : v.Errands w) : owing w.mail ≤ owing v.mail := by
  rw [owing_mail, owing_mail]
  refine Finset.sum_le_sum fun box _ => ?_
  obtain ⟨ms, grown, errand⟩ := h.grown box
  have none : owing (addressed box ms) = 0 := by
    clear grown
    induction ms with
    | nil => rfl
    | cons m ms ih =>
      have head : addressed box (m :: ms) =
          ([(box, m)] : List (Address × Message)) + addressed box ms := rfl
      have first := errand m List.mem_cons_self
      rw [head, owing_add, owing_unasked first.away first.unasked,
        ih fun n hn => errand n (List.mem_cons_of_mem m hn)]
  rw [grown, addressed_append, owing_add, none]
  exact Nat.le_refl _

/-- The news of a mode is not answered either. -/
lemma owing_of_told {v w : World} {x : Address} {m : Mode} (task : x ∈ Address.tasks)
    (posted : v.post? x { command := .state m } = some w) : owing w.mail = owing v.mail := by
  have mail := congrArg owing (Ended.sent posted).mail
  have none : owing (Wait.posted (.send x { command := .state m }) .sent) = 0 :=
    owing_unasked (Address.mem_tasks.1 task) rfl
  have nothing : owing (Wait.picked (.send x { command := .state m }) .sent) = 0 := rfl
  rw [owing_add, owing_add, none, nothing] at mail
  omega

end World

namespace Assembly

variable {a b : Assembly} {t l : List Occurrence}

/-- How many messages of the whole robot are replies or lead to one. -/
def debt (a : Assembly) : Nat :=
  ∑ p : Part, p.debt (a.parts p).1 + owing a.world.mail

/-- How many calls have timed out. -/
def timeouts (t : List Occurrence) : Nat :=
  (Occurrence.misses .autonomous t).count .autoParser

@[simp] lemma timeouts_append : timeouts (t ++ l) = timeouts t + timeouts l := by
  rw [timeouts, Occurrence.misses_append, List.count_append]
  rfl

/-- Every step keeps the bound: what is owed comes from calls that timed out and from the one that
collects its reply. -/
lemma debt_of_step (sound : a.Sound) (step : Step a l b) :
    b.debt + (a.parts .autonomous).1.collecting ≤
      a.debt + timeouts l + (b.parts .autonomous).1.collecting := by
  -- Whoever is not a part leaves the parts where they are.
  have quiet : ∀ {c : Assembly}, (∀ p, (c.parts p).1 = (a.parts p).1) →
      owing c.world.mail ≤ owing a.world.mail →
      c.debt + (a.parts .autonomous).1.collecting ≤
        a.debt + timeouts l + (c.parts .autonomous).1.collecting := by
    intro c same mail
    simp only [debt, same]
    omega
  cases step with
  | @part p l s step =>
    have part := Part.debt_of_step step (sound.parts p)
    obtain ⟨rest, before, after⟩ := exists_rest (fun (q : Part) x => q.debt x.1) a.parts p
    have collects : ((a.setStage p s).parts .autonomous).1.collecting + p.collecting (a.parts p).1 =
        (a.parts .autonomous).1.collecting + p.collecting s.1 := by
      by_cases script : p = .autonomous
      · subst script
        simp only [setStage, Function.update_self, Part.collecting, if_pos]
        exact Nat.add_comm _ _
      · simp only [setStage, Function.update_of_ne (Ne.symm script), Part.collecting, if_neg script]
    simp only [debt, timeouts, before]
    simp only [setStage, after] at collects ⊢
    simp only [stage] at part
    omega
  | change idle => exact quiet (fun p => rfl) (by rw [World.mail, post_change]; exact Nat.le_refl _)
  | tell step =>
    refine quiet (fun p => rfl) ?_
    obtain ⟨told, telling⟩ := sound.telling step
    rcases (telling.step_cases step).2 with ⟨-, -, -, kept⟩ | ⟨x, -, untold, -, posted⟩
    · exact owing_mono kept.mail_le
    · have task : x ∈ Address.tasks := by
        rw [telling.order, untold]
        exact List.mem_append_right _ List.mem_cons_self
      exact Nat.le_of_eq (World.owing_of_told task posted)
  | sample idle =>
    exact quiet (fun p => rfl) (World.owing_of_errands (Dispatcher.errands_teleop _ _ _))
  | battery idle =>
    exact quiet (fun p => rfl) (World.owing_of_errands (Dispatcher.errands_reportBattery _ _))
  | around aside sensed =>
    exact quiet (fun p => rfl) (by rw [World.mail, aside.post]; exact Nat.le_refl _)

/-- In every run, what is owed are replies to calls that timed out, and to the one that collects its
reply. -/
lemma debt_of_run (fresh : a.Fresh) (run : Run a t b) :
    b.debt ≤ timeouts t + (b.parts .autonomous).1.collecting := by
  induction run with
  | start =>
    have nothing : a.debt = 0 := by
      have held : ∀ p : Part, p.debt (a.parts p).1 = 0 := by
        intro p
        obtain ⟨limit, listening⟩ := fresh.listening p
        rw [listening]
        rfl
      have mail : owing a.world.mail = 0 := by
        rw [World.owing_mail]
        exact Finset.sum_eq_zero fun box _ => by rw [fresh.empty box]; rfl
      rw [debt, mail, Finset.sum_eq_zero fun (p : Part) _ => held p]
    rw [nothing]
    exact Nat.zero_le _
  | step run step ih =>
    have next := debt_of_step (sound_of_run fresh.sound run) step
    rw [timeouts_append]
    omega

/-- What a part that waits to post a reply owes. -/
lemma debt_of_replying {p : Part} {m : Message} {c : Cycle p.Job}
    (fit : Cycle.Fits p.address p.Fits c (.send .autoParser m)) :
    1 ≤ p.debt (.waiting (.send .autoParser m) c) := by
  cases fit with
  | entering fit => exact absurd rfl (Part.sends_of_fits fit).1
  | handling news fit => exact absurd rfl (Part.sends_of_fits fit).1
  | replying reply =>
    have one : owing ([(.autoParser, m)] : List (Address × Message)) = 1 :=
      owing_singleton (.inr rfl)
    have owes : p.debt (.waiting (.send .autoParser m) .replying) =
        owing ([(.autoParser, m)] : List (Address × Message)) := by
      rw [Part.debt, Cycle.held]
      exact congrArg owing (zero_add _)
    rw [owes, one]

/-- A part that waits for room to post a reply finds the mailbox full of replies that came too late:
eight calls have timed out at least, and more than eight, unless the script collects the reply to a call
at the moment. -/
theorem timeouts_of_stuck (fresh : a.Fresh) (run : Run a t b) {p : Part} {m : Message}
    {c : Cycle p.Job} (stuck : (b.parts p).1 = .waiting (.send .autoParser m) c)
    (full : b.world.post.hasRoom .autoParser = false) :
    Settings.mailboxDepth ≤ timeouts t ∧
      ((∃ limit phase, (b.parts .autonomous).1 = .waiting (.receive .autoParser limit) phase) ∨
        Settings.mailboxDepth < timeouts t) := by
  have bound := debt_of_run fresh run
  have reply : 1 ≤ ∑ q : Part, q.debt (b.parts q).1 := by
    have own := debt_of_replying ((sound_of_run fresh.sound run).parts p _ _ stuck)
    rw [← stuck] at own
    exact own.trans (Finset.single_le_sum (f := fun q : Part => q.debt (b.parts q).1)
      (fun _ _ => Nat.zero_le _) (Finset.mem_univ p))
  have box : Settings.mailboxDepth ≤ owing b.world.mail := by
    have replies := owing_replies (b.world.post.queue .autoParser)
    have filled : Settings.mailboxDepth ≤ (b.world.post.queue .autoParser).length :=
      Nat.le_of_not_lt (of_decide_eq_false full)
    rw [World.owing_mail]
    refine (filled.trans (Nat.le_of_eq replies.symm)).trans ?_
    exact Finset.single_le_sum (f := fun box => owing (addressed box (b.world.post.queue box)))
      (fun _ _ => Nat.zero_le _) (Finset.mem_univ Address.autoParser)
  rw [debt] at bound
  cases collects : (b.parts .autonomous).1.collecting with
  | zero => omega
  | succ n =>
    have one : n + 1 ≤ 1 := by
      rw [← collects]
      unfold Progress.collecting
      split <;> simp
    refine ⟨by omega, .inl ?_⟩
    unfold Progress.collecting at collects
    split at collects
    · next limit phase waiting => exact ⟨limit, phase, waiting⟩
    · cases collects

/-- A script of nine moves whose calls all time out at once, and then the drivetrain gets to work. -/
def belated : List Move :=
  [.change .autonomous] ++ List.replicate 6 .tell ++ [.part .drivetrain, .part .autonomous] ++
    List.replicate 24 (.part .autonomous) ++ [.part .drivetrain] ++
    List.replicate 3 (.part .autonomous) ++ List.replicate 16 (.part .drivetrain)

/-- The drivetrain waits to post the reply to the ninth call, and the script is over. -/
lemma exists_stuck : ∃ t b, Run (ready (String.join (List.replicate 9 "MMOVE 0 0 0\n"))
      { zeroAttempts := 0 } { replyTimeout := some 0 }) t b ∧
    (∃ message phase, (b.parts .drivetrain).1 = .waiting (.send .autoParser message) phase) ∧
    b.world.post.hasRoom .autoParser = false ∧ timeouts t = 9 ∧
    ∃ limit, (b.parts .autonomous).1 = .waiting (.receive .autonomous limit) .listening := by
  have played : ((ready (String.join (List.replicate 9 "MMOVE 0 0 0\n")) { zeroAttempts := 0 }
      { replyTimeout := some 0 }).play belated).any (fun x =>
        (x.2.parts .drivetrain).1.awaitsRoom .autoParser &&
          !x.2.world.post.hasRoom .autoParser && timeouts x.1 == 9 &&
          (x.2.parts .autonomous).1.listens .autonomous) = true := by
    decide +kernel
  obtain ⟨⟨t, b⟩, run, passed⟩ := (Option.any_eq_true _ _).1 played
  simp only [Bool.and_eq_true, Bool.not_eq_true', beq_iff_eq, Progress.awaitsRoom_iff,
    Progress.listens_iff] at passed
  obtain ⟨⟨⟨stuck, full⟩, nine⟩, listens⟩ := passed
  exact ⟨t, b, run_of_play run, stuck, full, nine, listens⟩

theorem nine_timeouts_of_stuck : ∃ a t b message phase, Fresh a ∧ Run a t b ∧
    (b.parts .drivetrain).1 = .waiting (.send .autoParser message) phase ∧
    b.world.post.hasRoom .autoParser = false ∧ timeouts t = 9 ∧
    Settings.mailboxDepth < timeouts t := by
  obtain ⟨t, b, run, ⟨message, phase, stuck⟩, full, nine, limit, listens⟩ := exists_stuck
  have fresh := fresh_ready (String.join (List.replicate 9 "MMOVE 0 0 0\n")) { zeroAttempts := 0 }
    { replyTimeout := some 0 }
  refine ⟨_, t, b, message, phase, fresh, run, stuck, full, nine, ?_⟩
  rcases (timeouts_of_stuck fresh run stuck full).2 with ⟨limit', phase', collects⟩ | more
  · rw [listens] at collects
    cases collects
  · exact more

/-- A part may wait to post a reply while nobody collects replies: the script is over, and the autonomous
task listens for the next message. -/
theorem stuck_after_run : ¬ ∀ (a b : Assembly) (t : List Occurrence) (p : Part) message
    (phase : Cycle p.Job), a.Fresh → Run a t b →
    (b.parts p).1 = .waiting (.send .autoParser message) phase →
    b.world.post.hasRoom .autoParser = false →
    ∃ limit phase, (b.parts .autonomous).1 = .waiting (.receive .autoParser limit) phase := by
  intro claim
  obtain ⟨t, b, run, ⟨message, phase, stuck⟩, full, -, limit, listens⟩ := exists_stuck
  obtain ⟨limit', phase', collects⟩ :=
    claim _ b t .drivetrain message phase (fresh_ready _ _ _) run stuck full
  rw [listens] at collects
  cases collects

end Assembly

end MatchRobot
