import Mathlib.Data.List.Chain
import MatchRobot.Proofs.Assembly.Mailboxes

/-!
# The news of a change of mode

A change of mode sets the flag and then tells the tasks one after the other, and it waits for room
wherever a mailbox is full. `Assembly.tells_in_order` says where it stands at any moment: the tasks that
come before the mailbox whose room it awaits have been told, once each, and the others have not. So a
full mailbox holds the news back from every task that comes after it, whether that has room or not
(`Assembly.full_mailbox_hides_mode`).

Between two changes everybody agrees. `Assembly.Agreed` is the account of every moment: what a task has
heard of, what is in its mailbox and what it is still to be told are the changes of the flag, in order.
Once nothing is left to be told, `Assembly.modes_agree` follows.
-/

namespace MatchRobot

/-- The message that tells of a mode. -/
def Mode.message (m : Mode) : Message :=
  { command := .state m }

namespace Assembly

variable {a b c : Assembly} {t u l : List Occurrence} {m : Mode}

/-! ### One change -/

/-- How far a change to a mode has come: the tasks that it has told. -/
structure Told (m : Mode) (u : List Occurrence) (told : List Address) (c : Assembly) : Prop where
  flag : c.world.mode = m
  tellings : Occurrence.tellings u = told.map fun x => (x, m.message)
  desk : Telling m told c.desk

/-- A step that begins no other change leaves the change where it is, or tells the next task. -/
lemma told_of_step {told : List Address} (h : Told m u told b) (sound : b.Sound)
    (step : Step b l c) (single : Occurrence.changes l = []) : ∃ told', Told m (u ++ l) told' c := by
  have quiet : ∀ {l}, Occurrence.tellings l = [] →
      Occurrence.tellings (u ++ l) = told.map fun x => (x, m.message) := by
    intro l none
    rw [Occurrence.tellings_append, none, List.append_nil]
    exact h.tellings
  cases step with
  | @part p l s step =>
    obtain ⟨ds, boxes, rfl, cycled⟩ := Part.step_cases step
    have mode : s.2.2.mode = b.world.mode := Part.mode_of_step cycled (sound.parts p)
    exact ⟨told, mode.trans h.flag, quiet (Occurrence.tellings_did _ _ _), h.desk⟩
  | @change m' idle =>
    by_cases same : b.world.mode = m'
    · rw [if_pos same, change_of_eq same]
      obtain ⟨r, finished⟩ := idle
      have done := h.desk
      rw [finished] at done
      cases done
      exact ⟨_, h.flag, quiet rfl, .finished⟩
    · rw [if_neg same] at single
      cases single
  | @tell l desk d w step =>
    obtain ⟨-, ⟨rfl, -, next, kept⟩ | ⟨x, rfl, -, next, posted⟩⟩ := h.desk.step_cases step
    · exact ⟨told, kept.mode.trans h.flag, quiet rfl, next⟩
    · refine ⟨told ++ [x], (World.untouched_post? posted).2.trans h.flag, ?_, next⟩
      rw [Occurrence.tellings_append, h.tellings, List.map_append]
      rfl
  | @sample i idle =>
    have flag : (b.sample i).world.mode = b.world.mode := (Dispatcher.errands_teleop _ i _).mode
    exact ⟨told, flag.trans h.flag, quiet rfl, h.desk⟩
  | @battery volts idle =>
    have flag : (b.battery volts).world.mode = b.world.mode :=
      (Dispatcher.errands_reportBattery volts _).mode
    exact ⟨told, flag.trans h.flag, quiet rfl, h.desk⟩
  | around aside sensed => exact ⟨told, aside.mode.trans h.flag, quiet rfl, h.desk⟩

lemma told_of_run (sound : b.Sound) (idle : b.Idle) (new : b.world.mode ≠ m)
    (run : Run (b.change m) u c) (single : Occurrence.changes u = []) : ∃ told, Told m u told c := by
  have begun : (b.change m).Sound := sound_of_step sound (.change idle)
  induction run with
  | start =>
    refine ⟨[], mode_change b m, rfl, ?_⟩
    rw [desk_change_of_ne new]
    exact .start rfl
  | step run step ih =>
    rw [Occurrence.changes_append, List.append_eq_nil_iff] at single
    obtain ⟨told, so_far⟩ := ih single.1
    exact told_of_step so_far (sound_of_run begun run) step single.2

/-- A look at a change that awaits room tells the task in question if there is room, and nobody else. -/
lemma look_iff {x : Address} {phase : Broadcast} {d : Dispatcher} {v : World} :
    (∃ s, Broadcast.routine.Step (.waiting (.send x m.message) phase, d, v) l s) ↔
      l = if v.post.hasRoom x then [.told x m.message] else [] := by
  constructor
  · rintro ⟨s, step⟩
    cases step with
    | pending looked =>
      cases room : v.post.hasRoom x with
      | false => rfl
      | true => simp [World.poll, World.post?, PostOffice.post?, room] at looked
    | woken looked worked =>
      cases World.ended_of_poll looked with
      | sent posted =>
        have room := (PostOffice.post?_eq_some_iff.1 (World.post_of_post? posted)).1
        rw [room]
        rfl
  · rintro rfl
    cases posted : v.post? x m.message with
    | none =>
      have full : v.post.hasRoom x = false := by
        simpa [World.post?, PostOffice.post?] using posted
      have looked : v.poll (.send x m.message) = .pending (.send x m.message) (v.expectRoom x) := by
        rw [World.poll, posted]
      rw [full]
      exact ⟨_, .pending looked⟩
    | some w =>
      have room := (PostOffice.post?_eq_some_iff.1 (World.post_of_post? posted)).1
      have looked : v.poll (.send x m.message) = .over .sent w := by
        rw [World.poll, posted]
      rw [room]
      exact ⟨_, .woken looked rfl⟩

/-- As long as a change of mode is under way, the flag shows the new mode, and the tasks that come before
the mailbox whose room is awaited have been told, once each and in order. The next one is told as soon as
the dispatcher is looked at while that mailbox has room; nobody else is told meanwhile. -/
theorem tells_in_order (fresh : a.Fresh) (before : Run a t b) (idle : b.Idle)
    (new : b.world.mode ≠ m) (after : Run (b.change m) u c) (single : Occurrence.changes u = []) :
    c.world.mode = m ∧
      (c.Idle → Occurrence.tellings u = Address.tasks.map fun x => (x, m.message)) ∧
      ∀ wait phase, c.desk = .waiting wait phase → ∃ told x rest,
        Address.tasks = told ++ x :: rest ∧ wait = .send x m.message ∧
        Occurrence.tellings u = (told.map fun y => (y, m.message)) ∧
        ∀ l, (∃ s, Broadcast.routine.Step (c.desk, c.dispatcher, c.world) l s) ↔
          l = if c.world.post.hasRoom x then [.told x m.message] else [] := by
  have sound := sound_of_run fresh.sound before
  obtain ⟨told, flag, tellings, desk⟩ := told_of_run sound idle new after single
  refine ⟨flag, fun done => ?_, fun wait phase awaited => ?_⟩
  · obtain ⟨r, finished⟩ := done
    rw [finished] at desk
    cases desk
    exact tellings
  · rw [awaited] at desk ⊢
    cases desk with
    | @waiting _ rest x order =>
      exact ⟨told, x, rest, order, rfl, tellings, fun l => look_iff⟩

/-- The autonomous task is busy with a script, and eight changes of mode fill its mailbox. The drivetrain
has room again. -/
def crowding : List Move :=
  [.change .autonomous] ++ List.replicate 6 .tell ++
    [.part .autonomous, .part .drivetrain, .part .climber, .part .hopper, .part .gearIntake,
      .part .gearFloor] ++
    (List.replicate 4 [.change .teleoperated, .tell, .tell, .tell, .tell, .tell, .tell,
      .change .disabled, .tell, .tell, .tell, .tell, .tell, .tell]).flatten ++
    [.part .drivetrain]

/-- The next change of mode waits for room in the mailbox of the autonomous task. -/
lemma exists_hidden : ∃ t b u c, Run (ready "DELAY 10" {} {}) t b ∧ b.Idle ∧
    b.world.mode ≠ .teleoperated ∧ Run (b.change .teleoperated) u c ∧
    Occurrence.changes u = [] ∧ Occurrence.tellings u = [] ∧
    (∃ message phase, c.desk = .waiting (.send .autonomous message) phase) ∧
    c.world.post.hasRoom .autonomous = false ∧ c.world.post.hasRoom .drivetrain = true := by
  have played : ((ready "DELAY 10" {} {}).play crowding).any (fun x =>
      decide x.2.Idle && x.2.world.mode != .teleoperated &&
        ((x.2.change .teleoperated).play [.tell]).any fun y =>
          (Occurrence.changes y.1).isEmpty && (Occurrence.tellings y.1).isEmpty &&
            y.2.desk.awaitsRoom .autonomous &&
            !y.2.world.post.hasRoom .autonomous && y.2.world.post.hasRoom .drivetrain) = true := by
    decide +kernel
  obtain ⟨⟨t, b⟩, before, passed⟩ := (Option.any_eq_true _ _).1 played
  simp only [Bool.and_eq_true, decide_eq_true_eq, bne_iff_ne] at passed
  obtain ⟨⟨idle, new⟩, passed⟩ := passed
  obtain ⟨⟨u, c⟩, after, passed⟩ := (Option.any_eq_true _ _).1 passed
  simp only [Bool.and_eq_true, Bool.not_eq_true', List.isEmpty_iff, Progress.awaitsRoom_iff] at passed
  obtain ⟨⟨⟨⟨single, untold⟩, awaited⟩, full⟩, room⟩ := passed
  exact ⟨t, b, u, c, run_of_play before, idle, new, run_of_play after, single, untold, awaited, full,
    room⟩

theorem hidden_mode_is_set : ∃ a t b u c, Fresh a ∧ Run a t b ∧ b.Idle ∧
    b.world.mode ≠ .teleoperated ∧ Run (b.change .teleoperated) u c ∧ Occurrence.changes u = [] ∧
    c.world.mode = .teleoperated ∧ ∃ wait phase told x rest, c.desk = .waiting wait phase ∧
      Address.tasks = told ++ x :: rest ∧ wait = .send x Mode.teleoperated.message ∧
      Occurrence.tellings u = told.map fun y => (y, Mode.teleoperated.message) := by
  obtain ⟨t, b, u, c, before, idle, new, after, single, -, ⟨message, phase, awaited⟩, -⟩ :=
    exists_hidden
  have fresh := fresh_ready "DELAY 10" {} {}
  obtain ⟨flag, -, order⟩ := tells_in_order fresh before idle new after single
  obtain ⟨told, x, rest, whole, wait, tellings, -⟩ := order _ phase awaited
  exact ⟨_, t, b, u, c, fresh, before, idle, new, after, single, flag, _, phase, told, x, rest,
    awaited, whole, wait, tellings⟩

/-- A task whose mailbox has room may still be left in the dark about a mode while the mailbox of another
task is full. -/
theorem full_mailbox_hides_mode : ¬ ∀ (a b c d : Assembly) (t u v : List Occurrence) (m : Mode)
    (x y : Address) message phase, a.Fresh → Run a t b → b.Idle → b.world.mode ≠ m →
    Run (b.change m) u c → Run c v d → Occurrence.changes (u ++ v) = [] →
    d.desk = .waiting (.send y message) phase → d.world.post.hasRoom y = false →
    x ∈ Address.tasks → c.world.post.hasRoom x = true →
    (x, m.message) ∈ Occurrence.tellings (u ++ v) := by
  intro claim
  obtain ⟨t, b, u, c, before, idle, new, after, single, untold, ⟨message, phase, awaited⟩, full,
    room⟩ := exists_hidden
  rw [← List.append_nil u] at single untold
  have told := claim _ b c c t u [] .teleoperated .drivetrain .autonomous message phase
    (fresh_ready _ _ _) before idle new after (.start c) single awaited full (by decide) room
  rw [untold] at told
  cases told

/-! ### All changes -/

/-- The account of the modes at a moment of a run that began in a mode. -/
structure Agreed (first : Mode) (t : List Occurrence) (b : Assembly) : Prop where
  /-- What a task has heard of, what is in its mailbox and what it is still to be told. -/
  heard : ∀ p : Part, p ≠ .gearFloor →
    Occurrence.heard p t ++ Message.news (b.world.post.queue p.address) ++
      (if p.address ∈ b.desk.untold then [b.world.mode] else []) = Occurrence.changes t
  flag : (Occurrence.changes t).getLastD first = b.world.mode
  moves : (first :: Occurrence.changes t).IsChain (· ≠ ·)

variable {first : Mode}

lemma untold_of_idle (idle : a.Idle) : a.desk.untold = [] := by
  obtain ⟨r, finished⟩ := idle
  rw [finished]
  rfl

/-- Whatever changes neither the flag nor the news in the mailboxes keeps the account. -/
lemma Agreed.of_news (h : Agreed first t a) (quiet : ∀ p, Occurrence.heard p l = [])
    (still : Occurrence.changes l = []) (mode : b.world.mode = a.world.mode)
    (untold : b.desk.untold = a.desk.untold)
    (news : ∀ p : Part, Message.news (b.world.post.queue p.address) =
      Message.news (a.world.post.queue p.address)) : Agreed first (t ++ l) b := by
  constructor
  · intro p other
    rw [Occurrence.heard_append, quiet, List.append_nil, Occurrence.changes_append, still,
      List.append_nil, mode, untold, news]
    exact h.heard p other
  · rw [Occurrence.changes_append, still, List.append_nil, mode]
    exact h.flag
  · rw [Occurrence.changes_append, still, List.append_nil]
    exact h.moves

lemma news_of_errands {v w : World} (h : v.Errands w) (box : Address) :
    Message.news (w.post.queue box) = Message.news (v.post.queue box) := by
  obtain ⟨ms, grown, errand⟩ := h.grown box
  rw [grown, Message.news_append, Message.news_eq_nil fun m hm => (errand m hm).mode?_eq_none,
    List.append_nil]

/-- A part that takes the news of a mode moves it from its mailbox to what it has heard. -/
lemma agreed_of_part {q : Part} {s : Stage (Cycle q.Job) Empty (Runner q.State)}
    (h : Agreed first t a) (sound : a.Sound) (step : q.routine.Step (a.stage q) l s) :
    Agreed first (t ++ l) (a.setStage q s) := by
  obtain ⟨ds, boxes, rfl, cycled⟩ := Part.step_cases step
  have mode : s.2.2.mode = a.world.mode := Part.mode_of_step cycled (sound.parts q)
  constructor
  · intro p other
    have account := Part.news_of_step other cycled (sound.parts q)
    have before := h.heard p other
    rw [Occurrence.heard_append, Occurrence.changes_append, Occurrence.changes_did, List.append_nil,
      ← before]
    simp only [setStage, mode]
    congr 1
    rw [List.append_assoc]
    congr 1
    by_cases same : q = p
    · subst same
      rw [if_pos rfl] at account
      rw [Occurrence.heard_did_self]
      exact account.symm
    · rw [if_neg same] at account
      rw [Occurrence.heard_did_of_ne _ _ _ _ same]
      exact account.symm
  · rw [Occurrence.changes_append, Occurrence.changes_did, List.append_nil]
    exact h.flag.trans mode.symm
  · rw [Occurrence.changes_append, Occurrence.changes_did, List.append_nil]
    exact h.moves

/-- A new mode is still to be told to everybody. -/
lemma agreed_of_change (h : Agreed first t a) (idle : a.Idle) (new : a.world.mode ≠ m) :
    Agreed first (t ++ [.changed m]) (a.change m) := by
  have changes : Occurrence.changes (t ++ [.changed m]) = Occurrence.changes t ++ [m] := by
    rw [Occurrence.changes_append]
    rfl
  constructor
  · intro p other
    have everybody : p.address ∈ (a.change m).desk.untold := by
      rw [desk_change_of_ne new]
      exact Address.mem_tasks.2 p.address_ne_autoParser
    have before := h.heard p other
    rw [untold_of_idle idle, if_neg List.not_mem_nil, List.append_nil] at before
    rw [Occurrence.heard_append, changes, if_pos everybody, post_change, mode_change, ← before]
    simp [Occurrence.heard, Occurrence.deeds, Deed.taken]
  · rw [changes, mode_change, List.getLastD_concat]
  · rw [changes, ← List.cons_append, List.isChain_append]
    refine ⟨h.moves, List.isChain_singleton m, fun x hx y hy => ?_⟩
    rw [List.getLast?_cons, ← List.getLastD_eq_getLast?, h.flag] at hx
    cases hx
    cases hy
    exact new

/-- A task that is told has the news in its mailbox. -/
lemma agreed_of_tell {desk : Progress Broadcast Bool} {d : Dispatcher} {w : World}
    (h : Agreed first t a) (sound : a.Sound)
    (step : Broadcast.routine.Step (a.desk, a.dispatcher, a.world) l (desk, d, w)) :
    Agreed first (t ++ l) { a with desk := desk, dispatcher := d, world := w } := by
  obtain ⟨told, telling⟩ := sound.telling step
  obtain ⟨-, ⟨rfl, untold, -, kept⟩ | ⟨x, rfl, untold, next, posted⟩⟩ := telling.step_cases step
  · exact h.of_news (fun p => rfl) rfl kept.mode untold fun p => by
      rw [kept.same p.address nofun]
  · obtain ⟨grown, others⟩ := World.queue_of_post? posted
    have mode := (World.untouched_post? posted).2
    have changes : Occurrence.changes (t ++ [.told x { command := .state a.world.mode }]) =
        Occurrence.changes t := by
      rw [Occurrence.changes_append]
      exact List.append_nil _
    -- The task that is told was on the list, and it is on it once.
    have once : x ∉ desk.untold := by
      have distinct : Address.tasks.Nodup := by decide
      rw [telling.order, untold, List.nodup_append] at distinct
      exact (List.nodup_cons.1 distinct.2.1).1
    refine ⟨fun p other => ?_, ?_, ?_⟩
    · have before := h.heard p other
      rw [untold] at before
      rw [changes, ← before, Occurrence.heard_append]
      by_cases mine : x = p.address
      · subst mine
        simp [grown, once, Message.news, Message.mode?, Occurrence.heard, Occurrence.deeds,
          Deed.taken]
      · rw [others _ mine]
        simp [mode, Ne.symm mine, Occurrence.heard, Occurrence.deeds, Deed.taken]
    · rw [changes]
      exact h.flag.trans mode.symm
    · rw [changes]
      exact h.moves

/-- Every step keeps the account. -/
lemma agreed_of_step (h : Agreed first t a) (sound : a.Sound) (step : Step a l b) :
    Agreed first (t ++ l) b := by
  cases step with
  | part step => exact agreed_of_part h sound step
  | @change m idle =>
    by_cases same : a.world.mode = m
    · rw [if_pos same, change_of_eq same]
      exact h.of_news (fun p => rfl) rfl rfl (untold_of_idle idle).symm fun p => rfl
    · rw [if_neg same]
      exact agreed_of_change h idle same
  | tell step => exact agreed_of_tell h sound step
  | @sample i idle =>
    have errands := Dispatcher.errands_teleop a.dispatcher i a.world
    exact h.of_news (fun p => rfl) rfl errands.mode rfl fun p => news_of_errands errands _
  | @battery volts idle =>
    have errands := Dispatcher.errands_reportBattery volts a.world
    exact h.of_news (fun p => rfl) rfl errands.mode rfl fun p => news_of_errands errands _
  | around aside sensed =>
    exact h.of_news (fun p => rfl) rfl aside.mode rfl fun p => by rw [aside.post]

lemma agreed_of_run (fresh : a.Fresh) (run : Run a t b) : Agreed a.world.mode t b := by
  induction run with
  | start =>
    refine ⟨fun p other => ?_, rfl, List.isChain_singleton _⟩
    rw [fresh.empty, untold_of_idle fresh.idle]
    rfl
  | step run step ih => exact agreed_of_step ih (sound_of_run fresh.sound run) step

/-- Whenever no change of mode is under way, what a task has heard of and what still waits in its mailbox
are the modes that the flag has moved to, in order; the last of them is where the flag stands, and no
mode is announced that was there already. This holds of every part but the floor intake, which may
throw news away. -/
theorem modes_agree (fresh : a.Fresh) (run : Run a t b) (idle : b.Idle) :
    (∀ p : Part, p ≠ .gearFloor →
      Occurrence.heard p t ++ Message.news (b.world.post.queue p.address) = Occurrence.changes t) ∧
      (Occurrence.changes t).getLastD a.world.mode = b.world.mode ∧
      (a.world.mode :: Occurrence.changes t).IsChain (· ≠ ·) := by
  have agreed := agreed_of_run fresh run
  refine ⟨fun p other => ?_, agreed.flag, agreed.moves⟩
  have account := agreed.heard p other
  rw [untold_of_idle idle, if_neg List.not_mem_nil, List.append_nil] at account
  exact account

/-- The drivetrain has heard of one mode, and the next one is in its mailbox. -/
theorem drivetrain_agrees : ∃ a t b, Fresh a ∧ Run a t b ∧ b.Idle ∧
    Occurrence.heard .drivetrain t = [.teleoperated] ∧
    Occurrence.changes t = [.teleoperated, .disabled] ∧
    Message.news (b.world.post.queue Part.drivetrain.address) = [.disabled] ∧
    b.world.mode = .disabled := by
  have played : ((ready "" {} {}).play ([.change .teleoperated] ++ List.replicate 6 .tell ++
      [.part .drivetrain, .change .disabled] ++ List.replicate 6 .tell)).any (fun x =>
        decide x.2.Idle && Occurrence.heard .drivetrain x.1 == [.teleoperated] &&
          Occurrence.changes x.1 == [.teleoperated, .disabled]) = true := by
    decide +kernel
  obtain ⟨⟨t, b⟩, run, passed⟩ := (Option.any_eq_true _ _).1 played
  simp only [Bool.and_eq_true, decide_eq_true_eq, beq_iff_eq] at passed
  obtain ⟨⟨idle, heard⟩, changes⟩ := passed
  have fresh := fresh_ready "" {} {}
  obtain ⟨accounts, flag, -⟩ := modes_agree fresh (run_of_play run) idle
  have account := accounts .drivetrain (by decide)
  rw [heard, changes] at account
  rw [changes] at flag
  exact ⟨_, t, b, fresh, run_of_play run, idle, heard, changes, List.cons_inj_right _ |>.1 account,
    flag.symm⟩

end Assembly

end MatchRobot
