import MatchRobot.Proofs.Assembly.Basic
import MatchRobot.Proofs.Subsystem.Answers

/-!
# The mailboxes of the robot at work

Who puts messages into which mailbox, and who takes them out. A part takes messages out of its own
mailbox, and the autonomous task out of that of the replies as well; what it posts is never the news of a
mode. The dispatcher posts the news of a mode, one task after the other, and apart from that its
commands are errands, which nobody answers.

`Assembly.Sound` is what every run keeps: each part waits for what fits its place, and a change of mode
that is under way tells the tasks in their order.
-/

namespace MatchRobot

/-! ### The news of a mode -/

namespace Message

/-- The modes that messages are the news of, in order. -/
def news (ms : List Message) : List Mode :=
  ms.filterMap mode?

@[simp] lemma news_append (ms ns : List Message) : news (ms ++ ns) = news ms ++ news ns :=
  List.filterMap_append

lemma Errand.mode?_eq_none {m : Message} {a : Address} (h : m.Errand a) : m.mode? = none := by
  unfold mode?
  split
  · next mode news => exact absurd news (h.news mode)
  · rfl

lemma mode?_of_reply {m : Message} (h : m.command.asReply.isSome) : m.mode? = none := by
  unfold mode?
  split
  · next mode news =>
    rw [news] at h
    cases h
  · rfl

lemma news_eq_nil {ms : List Message} (h : ∀ m ∈ ms, m.mode? = none) : news ms = [] :=
  List.filterMap_eq_nil_iff.2 h

end Message

/-- What was posted to one mailbox was posted. -/
lemma mem_of_mem_postedTo {box : Address} {m : Message} {posts : List (Address × Message)}
    (h : m ∈ postedTo box posts) : (box, m) ∈ posts := by
  obtain ⟨⟨a, n⟩, posted, hn⟩ := List.mem_filterMap.1 h
  simp only [Option.ite_none_right_eq_some, Option.some.injEq] at hn
  obtain ⟨rfl, rfl⟩ := hn
  exact posted

/-! ### Views of what happens -/

namespace Occurrence

section

variable (p : Part) (t l : List Occurrence)

@[simp] lemma deeds_append : deeds p (t ++ l) = deeds p t ++ deeds p l := List.filterMap_append

@[simp] lemma heard_append : heard p (t ++ l) = heard p t ++ heard p l := by
  rw [heard, deeds_append, Deed.taken_append, List.filterMap_append]
  rfl

@[simp] lemma misses_append : misses p (t ++ l) = misses p t ++ misses p l := List.filterMap_append

@[simp] lemma changes_append : changes (t ++ l) = changes t ++ changes l := List.filterMap_append

@[simp] lemma tellings_append : tellings (t ++ l) = tellings t ++ tellings l :=
  List.filterMap_append

end

section

variable (p q : Part) (ds : List Deed) (boxes : List Address)

lemma deeds_did : deeds p (ds.map (did q) ++ boxes.map (missed q)) = if q = p then ds else [] := by
  by_cases h : q = p <;>
    simp [deeds, h, List.filterMap_append, List.filterMap_map, List.filterMap_none]

lemma heard_did_self :
    heard p (ds.map (did p) ++ boxes.map (missed p)) = Message.news (Deed.taken ds) := by
  rw [heard, deeds_did, if_pos rfl]
  rfl

lemma heard_did_of_ne (h : q ≠ p) : heard p (ds.map (did q) ++ boxes.map (missed q)) = [] := by
  rw [heard, deeds_did, if_neg h]
  rfl

lemma misses_did_self : misses p (ds.map (did p) ++ boxes.map (missed p)) = boxes := by
  simp [misses, List.filterMap_map, List.filterMap_none]

@[simp] lemma changes_did : changes (ds.map (did q) ++ boxes.map (missed q)) = [] := by
  simp [changes, List.filterMap_map, List.filterMap_none]

@[simp] lemma tellings_did : tellings (ds.map (did q) ++ boxes.map (missed q)) = [] := by
  simp [tellings, List.filterMap_map, List.filterMap_none]

end

end Occurrence

/-! ### The parts -/

namespace Part

lemma address_inj {p q : Part} : p.address = q.address ↔ p = q := by
  cases p <;> cases q <;> decide

/-- No part owns the mailbox of the replies. -/
lemma address_ne_autoParser (p : Part) : p.address ≠ .autoParser := by
  cases p <;> decide

/-- The only mailbox that a part may empty beside its own is that of the replies. -/
lemma bin_ne_address (p q : Part) : p.bin ≠ some q.address := by
  cases p <;> cases q <;> decide

variable {p : Part} {a b : Stage (Cycle p.Job) Empty (Runner p.State)} {l : List Deed} {wait : Wait}
  {c : Cycle p.Job}

/-- A step of a part is a step of its cycle; noted are its deeds and perhaps a wait that was in vain. -/
lemma step_cases {notes : List Occurrence} (step : p.routine.Step a notes b) :
    ∃ (ds : List Deed) (boxes : List Address), notes = ds.map (.did p) ++ boxes.map (.missed p) ∧
      (Cycle.routine p.State).Step a ds b := by
  cases step with
  | pending looked => exact ⟨[], [], rfl, .pending looked⟩
  | woken looked worked => exact ⟨_, _, rfl, .woken looked worked⟩

/-- A job reads no mailbox but the one that its part may empty. -/
lemma bin_of_fits {job : p.Job} {box : Address} {limit : Option Alarm}
    (fit : p.Fits job (.receive box limit)) : p.bin = some box := by
  cases p with
  | autonomous =>
    rw [Evaluation.Fits.reads fit rfl]
    rfl
  | drivetrain | climber | hopper | gearIntake | gearFloor =>
    have asleep : Asleep job (.receive box limit) := fit
    exact absurd rfl asleep.ne_receive

/-- A part takes nothing out of the mailboxes of the others. -/
lemma taken_elsewhere {box : Address} (own : p.address ≠ box) (bin : p.bin ≠ some box)
    (fit : Cycle.Fits p.address p.Fits c wait) (wake : Wake) : wait.taken box wake = [] := by
  refine Wait.taken_eq_nil (fun limit h => ?_) wake
  subst h
  cases fit with
  | listening => exact own rfl
  | entering fit => exact bin (bin_of_fits fit)
  | handling news fit => exact bin (bin_of_fits fit)

/-- What a job posts is neither a reply nor the news of a mode. -/
lemma sends_of_fits {job : p.Job} {x : Address} {m : Message} (fit : p.Fits job (.send x m)) :
    x ≠ .autoParser ∧ m.mode? = none := by
  cases p with
  | autonomous =>
    have fit : Evaluation.Fits job.line (.send x m) := fit
    generalize job.line = line at fit
    cases fit with
    | posting errand => exact ⟨errand.away, errand.mode?_eq_none⟩
    | asking => exact ⟨nofun, rfl⟩
  | drivetrain | climber | hopper | gearIntake | gearFloor =>
    have asleep : Asleep job (.send x m) := fit
    obtain ⟨alarm, sleeps⟩ := asleep
    cases sleeps

/-- What a part posts is not the news of a mode. -/
lemma mode?_of_posted (fit : Cycle.Fits p.address p.Fits c wait) {wake : Wake}
    {x : Address × Message} (hx : x ∈ wait.posted wake) : x.2.mode? = none := by
  obtain ⟨a, m, rfl, rfl⟩ : ∃ a m, wait = .send a m ∧ x = (a, m) := by
    cases wait with
    | send a m =>
      cases wake with
      | sent => exact ⟨a, m, rfl, List.mem_singleton.1 hx⟩
      | _ => cases hx
    | _ => cases hx
  cases fit with
  | entering fit => exact (sends_of_fits fit).2
  | handling news fit => exact (sends_of_fits fit).2
  | replying reply => exact Message.mode?_of_reply reply

/-- A step of a part leaves the mode flag alone. -/
lemma mode_of_step (step : (Cycle.routine p.State).Step a l b)
    (fit : ∀ wait c, a.1 = .waiting wait c → Cycle.Fits p.address p.Fits c wait) :
    b.2.2.mode = a.2.2.mode := by
  cases step with
  | pending looked => exact (World.rearmed_of_poll looked).2.mode
  | woken looked worked =>
    have woken := (World.ended_of_poll looked).mode
    rcases (Cycle.runOn_next p.modest (fit _ _ rfl) worked).1 with kept | ⟨-, kept⟩
    · exact kept.mode.trans woken
    · exact kept.mode.trans woken

/-- A part that is not the floor intake throws nothing away. -/
lemma dropped_eq_nil (other : p ≠ gearFloor) (step : (Cycle.routine p.State).Step a l b)
    (fit : ∀ wait c, a.1 = .waiting wait c → Cycle.Fits p.address p.Fits c wait) :
    Deed.dropped l = [] := by
  have never : ∀ c : Cycle p.Job, ¬ Cycle.Sweeping p.Sweeps c := by
    intro c sweeping
    cases p with
    | gearFloor => exact other rfl
    | drivetrain | autonomous | climber | hopper | gearIntake => cases c <;> exact sweeping
  cases step with
  | pending looked => rfl
  | woken looked worked =>
    rw [Cycle.routine, Cycle.dropped_deeds]
    exact (Cycle.queue_of_runOn p.modest (fit _ _ rfl) worked).2 (never _)

/-- To the mailbox of somebody else a part may post, and that is all. -/
lemma queue_elsewhere {box : Address} (own : p.address ≠ box) (bin : p.bin ≠ some box)
    (step : (Cycle.routine p.State).Step a l b)
    (fit : ∀ wait c, a.1 = .waiting wait c → Cycle.Fits p.address p.Fits c wait) :
    a.2.2.post.queue box ++ postedTo box (Deed.posts l) = b.2.2.post.queue box := by
  cases step with
  | pending looked =>
    have same := (World.rearmed_of_poll looked).2.same box nofun
    exact (List.append_nil _).trans same.symm
  | @woken wait wake c r v u _ looked worked =>
    have fit := fit _ _ rfl
    have ended := (World.ended_of_poll looked).queue box
    rw [taken_elsewhere own bin fit, List.nil_append] at ended
    have same : b.2.2.post.queue box = u.post.queue box := by
      rcases (Cycle.runOn_next p.modest fit worked).1 with kept | ⟨-, kept⟩
      · exact kept.same box bin
      · exact kept.same box fun h => own (Option.some.inj h)
    rw [Cycle.routine, Cycle.posts_deeds, same]
    exact ended

/-- In the mailboxes of the parts, the news of modes stays until the owner takes it. -/
lemma news_of_step {q : Part} (other : q ≠ gearFloor) (step : (Cycle.routine p.State).Step a l b)
    (fit : ∀ wait c, a.1 = .waiting wait c → Cycle.Fits p.address p.Fits c wait) :
    Message.news (a.2.2.post.queue q.address) =
      Message.news (if p = q then Deed.taken l else []) ++
        Message.news (b.2.2.post.queue q.address) := by
  have plain : Message.news (postedTo q.address (Deed.posts l)) = [] := by
    refine Message.news_eq_nil fun m hm => ?_
    have posted := mem_of_mem_postedTo hm
    cases step with
    | pending looked => cases posted
    | woken looked worked =>
      rw [Cycle.routine, Cycle.posts_deeds] at posted
      exact mode?_of_posted (fit _ _ rfl) posted
  by_cases h : p = q
  · subst h
    have account : a.2.2.post.queue p.address ++ postedTo p.address (Deed.posts l) =
        Deed.taken l ++ Deed.dropped l ++ b.2.2.post.queue p.address :=
      Cycle.queue_of_step p.modest step fit
    rw [dropped_eq_nil other step fit, List.append_nil] at account
    rw [if_pos rfl, ← Message.news_append, ← account, Message.news_append, plain, List.append_nil]
  · have account := queue_elsewhere (fun same => h (address_inj.1 same)) (bin_ne_address p q) step fit
    rw [if_neg h, ← account, Message.news_append, plain, List.append_nil]
    exact (List.nil_append _).symm

end Part

/-! ### What the dispatcher gives out -/

/-- Between two worlds the mailboxes got some errands, and the mode flag did not move. -/
structure World.Errands (v w : World) : Prop where
  mode : w.mode = v.mode
  grown : ∀ box, ∃ ms, w.post.queue box = v.post.queue box ++ ms ∧ ∀ m ∈ ms, m.Errand box

namespace World

variable {u v w : World}

lemma errands_of_eq (mode : w.mode = v.mode) (post : w.post = v.post) : Errands v w :=
  ⟨mode, fun box => ⟨[], by rw [post, List.append_nil], by simp⟩⟩

lemma Errands.trans (h : Errands u v) (k : Errands v w) : Errands u w := by
  refine ⟨k.mode.trans h.mode, fun box => ?_⟩
  obtain ⟨ms, first, errand⟩ := h.grown box
  obtain ⟨ns, second, errand'⟩ := k.grown box
  refine ⟨ms ++ ns, by rw [second, first, List.append_assoc], fun m hm => ?_⟩
  rcases List.mem_append.1 hm with hm | hm
  · exact errand m hm
  · exact errand' m hm

lemma errands_offer {a : Address} {m : Message} (h : m.Errand a) (w : World) :
    Errands w (w.offer a m).2 := by
  unfold offer
  split
  · next v posted =>
    obtain ⟨grown, others⟩ := queue_of_post? posted
    refine ⟨(untouched_post? posted).2, fun box => ?_⟩
    by_cases hbox : a = box
    · subst hbox
      exact ⟨[m], grown, by simpa using h⟩
    · exact ⟨[], by rw [others box hbox, List.append_nil], by simp⟩
  · exact errands_of_eq rfl rfl

end World

namespace Dispatcher

variable {α : Type} {a : Address} {wrap : α → Command}

lemma errands_post {c : Command} (h : Message.Errand { command := c } a) (posted : Nat) (w : World) :
    w.Errands (post a c posted w).2.2 :=
  World.errands_offer h w

lemma errands_postAction (h : ∀ c, Message.Errand { command := wrap c } a) (action : Option α)
    (posted : Nat) (w : World) : w.Errands (postAction a wrap action posted w).2 := by
  cases action with
  | none => exact World.errands_of_eq rfl rfl
  | some c => exact errands_post (h c) posted w

lemma errands_postLever [BEq α] (h : ∀ c, Message.Errand { command := wrap c } a) (asked last : α)
    (posted : Nat) (w : World) : w.Errands (postLever a wrap asked last posted w).2.2 := by
  unfold postLever
  split
  · exact World.errands_of_eq rfl rfl
  · exact errands_post (h asked) posted w

lemma errands_postAll (d : Dispatcher) (before i : DriverInput) (w : World) :
    w.Errands (d.postAll before i w).2.2 := by
  unfold postAll
  refine (errands_post ?_ _ _).trans ((errands_postAction ?_ _ _ _).trans
    ((errands_postLever ?_ _ _ _ _).trans ((errands_postAction ?_ _ _ _).trans
      ((errands_postLever ?_ _ _ _ _).trans (errands_postLever ?_ _ _ _ _)))))
  · exact ⟨nofun, rfl, rfl, nofun⟩
  all_goals exact fun c => ⟨nofun, rfl, rfl, nofun⟩

lemma errands_pauseButton (before i : DriverInput) (w : World) :
    w.Errands (pauseButton before i w) := by
  have toggled : w.Errands w.togglePause := by
    unfold World.togglePause
    split <;> exact World.errands_of_eq rfl rfl
  unfold pauseButton
  split
  · exact toggled.trans (World.errands_of_eq rfl rfl)
  · exact World.errands_of_eq rfl rfl

/-- The commands of a sample are errands. -/
lemma errands_teleop (d : Dispatcher) (i : DriverInput) (w : World) :
    w.Errands (d.teleop i w).2.2 := by
  have paused := errands_pauseButton d.previous i w
  unfold teleop
  simp only
  split
  · exact paused.trans (errands_postAll _ _ _ _)
  · exact paused

/-- So is the report of the battery voltage. -/
lemma errands_reportBattery (volts : Float32) (w : World) :
    w.Errands (reportBattery volts w).2 := by
  have reported : w.Errands (w.tell (.number "Battery Voltage" volts)) := World.errands_of_eq rfl rfl
  refine reported.trans (World.errands_offer ?_ _)
  exact ⟨nofun, rfl, rfl, nofun⟩

end Dispatcher

/-! ### The change of a mode -/

/-- Where the change to a mode stands that has told the given tasks. -/
inductive Telling (m : Mode) : List Address → Progress Broadcast Bool → Prop
  | waiting {told rest : List Address} {x : Address} (order : Address.tasks = told ++ x :: rest) :
      Telling m told (.waiting (.send x { command := .state m }) ⟨.state m, rest⟩)
  | finished {new : Bool} : Telling m Address.tasks (.finished new)

/-- The tasks that a change of mode has still to tell. -/
def Progress.untold {α : Type} : Progress Broadcast α → List Address
  | .waiting (.send x _) b => x :: b.rest
  | _ => []

namespace Telling

variable {m : Mode} {told rest : List Address} {desk desk' : Progress Broadcast Bool}
  {d d' : Dispatcher} {v w : World} {l : List Occurrence}

lemma start (order : Address.tasks = told ++ rest) :
    Telling m told (Broadcast.start (.state m) true rest) := by
  cases rest with
  | nil =>
    rw [List.append_nil] at order
    rw [← order]
    exact .finished
  | cons x rest => exact .waiting order

/-- The tasks are told in their order. -/
lemma order (h : Telling m told desk) : Address.tasks = told ++ desk.untold := by
  cases h with
  | waiting order => exact order
  | finished => rfl

/-- A look at a change of mode tells the next task, if its mailbox has room, and nothing else. -/
lemma step_cases (h : Telling m told desk)
    (step : Broadcast.routine.Step (desk, d, v) l (desk', d', w)) :
    d' = d ∧ (l = [] ∧ desk'.untold = desk.untold ∧ Telling m told desk' ∧ World.Kept none v w ∨
      ∃ x, l = [.told x { command := .state m }] ∧ desk.untold = x :: desk'.untold ∧
        Telling m (told ++ [x]) desk' ∧ v.post? x { command := .state m } = some w) := by
  cases step with
  | pending looked =>
    obtain ⟨rearmed, kept⟩ := World.rearmed_of_poll looked
    cases h with
    | waiting order =>
      cases rearmed
      exact ⟨rfl, .inl ⟨rfl, rfl, .waiting order, kept⟩⟩
  | woken looked worked =>
    have ended := World.ended_of_poll looked
    cases h with
    | @waiting _ rest x order =>
      cases ended with
      | sent posted =>
        cases worked
        have next : Telling m (told ++ [x]) (Broadcast.start (.state m) true rest) :=
          start (by rw [order, List.append_assoc]; rfl)
        refine ⟨rfl, .inr ⟨x, rfl, ?_, next, posted⟩⟩
        have left := next.order
        rw [order, List.append_assoc] at left
        exact List.append_cancel_left left

end Telling

/-! ### Everybody -/

namespace Assembly

variable {a b : Assembly} {l t : List Occurrence}

lemma change_of_eq {m : Mode} (h : a.world.mode = m) :
    a.change m = { a with desk := .finished false } := by
  simp [change, Dispatcher.changeState, Dispatcher.changeMode, h]

lemma desk_change_of_ne {m : Mode} (h : a.world.mode ≠ m) :
    (a.change m).desk = Broadcast.start (.state m) true Address.tasks := by
  simp [change, Dispatcher.changeState, Dispatcher.changeMode, h]

@[simp] lemma mode_change (a : Assembly) (m : Mode) : (a.change m).world.mode = m := by
  by_cases h : a.world.mode = m
  · rw [change_of_eq h]
    exact h
  · simp [change, Dispatcher.changeState, Dispatcher.changeMode, h]

@[simp] lemma post_change (a : Assembly) (m : Mode) : (a.change m).world.post = a.world.post := by
  by_cases h : a.world.mode = m
  · rw [change_of_eq h]
  · simp [change, Dispatcher.changeState, Dispatcher.changeMode, World.notice, h]

/-- What every run keeps: each part waits for what fits its place, and a change of mode that is under way
is one to the mode that the flag shows. -/
structure Sound (a : Assembly) : Prop where
  parts : ∀ (p : Part) wait c, (a.parts p).1 = .waiting wait c → Cycle.Fits p.address p.Fits c wait
  desk : a.Idle ∨ ∃ told, Telling a.world.mode told a.desk

lemma Fresh.sound (fresh : a.Fresh) : a.Sound where
  parts := by
    intro p wait c h
    obtain ⟨limit, listening⟩ := fresh.listening p
    cases listening.symm.trans h
    exact .listening
  desk := .inl fresh.idle

/-- Whoever goes on to tell the tasks does so in a change of mode that is under way. -/
lemma Sound.telling (sound : a.Sound) {s : Stage Broadcast Bool Dispatcher}
    (step : Broadcast.routine.Step (a.desk, a.dispatcher, a.world) l s) :
    ∃ told, Telling a.world.mode told a.desk := by
  rcases sound.desk with ⟨r, idle⟩ | telling
  · rw [idle] at step
    cases step
  · exact telling

lemma sound_of_step (sound : a.Sound) (step : Step a l b) : b.Sound := by
  cases step with
  | @part p l s step =>
    obtain ⟨ds, boxes, -, step⟩ := Part.step_cases step
    refine ⟨fun q wait c h => ?_, ?_⟩
    · by_cases same : q = p
      · subst same
        simp only [setStage, Function.update_self] at h
        exact Cycle.fits_of_step q.modest step (sound.parts q) wait c h
      · simp only [setStage, Function.update_of_ne same] at h
        exact sound.parts q wait c h
    · have mode : s.2.2.mode = a.world.mode := Part.mode_of_step step (sound.parts p)
      rw [setStage, Idle]
      simp only [mode]
      exact sound.desk
  | @change m idle =>
    refine ⟨sound.parts, ?_⟩
    by_cases same : a.world.mode = m
    · rw [change_of_eq same]
      exact .inl ⟨false, rfl⟩
    · rw [mode_change, desk_change_of_ne same]
      exact .inr ⟨[], Telling.start rfl⟩
  | @tell l desk d w step =>
    refine ⟨sound.parts, ?_⟩
    obtain ⟨told, telling⟩ := sound.telling step
    rcases (telling.step_cases step).2 with ⟨-, -, next, kept⟩ | ⟨x, -, -, next, posted⟩
    · exact .inr ⟨told, by rw [kept.mode]; exact next⟩
    · exact .inr ⟨told ++ [x], by rw [(World.untouched_post? posted).2]; exact next⟩
  | sample idle => exact ⟨sound.parts, .inl idle⟩
  | battery idle => exact ⟨sound.parts, .inl idle⟩
  | around aside sensed =>
    refine ⟨sound.parts, ?_⟩
    rw [Idle]
    simp only [aside.mode]
    exact sound.desk

lemma sound_of_run (sound : a.Sound) (run : Run a t b) : b.Sound := by
  induction run with
  | start => exact sound
  | step run step ih => exact sound_of_step ih step

end Assembly

end MatchRobot
