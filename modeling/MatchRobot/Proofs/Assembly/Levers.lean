import MatchRobot.Proofs.Autonomy.Statements
import MatchRobot.Proofs.Subsystem.Levers
import MatchRobot.Proofs.Assembly.Modes

/-!
# Released levers

The dispatcher posts what a lever asks for when that changes, and remembers what it posted last. A change
of mode makes it forget that, because every task that is told of the mode is to stop. Nobody else posts a
message that sets the motors of a lever going (`Part.gentle_of_step`).

So when a lever is remembered as released, its mailbox is empty and its part is between two messages, the
motors of the lever stand still (`Assembly.released_lever_rests`), except that a change of mode may be
under way that has not told the part yet (`Assembly.released_levers_run`), and that the roller may be
lost.
-/

namespace MatchRobot

namespace Lever

variable {l : Lever} {ms : List Message}

/-! ### Messages that leave the mailbox -/

/-- Whether the motors of a lever are to stand still after some messages. -/
def stillAfter (l : Lever) (still : Bool) (ms : List Message) : Bool :=
  ms.foldl (fun still m => (l.still? m.command).getD still) still

lemma stillAfter_append (l : Lever) (still : Bool) (ms ns : List Message) :
    l.stillAfter still (ms ++ ns) = l.stillAfter (l.stillAfter still ms) ns :=
  List.foldl_append

/-- Messages that do not set the motors going leave them at rest. -/
lemma stillAfter_of_gentle (gentle : ∀ m ∈ ms, l.still? m.command ≠ some false) :
    l.stillAfter true ms = true := by
  induction ms with
  | nil => rfl
  | cons m ms ih =>
    have first : (l.still? m.command).getD true = true := by
      have runs := gentle m (List.mem_cons_self ..)
      cases said : l.still? m.command with
      | none => rfl
      | some b =>
        cases b with
        | true => rfl
        | false => exact absurd said runs
    change l.stillAfter ((l.still? m.command).getD true) ms = true
    rw [first]
    exact ih fun x hx => gentle x (List.mem_cons_of_mem _ hx)

end Lever

/-- The message that a deed takes out of the mailbox. -/
def Deed.leaves? : Deed → Option Message
  | took m | swept m => some m
  | _ => none

namespace Lever

variable {l : Lever}

/-- What is noted of the motors of a lever depends on the messages that have left the mailbox. -/
lemma still_foldl_note (l : Lever) (ds : List Deed) (n : Notes) :
    (ds.foldl l.note n).still = l.stillAfter n.still (ds.filterMap Deed.leaves?) := by
  induction ds generalizing n with
  | nil => rfl
  | cons d ds ih =>
    rw [List.foldl_cons, ih]
    cases d with
    | took m | swept m => rfl
    | settled m v =>
      have same : (l.note n (.settled m v)).still = n.still := by
        cases v with
        | refused => rfl
        | handled reply =>
          rw [note]
          split <;> rfl
      rw [same]
      rfl
    | posted a m => rfl

lemma leaves_of_step {p : Part} {a b : Stage (Cycle p.Job) Empty (Runner p.State)} {ds : List Deed}
    (step : (Cycle.routine p.State).Step a ds b) :
    ds.filterMap Deed.leaves? = Deed.taken ds ++ Deed.dropped ds := by
  cases step with
  | pending => rfl
  | woken looked worked =>
    rw [Cycle.routine, Cycle.taken_deeds, Cycle.dropped_deeds]
    simp [Cycle.deeds, Deed.leaves?, List.filterMap_map, Function.comp_def, List.filterMap_none]

end Lever

/-! ### Who sets the motors going -/

/-- A reply says nothing of a lever. -/
lemma Lever.still?_of_reply {c : Command} (l : Lever) (h : c.asReply.isSome) : l.still? c = none := by
  cases c with
  | auto k => cases l <;> rfl
  | _ => cases h

/-- No statement of a script sets the motors of a lever going for good. -/
lemma Outline.Stated.gentle {o : Outline} (h : o.Stated) (l : Lever) :
    l.still? o.command ≠ some false := by
  obtain ⟨config, s, h⟩ := h
  cases s <;> simp only [Statement.outlines, List.mem_singleton, List.not_mem_nil] at h <;>
    subst h <;> cases l <;> nofun

namespace Part

variable {p : Part} {a b : Stage (Cycle p.Job) Empty (Runner p.State)} {ds : List Deed}

/-- What the jobs of a part wait for, and a script for nothing but what statements post. -/
def StatedFits : (p : Part) → p.Job → Wait → Prop
  | autonomous => fun r : Run => r.line.Stated
  | drivetrain | climber | hopper | gearIntake | gearFloor => Asleep

lemma modest_stated (p : Part) : Subsystem.Modest p.State p.StatedFits p.bin p.Sweeps := by
  cases p with
  | autonomous => exact Autonomous.modest_stated
  | drivetrain => exact Drivetrain.modest
  | climber => exact Climber.modest
  | hopper => exact Hopper.modest
  | gearIntake => exact GearIntake.modest
  | gearFloor => exact FloorIntake.modest

lemma gentle_of_fits {job : p.Job} {x : Address} {m : Message} (fit : p.StatedFits job (.send x m))
    (l : Lever) : l.still? m.command ≠ some false := by
  cases p with
  | autonomous =>
    have stated : Evaluation.Stated job.line (.send x m) := fit
    exact (stated.posts x m rfl).gentle l
  | drivetrain | climber | hopper | gearIntake | gearFloor =>
    have asleep : Asleep job (.send x m) := fit
    obtain ⟨alarm, sleeps⟩ := asleep
    cases sleeps

/-- No part sets the motors of a lever going by what it posts. -/
lemma gentle_of_step (step : (Cycle.routine p.State).Step a ds b)
    (fit : ∀ wait c, a.1 = .waiting wait c → Cycle.Fits p.address p.StatedFits c wait) (l : Lever)
    {x : Address × Message} (hx : x ∈ Deed.posts ds) : l.still? x.2.command ≠ some false := by
  cases step with
  | pending => cases hx
  | @woken wait wake c r v u _ looked worked =>
    rw [Cycle.routine, Cycle.posts_deeds] at hx
    cases World.ended_of_poll looked with
    | sent posted =>
      obtain rfl := List.mem_singleton.1 hx
      cases fit _ _ rfl with
      | entering fit => exact gentle_of_fits fit l
      | handling news fit => exact gentle_of_fits fit l
      | replying reply =>
        simp [l.still?_of_reply reply]
    | _ => cases hx

/-- What a step of a part leaves in a mailbox: messages have left it at the front, if it is that of the
part, and messages that set no motors going have been added. -/
lemma queue_of_step {q : Part} (step : (Cycle.routine p.State).Step a ds b)
    (fit : ∀ wait c, a.1 = .waiting wait c → Cycle.Fits p.address p.Fits c wait)
    (stated : ∀ wait c, a.1 = .waiting wait c → Cycle.Fits p.address p.StatedFits c wait)
    (l : Lever) :
    ∃ ms, (∀ m ∈ ms, l.still? m.command ≠ some false) ∧
      a.2.2.post.queue q.address ++ ms =
        (if p = q then ds.filterMap Deed.leaves? else []) ++ b.2.2.post.queue q.address := by
  refine ⟨postedTo q.address (Deed.posts ds), fun m hm => ?_, ?_⟩
  · exact gentle_of_step step stated l (mem_of_mem_postedTo hm)
  · by_cases same : p = q
    · subst same
      rw [if_pos rfl, Lever.leaves_of_step step]
      exact Cycle.queue_of_step p.modest step fit
    · rw [if_neg same]
      exact queue_elsewhere (fun h => same (address_inj.1 h)) (bin_ne_address p q) step fit

end Part

/-! ### The dispatcher -/

/-- Offering a message adds it to the mailbox, if that has room. -/
lemma World.offer_cases (w : World) (a : Address) (m : Message) :
    ((w.offer a m).1 = false ∧ (w.offer a m).2.post = w.post) ∨
      (w.offer a m).1 = true ∧
        (w.offer a m).2.post.queue a = w.post.queue a ++ [m] ∧
        ∀ box, a ≠ box → (w.offer a m).2.post.queue box = w.post.queue box := by
  unfold World.offer
  split
  · next posted =>
    obtain ⟨grown, others⟩ := World.queue_of_post? posted
    exact .inr ⟨rfl, grown, others⟩
  · exact .inl ⟨rfl, rfl⟩

namespace Lever

/-- The dispatcher remembers that a lever is released. -/
def Released (l : Lever) (d : Dispatcher) : Prop :=
  match l with
  | climber => d.climber = .stop
  | hopper => d.hopper = .stop
  | roller => d.roller = .stop

instance (l : Lever) (d : Dispatcher) : Decidable (l.Released d) :=
  match l with
  | climber => decidable_of_iff (d.climber matches .stop) (by rw [Released]; cases d.climber <;> simp)
  | hopper => decidable_of_iff (d.hopper matches .stop) (by rw [Released]; cases d.hopper <;> simp)
  | roller => decidable_of_iff (d.roller matches .stop) (by rw [Released]; cases d.roller <;> simp)

/-- Between two worlds the mailbox of the part of a lever has got messages after which its motors are to
stand still if the second condition holds, provided that they were to do so if the first did. -/
def Works (l : Lever) (before after : Prop) (v w : World) : Prop :=
  ∃ ms, w.post.queue l.part.address = v.post.queue l.part.address ++ ms ∧
    ∀ still, (before → still = true) → after → l.stillAfter still ms = true

variable {l : Lever} {P Q R : Prop} {u v w : World}

lemma works_of_post (h : w.post = v.post) : l.Works P P v w :=
  ⟨[], by rw [h, List.append_nil], fun _ still => still⟩

lemma Works.trans (h : l.Works P Q u v) (k : l.Works Q R v w) : l.Works P R u w := by
  obtain ⟨ms, first, before⟩ := h
  obtain ⟨ns, second, after⟩ := k
  refine ⟨ms ++ ns, by rw [second, first, List.append_assoc], fun still hp hr => ?_⟩
  rw [stillAfter_append]
  exact after _ (before still hp) hr

/-- A message that does not set the motors going changes nothing. -/
lemma works_offer {m : Message} (gentle : l.still? m.command ≠ some false) (a : Address) (w : World) :
    l.Works P P w (w.offer a m).2 := by
  rcases w.offer_cases a m with ⟨-, same⟩ | ⟨-, grown, others⟩
  · exact works_of_post same
  · by_cases own : a = l.part.address
    · subst own
      refine ⟨[m], grown, fun still hp p => ?_⟩
      rw [hp p]
      exact stillAfter_of_gentle (by simpa using gentle)
    · exact ⟨[], by rw [others _ own, List.append_nil], fun _ still => still⟩

lemma works_postAction {α : Type} {wrap : α → Command} {action : Option α}
    (gentle : ∀ c, action = some c → l.still? (wrap c) ≠ some false) (a : Address) (n : Nat)
    (w : World) : l.Works P P w (Dispatcher.postAction a wrap action n w).2 := by
  cases action with
  | none => exact works_of_post rfl
  | some c => exact works_offer (gentle c rfl) a w

/-- The lever of another part. -/
lemma works_postLever {α : Type} [BEq α] {wrap : α → Command}
    (silent : ∀ c, l.still? (wrap c) = none) (a : Address) (asked last : α) (n : Nat) (w : World) :
    l.Works P P w (Dispatcher.postLever a wrap asked last n w).2.2 := by
  unfold Dispatcher.postLever
  split
  · exact works_of_post rfl
  · refine works_offer ?_ a w
    rw [silent]
    nofun

/-- Working its own lever, the dispatcher remembers a stop only if that has been posted last. -/
lemma works_own {α : Type} [BEq α] {wrap : α → Command} {stop : α}
    (stops : l.still? (wrap stop) = some true) (asked last : α) (n : Nat) (w : World) :
    l.Works (last = stop) ((Dispatcher.postLever l.part.address wrap asked last n w).1 = stop) w
      (Dispatcher.postLever l.part.address wrap asked last n w).2.2 := by
  unfold Dispatcher.postLever Dispatcher.post
  split
  · exact works_of_post rfl
  · rcases w.offer_cases l.part.address { command := wrap asked } with
      ⟨full, same⟩ | ⟨sent, grown, -⟩
    · simp only [full, Bool.false_eq_true, if_false]
      exact works_of_post same
    · simp only [sent, if_true]
      refine ⟨_, grown, ?_⟩
      rintro still - rfl
      simp [stillAfter, stops]

/-- A sample never takes the arm to a command for the roller. -/
lemma armAction_gentle (before i : DriverInput) {c : FloorCommand}
    (h : Dispatcher.armAction before i = some c) : l.still? (.floor c) ≠ some false := by
  unfold Dispatcher.armAction at h
  split at h
  · cases h
    cases l <;> nofun
  · split at h
    · cases h
      cases l <;> nofun
    · split at h
      · cases h
        cases l <;> nofun
      · cases h

/-- The arm is moved, whatever the sample says of it. -/
lemma works_arm (before i : DriverInput) (n : Nat) (w : World) : l.Works P P w
    (Dispatcher.postAction .gearFloor .floor (Dispatcher.armAction before i) n w).2 :=
  works_postAction (fun _ => armAction_gentle before i) _ n w

lemma works_postAll (l : Lever) (d : Dispatcher) (before i : DriverInput) (w : World) :
    l.Works (l.Released d) (l.Released (d.postAll before i w).2.1) w (d.postAll before i w).2.2 := by
  unfold Dispatcher.postAll
  -- The posts go to the drivetrain, the arm, the roller, the gripper, the climber and the hopper.
  cases l with
  | climber =>
    exact (works_offer (by nofun) _ _).trans ((works_arm _ _ _ _).trans
      ((works_postLever (fun _ => rfl) _ _ _ _ _).trans
        ((works_postAction (fun _ _ => by nofun) _ _ _).trans
          ((works_own rfl _ _ _ _).trans (works_postLever (fun _ => rfl) _ _ _ _ _)))))
  | hopper =>
    exact (works_offer (by nofun) _ _).trans ((works_arm _ _ _ _).trans
      ((works_postLever (fun _ => rfl) _ _ _ _ _).trans
        ((works_postAction (fun _ _ => by nofun) _ _ _).trans
          ((works_postLever (fun _ => rfl) _ _ _ _ _).trans (works_own rfl _ _ _ _)))))
  | roller =>
    exact (works_offer (by nofun) _ _).trans ((works_arm _ _ _ _).trans
      ((works_own rfl _ _ _ _).trans
        ((works_postAction (fun _ _ => by nofun) _ _ _).trans
          ((works_postLever (fun _ => rfl) _ _ _ _ _).trans
            (works_postLever (fun _ => rfl) _ _ _ _ _)))))

lemma post_pauseButton (before i : DriverInput) (w : World) :
    (Dispatcher.pauseButton before i w).post = w.post := by
  unfold Dispatcher.pauseButton World.togglePause
  split
  · split <;> rfl
  · rfl

/-- A sample works every lever as it is remembered. -/
lemma works_teleop (l : Lever) (d : Dispatcher) (i : DriverInput) (w : World) :
    l.Works (l.Released d) (l.Released (d.teleop i w).2.1) w (d.teleop i w).2.2 := by
  have same : l.Released { d with previous := i } = l.Released d := by
    cases l <;> rfl
  have paused : l.Works (l.Released d) (l.Released { d with previous := i }) w
      (Dispatcher.pauseButton d.previous i w) := by
    rw [same]
    exact works_of_post (post_pauseButton _ _ _)
  unfold Dispatcher.teleop
  simp only
  split
  · exact paused.trans (works_postAll l _ _ _ _)
  · exact paused

/-- A report of the battery is no command to a lever. -/
lemma works_reportBattery (l : Lever) (volts : Float32) (w : World) :
    l.Works P P w (Dispatcher.reportBattery volts w).2 := by
  have told : l.Works P P w (w.tell (.number "Battery Voltage" volts)) := works_of_post rfl
  refine told.trans (works_offer ?_ _ _)
  cases l <;> nofun

end Lever

/-! ### The robot -/

namespace Assembly

variable {l : Lever} {a b : Assembly} {t ls : List Occurrence}

/-- What the autonomous task waits to post is what statements post. -/
def Stated (a : Assembly) : Prop :=
  ∀ (p : Part) wait c, (a.parts p).1 = .waiting wait c → Cycle.Fits p.address p.StatedFits c wait

lemma Fresh.stated (fresh : a.Fresh) : a.Stated := by
  intro p wait c h
  obtain ⟨limit, listening⟩ := fresh.listening p
  cases listening.symm.trans h
  exact .listening

lemma stated_of_step (stated : a.Stated) (step : Step a ls b) : b.Stated := by
  cases step with
  | @part p notes s step =>
    obtain ⟨ds, boxes, -, step⟩ := Part.step_cases step
    intro q wait c h
    by_cases same : q = p
    · subst same
      simp only [setStage, Function.update_self] at h
      exact Cycle.fits_of_step q.modest_stated step (stated q) wait c h
    · simp only [setStage, Function.update_of_ne same] at h
      exact stated q wait c h
  | change => exact stated
  | tell => exact stated
  | sample => exact stated
  | battery => exact stated
  | around => exact stated

lemma stated_of_run (stated : a.Stated) (run : Run a t b) : b.Stated := by
  induction run with
  | start => exact stated
  | step run step ih => exact stated_of_step ih step

/-- What is noted of a lever in a run. -/
def leverNotes (l : Lever) (t : List Occurrence) : Lever.Notes :=
  (Occurrence.deeds l.part t).foldl l.note {}

/-- The account of a lever: its part keeps to what is noted of it, and if it is remembered as released, its
part is still to be told of a mode, or its motors are to stand still after what is in the mailbox. -/
structure Handled (l : Lever) (t : List Occurrence) (a : Assembly) : Prop where
  kept : Cycle.Kept l.ledger (leverNotes l t) (a.stage l.part)
  memory : l.Released a.dispatcher → l.part.address ∈ a.desk.untold ∨
    l.stillAfter (leverNotes l t).still (a.world.post.queue l.part.address) = true

lemma leverNotes_append (l : Lever) (t ls : List Occurrence) :
    leverNotes l (t ++ ls) = (Occurrence.deeds l.part ls).foldl l.note (leverNotes l t) := by
  rw [leverNotes, Occurrence.deeds_append, List.foldl_append]
  rfl

/-- What the dispatcher posts keeps the account, if it remembers a lever as released only where the motors
are to stand still. -/
lemma Handled.of_works (h : Handled l t a) (quiet : Occurrence.deeds l.part ls = [])
    (part : b.parts = a.parts)
    (works : l.Works (l.Released a.dispatcher) (l.Released b.dispatcher) a.world b.world)
    (idle : a.desk.untold = []) : Handled l (t ++ ls) b := by
  have notes : leverNotes l (t ++ ls) = leverNotes l t := by
    rw [leverNotes_append, quiet]
    rfl
  refine ⟨?_, fun released => .inr ?_⟩
  · rw [notes, stage, part]
    exact h.kept
  · obtain ⟨ms, grown, still⟩ := works
    rw [notes, grown, Lever.stillAfter_append]
    refine still _ (fun before => ?_) released
    rcases h.memory before with told | still
    · rw [idle] at told
      cases told
    · exact still

/-- A step of a part takes messages out of its mailbox, and adds none that sets motors going. -/
lemma handled_of_part {q : Part} {s : Stage (Cycle q.Job) Empty (Runner q.State)}
    (h : Handled l t a) (sound : a.Sound) (stated : a.Stated)
    (step : q.routine.Step (a.stage q) ls s) : Handled l (t ++ ls) (a.setStage q s) := by
  obtain ⟨ds, boxes, rfl, cycled⟩ := Part.step_cases step
  have notes : leverNotes l (t ++ (ds.map (.did q) ++ boxes.map (.missed q))) =
      (if q = l.part then ds else []).foldl l.note (leverNotes l t) := by
    rw [leverNotes_append, Occurrence.deeds_did]
  constructor
  · rw [notes, stage, setStage]
    by_cases same : q = l.part
    · subst same
      simp only [if_true, Function.update_self]
      exact Cycle.kept_of_step l.part.modest l.steady cycled (sound.parts _) h.kept
    · simp only [if_neg same, Function.update_of_ne (Ne.symm same)]
      exact h.kept
  · intro released
    rcases h.memory released with untold | still
    · exact .inl untold
    · obtain ⟨ms, gentle, account⟩ :=
        Part.queue_of_step (q := l.part) cycled (sound.parts q) (stated q) l
      have leaves : (if q = l.part then ds else []).filterMap Deed.leaves? =
          if q = l.part then ds.filterMap Deed.leaves? else [] := by
        split <;> rfl
      right
      change l.stillAfter _ (s.2.2.post.queue l.part.address) = true
      rw [notes, Lever.still_foldl_note, leaves, ← Lever.stillAfter_append, ← account,
        Lever.stillAfter_append]
      change l.stillAfter (l.stillAfter _ (a.world.post.queue l.part.address)) ms = true
      rw [still]
      exact Lever.stillAfter_of_gentle gentle

/-- A new mode makes the dispatcher forget the levers, and everybody is still to be told. -/
lemma handled_of_change {m : Mode} (h : Handled l t a) (idle : a.Idle) :
    Handled l (t ++ if a.world.mode = m then [] else [.changed m]) (a.change m) := by
  by_cases same : a.world.mode = m
  · rw [if_pos same, change_of_eq same]
    exact h.of_works rfl rfl (Lever.works_of_post rfl) (untold_of_idle idle)
  · rw [if_neg same]
    have notes : leverNotes l (t ++ [.changed m]) = leverNotes l t := leverNotes_append l t _
    refine ⟨?_, fun _ => .inl ?_⟩
    · rw [notes]
      exact h.kept
    · rw [desk_change_of_ne same]
      exact Address.mem_tasks.2 l.part.address_ne_autoParser

/-- A part that is told of a mode has the news in its mailbox, after which its motors are to stand
still. -/
lemma handled_of_tell {desk : Progress Broadcast Bool} {d : Dispatcher} {w : World}
    (h : Handled l t a) (sound : a.Sound)
    (step : Broadcast.routine.Step (a.desk, a.dispatcher, a.world) ls (desk, d, w)) :
    Handled l (t ++ ls) { a with desk := desk, dispatcher := d, world := w } := by
  obtain ⟨told, telling⟩ := sound.telling step
  obtain ⟨rfl, ⟨rfl, untold, -, kept⟩ | ⟨x, rfl, untold, -, posted⟩⟩ := telling.step_cases step
  · rw [List.append_nil]
    refine ⟨h.kept, fun released => ?_⟩
    simp only [untold, kept.same l.part.address nofun]
    exact h.memory released
  · obtain ⟨grown, others⟩ := World.queue_of_post? posted
    have notes : leverNotes l (t ++ [.told x { command := .state a.world.mode }]) =
        leverNotes l t := leverNotes_append l t _
    refine ⟨by rw [notes]; exact h.kept, fun released => ?_⟩
    rw [notes]
    by_cases own : x = l.part.address
    · subst own
      right
      simp only [grown, Lever.stillAfter_append]
      have stops : l.still? (.state a.world.mode) = some true := by
        cases l <;> rfl
      simp [Lever.stillAfter, stops]
    · simp only [others _ own]
      rcases h.memory released with before | still
      · rw [untold] at before
        exact .inl ((List.mem_cons.1 before).resolve_left (Ne.symm own))
      · exact .inr still

lemma handled_of_step (h : Handled l t a) (sound : a.Sound) (stated : a.Stated)
    (step : Step a ls b) : Handled l (t ++ ls) b := by
  cases step with
  | part step => exact handled_of_part h sound stated step
  | change idle => exact handled_of_change h idle
  | tell step => exact handled_of_tell h sound step
  | @sample i idle =>
    exact h.of_works rfl rfl (l.works_teleop a.dispatcher i a.world) (untold_of_idle idle)
  | @battery volts idle =>
    exact h.of_works rfl rfl (l.works_reportBattery volts a.world) (untold_of_idle idle)
  | around aside sensed =>
    rw [List.append_nil]
    refine ⟨Cycle.kept_of_sensed l.steady (sensed l.part).2 h.kept, fun released => ?_⟩
    simp only [aside.post]
    exact h.memory released

lemma handled_of_run (fresh : a.Fresh) (rest : l.part.AtRest (a.parts l.part).2.subsystem)
    (run : Run a t b) : Handled l t b := by
  induction run with
  | start =>
    obtain ⟨limit, listening⟩ := fresh.listening l.part
    refine ⟨⟨_, _, listening, l.rest_of_atRest rest⟩, fun _ => .inr ?_⟩
    rw [fresh.empty]
    rfl
  | step run step ih =>
    exact handled_of_step ih (sound_of_run fresh.sound run) (stated_of_run fresh.stated run) step

/-- The dispatcher remembers a lever as released, and its part is between two messages with an empty
mailbox. -/
structure Settled (l : Lever) (a : Assembly) : Prop where
  released : l.Released a.dispatcher
  between : ∃ wait c, (a.parts l.part).1 = .waiting wait c ∧ Cycle.Calm c
  empty : a.world.post.queue l.part.address = []

/-- Whether a part is between two messages. -/
def isBetween {ι : Type} : Progress (Cycle ι) Empty → Bool
  | .waiting _ .listening | .waiting _ .replying => true
  | _ => false

lemma isBetween_iff {ι : Type} {p : Progress (Cycle ι) Empty} :
    isBetween p = true ↔ ∃ wait c, p = .waiting wait c ∧ Cycle.Calm c := by
  cases p with
  | waiting wait c =>
    cases c <;> simp [isBetween, Cycle.Calm]
  | finished x => exact x.elim

instance (l : Lever) (a : Assembly) : Decidable (Settled l a) :=
  decidable_of_iff (l.Released a.dispatcher ∧ isBetween (a.parts l.part).1 = true ∧
      (a.world.post.queue l.part.address).isEmpty = true) <| by
    rw [isBetween_iff, List.isEmpty_iff]
    exact ⟨fun ⟨released, between, empty⟩ => ⟨released, between, empty⟩,
      fun ⟨released, between, empty⟩ => ⟨released, between, empty⟩⟩

/-- A lever that the dispatcher remembers as released is released: once its part has been told of every
mode, has worked through its mailbox and is between two messages, the motors of the lever stand still,
unless it is the roller and is lost. -/
theorem released_lever_rests (fresh : a.Fresh) (rest : l.part.AtRest (a.parts l.part).2.subsystem)
    (run : Run a t b) (settled : Settled l b) (told : l.part.address ∉ b.desk.untold) :
    l.part.AtRest (b.parts l.part).2.subsystem ∨ l = .roller ∧ (leverNotes l t).lost = true := by
  obtain ⟨⟨wait, c, at_, holds⟩, memory⟩ := handled_of_run fresh rest run
  obtain ⟨wait', c', between, calm⟩ := settled.between
  cases at_.symm.trans between
  have still : (leverNotes l t).still = true := by
    rcases memory settled.released with untold | still
    · exact absurd untold told
    · rw [settled.empty] at still
      exact still
  cases c with
  | listening | replying => exact holds.still still
  | entering | handling => exact calm.elim

/-- The driver holds the lever of the climber up and lets it go. -/
theorem climber_rests : ∃ a t b u c, Fresh a ∧ Part.climber.AtRest (a.parts .climber).2.subsystem ∧
    Run a t b ∧ ¬ Part.climber.AtRest (b.parts .climber).2.subsystem ∧ Run b u c ∧
    Settled .climber c ∧ Address.climber ∉ c.desk.untold ∧
    Part.climber.AtRest (c.parts .climber).2.subsystem := by
  have played : ((ready "" {} {}).play ([.change .teleoperated] ++ List.replicate 6 .tell ++
      [.part .climber, .sample { climbUp := true }, .part .climber])).any (fun x =>
        !decide (Part.climber.AtRest (x.2.parts .climber).2.subsystem) &&
          (x.2.play [.sample {}, .part .climber]).any fun y =>
            decide (Settled .climber y.2) && decide y.2.Idle) = true := by
    decide +kernel
  obtain ⟨⟨t, b⟩, before, passed⟩ := (Option.any_eq_true _ _).1 played
  obtain ⟨runs, passed⟩ := Bool.and_eq_true_iff.1 passed
  obtain ⟨⟨u, c⟩, after, passed⟩ := (Option.any_eq_true _ _).1 passed
  simp only [Bool.and_eq_true, decide_eq_true_eq] at passed
  obtain ⟨settled, idle⟩ := passed
  have fresh := fresh_ready "" {} {}
  have rest : Part.climber.AtRest ((ready "" {} {}).parts .climber).2.subsystem := by
    decide +kernel
  have told : Address.climber ∉ c.desk.untold := by
    rw [untold_of_idle idle]
    exact List.not_mem_nil
  have before := run_of_play before
  have after := run_of_play after
  refine ⟨_, t, b, u, c, fresh, rest, before, by simpa using runs, after, settled, told, ?_⟩
  rcases released_lever_rests (l := .climber) fresh rest (before.trans after) settled told with
    rests | ⟨other, -⟩
  · exact rests
  · cases other

/-- The motors of a lever stand still whenever the driver is in charge and the lever is remembered as
released. -/
def RestsReleased (l : Lever) : Prop :=
  ∀ (a b : Assembly) (t : List Occurrence), a.Fresh →
    (∀ p : Part, p.AtRest (a.parts p).2.subsystem) → Run a t b →
    b.world.mode = .teleoperated ∨ b.world.mode = .test → Settled l b →
    l.part.AtRest (b.parts l.part).2.subsystem

/-- A played run that ends in test with motors that run. -/
lemma not_restsReleased (moves : List Move) (played : ((ready "" {} {}).play moves).any (fun x =>
    decide (x.2.world.mode = .test) && decide (Settled l x.2) &&
      !decide (l.part.AtRest (x.2.parts l.part).2.subsystem)) = true) : ¬ RestsReleased l := by
  intro claim
  obtain ⟨⟨t, b⟩, run, passed⟩ := (Option.any_eq_true _ _).1 played
  simp only [Bool.and_eq_true, Bool.not_eq_true', decide_eq_true_eq, decide_eq_false_iff_not] at passed
  obtain ⟨⟨mode, settled⟩, runs⟩ := passed
  have rest : ∀ p : Part, p.AtRest ((ready "" {} {}).parts p).2.subsystem := by
    intro p
    cases p <;> decide +kernel
  exact runs (claim _ b t (fresh_ready _ _ _) rest (run_of_play run) (.inr mode) settled)

/-- The climber runs on while a change of mode waits for room in the mailbox of the drivetrain, before it
tells the climber; and a roller that runs takes no notice of a change of mode. -/
theorem released_levers_run : ¬ RestsReleased .climber ∧ ¬ RestsReleased .roller := by
  constructor
  · apply not_restsReleased ([.change .teleoperated] ++ List.replicate 6 .tell ++ [.part .climber] ++
      List.replicate 8 (.sample { climbUp := true }) ++ [.part .climber, .change .test, .tell])
    decide +kernel
  · apply not_restsReleased ([.change .teleoperated] ++ List.replicate 6 .tell ++
      [.part .gearFloor, .sample { rollerIn := 0.5 }, .part .gearFloor, .change .test] ++
      List.replicate 6 .tell ++ [.part .gearFloor])
    decide +kernel

end Assembly

end MatchRobot
