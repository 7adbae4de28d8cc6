import MatchRobot.Proofs.Assembly.Levers

/-!
# Attempts to post

Whoever posts without waiting makes an attempt: the command arrives at the end of the mailbox, or the
mailbox is full and the command is dropped with a notice. Both can be seen from outside, in the mailboxes
(`World.arrivals`) and in the journal (`World.rejects`).

`World.Offered` says that between two worlds some attempts were made, and nothing else that can be seen
so; attempts made one after the other are put together by `World.Offered.trans`. The attempts of a sample
of the driver's controls are those of `Dispatcher.Sampled`: each lever is tried at most once, and so are
the arm and the gripper (`Dispatcher.sampled_teleop`).
-/

namespace MatchRobot

/-- The command that a report says to have been dropped, with its address. -/
def Report.dropped? : Report → Option (Address × Command)
  | .notice (.dropped a c) => some (a, c)
  | _ => none

/-- An attempt to post a command. -/
structure Attempt where
  address : Address
  command : Command
  /-- Whether there was room for it. -/
  sent : Bool

namespace Attempt

/-- What an attempt brings to a mailbox. -/
def arrival? (a : Address) (e : Attempt) : Option Command :=
  if e.sent && e.address == a then some e.command else none

/-- What is dropped by an attempt. -/
def reject? (e : Attempt) : Option (Address × Command) :=
  if e.sent then none else some (e.address, e.command)

/-- What an attempt is about. -/
def aim (e : Attempt) : Address × Command :=
  (e.address, e.command)

end Attempt

namespace World

/-! ### What is seen of attempts -/

/-- The commands that have come to a mailbox between two worlds. -/
def arrivals (v w : World) (a : Address) : List Command :=
  ((w.post.queue a).drop (v.post.count a)).map Message.command

/-- The commands that were dropped between two worlds, with their addresses. -/
def rejects (v w : World) : List (Address × Command) :=
  (w.journal.take (w.journal.length - v.journal.length)).reverse.filterMap fun e => e.report.dropped?

/-- How many commands of a kind have come to a mailbox between two worlds, or were dropped on their way to it. -/
def tries (v w : World) (a : Address) (kind : Command → Bool) : Nat :=
  (v.arrivals w a).countP kind + (v.rejects w).countP fun x => x.1 == a && kind x.2

/-- Between two worlds some attempts were made, in order: what was sent has come to its mailbox, what was
not was dropped because its mailbox was full, and still is. -/
structure Offered (es : List Attempt) (v w : World) : Prop where
  queue : ∀ a, w.post.queue a =
    v.post.queue a ++ (es.filterMap (Attempt.arrival? a)).map fun c => { command := c }
  journal : ∃ new, w.journal = new ++ v.journal ∧
    new.reverse.filterMap (fun e => e.report.dropped?) = es.filterMap Attempt.reject?
  full : ∀ e ∈ es, e.sent = false → w.post.hasRoom e.address = false
  mode : w.mode = v.mode

section

variable {es fs : List Attempt} {u v w : World}

/-- What leaves the mailboxes alone and reports no drop makes no attempt. -/
lemma offered_nil (new : Journal) (post : w.post = v.post) (mode : w.mode = v.mode)
    (journal : w.journal = new ++ v.journal) (quiet : ∀ e ∈ new, e.report.dropped? = none) :
    Offered [] v w := by
  refine ⟨fun a => by simp [post], ⟨new, journal, ?_⟩, List.forall_mem_nil _, mode⟩
  simpa [List.filterMap_eq_nil_iff] using quiet

lemma Offered.refl (w : World) : Offered [] w w :=
  offered_nil [] rfl rfl rfl (List.forall_mem_nil _)

/-- A full mailbox stays full while others post. -/
lemma Offered.hasRoom (h : Offered es v w) {a : Address} (full : v.post.hasRoom a = false) :
    w.post.hasRoom a = false := by
  have grown : v.post.count a ≤ w.post.count a := by
    unfold PostOffice.count
    rw [h.queue a, List.length_append]
    exact Nat.le_add_right _ _
  unfold PostOffice.hasRoom at full ⊢
  simp only [decide_eq_false_iff_not, Nat.not_lt] at full ⊢
  exact full.trans grown

/-- Attempts can be put together. -/
lemma Offered.trans (h : Offered es u v) (k : Offered fs v w) : Offered (es ++ fs) u w := by
  obtain ⟨new, journal, dropped⟩ := h.journal
  obtain ⟨newer, later, dropped'⟩ := k.journal
  refine ⟨fun a => ?_, ⟨newer ++ new, ?_, ?_⟩, ?_, k.mode.trans h.mode⟩
  · rw [k.queue, h.queue, List.filterMap_append, List.map_append, List.append_assoc]
  · rw [later, journal, List.append_assoc]
  · rw [List.reverse_append, List.filterMap_append, List.filterMap_append, dropped, dropped']
  · intro e he unsent
    rcases List.mem_append.1 he with first | second
    · exact k.hasRoom (h.full e first unsent)
    · exact k.full e second unsent

/-- Offering a message is one attempt. -/
lemma offered_offer (w : World) (a : Address) (c : Command) :
    Offered [⟨a, c, (w.offer a { command := c }).1⟩] w (w.offer a { command := c }).2 := by
  unfold World.offer
  cases posted : w.post? a { command := c } with
  | some w' =>
    obtain ⟨grown, others⟩ := queue_of_post? posted
    refine ⟨fun b => ?_, ⟨[], journal_post? posted, rfl⟩, ?_, (untouched_post? posted).2⟩
    · by_cases own : a = b
      · subst own
        simpa [Attempt.arrival?] using grown
      · simpa [Attempt.arrival?, own] using others b own
    · intro e he unsent
      rw [List.mem_singleton.1 he] at unsent
      cases unsent
  | none =>
    have full : w.post.hasRoom a = false := by
      have nowhere : w.post.post? a { command := c } = none := by
        simpa [World.post?] using posted
      unfold PostOffice.post? at nowhere
      simpa using nowhere
    refine ⟨fun b => by simp [Attempt.arrival?, World.notice], ⟨[⟨w.now, _⟩], rfl, rfl⟩, ?_, rfl⟩
    intro e he _
    rw [List.mem_singleton.1 he]
    exact full

/-! ### Attempts are what is seen -/

lemma arrivals_eq (h : Offered es v w) (a : Address) :
    v.arrivals w a = es.filterMap (Attempt.arrival? a) := by
  unfold arrivals PostOffice.count
  rw [h.queue, List.drop_left, List.map_map]
  exact List.map_id _

lemma rejects_eq (h : Offered es v w) : v.rejects w = es.filterMap Attempt.reject? := by
  obtain ⟨new, journal, dropped⟩ := h.journal
  unfold rejects
  rw [journal, List.length_append, Nat.add_sub_cancel, List.take_left]
  exact dropped

/-- What was dropped met a full mailbox. -/
lemma length_of_rejected (h : Offered es v w) {x : Address × Command} (dropped : x ∈ v.rejects w) :
    Settings.mailboxDepth ≤ (w.post.queue x.1).length := by
  rw [rejects_eq h] at dropped
  obtain ⟨e, tried, aimed⟩ := List.mem_filterMap.1 dropped
  obtain ⟨unsent, aim⟩ := Option.ite_none_left_eq_some.1 aimed
  cases aim
  exact PostOffice.hasRoom_eq_false_iff.1 (h.full e tried (Bool.eq_false_iff.2 unsent))

/-- What is sent comes to one mailbox and to no other, so as many commands have come to the mailboxes as were
sent. -/
lemma length_arrivals (h : Offered es v w) :
    (Address.all.flatMap (v.arrivals w)).length = es.countP Attempt.sent := by
  rw [funext (arrivals_eq h), List.length_flatMap]
  clear h
  induction es with
  | nil => rfl
  | cons e es ih =>
    obtain ⟨a, c, sent⟩ := e
    cases sent with
    | false => simpa [Attempt.arrival?] using ih
    | true =>
      -- Every address is among all of them once.
      simp only [Address.all, List.map_cons, List.sum_cons] at ih ⊢
      cases a <;> simp [Attempt.arrival?] at ih ⊢ <;> omega

/-- Every attempt is seen, in its mailbox or in the journal. -/
lemma tries_eq (h : Offered es v w) (a : Address) (kind : Command → Bool) :
    v.tries w a kind = es.countP fun e => e.address == a && kind e.command := by
  have arrived : (es.filterMap (Attempt.arrival? a)).countP kind =
      es.countP fun e => e.sent && (e.address == a && kind e.command) := by
    rw [List.countP_filterMap]
    refine List.countP_congr fun e _ => ?_
    unfold Attempt.arrival?
    cases e.sent <;> cases e.address == a <;> simp
  have dropped : (es.filterMap Attempt.reject?).countP (fun x => x.1 == a && kind x.2) =
      es.countP fun e => !e.sent && (e.address == a && kind e.command) := by
    rw [List.countP_filterMap]
    refine List.countP_congr fun e _ => ?_
    unfold Attempt.reject?
    cases e.sent <;> simp
  unfold tries
  rw [arrivals_eq h, rejects_eq h, arrived, dropped]
  clear h arrived dropped
  induction es with
  | nil => rfl
  | cons e es ih =>
    simp only [List.countP_cons, ← ih]
    cases e.sent <;> cases e.address == a && kind e.command <;> simp <;> omega

end

end World

/-! ### Samples of the driver's controls -/

/-- The actions that a sample can have for the arm. -/
lemma Dispatcher.armAction_cases {before i : DriverInput} {c : FloorCommand}
    (h : armAction before i = some c) :
    c = .floorPosition ∨ c = .nextPosition ∨ c = .previousPosition := by
  unfold armAction at h
  split at h
  · exact .inl (Option.some.inj h).symm
  · split at h
    · exact .inr (.inl (Option.some.inj h).symm)
    · split at h
      · exact .inr (.inr (Option.some.inj h).symm)
      · exact nomatch h

namespace Lever

/-- The commands by which the dispatcher works a lever. -/
def owns : Lever → Command → Bool
  | climber, .climber _ | hopper, .hopper _ => true
  | roller, .floor c => match c with
    | .pullIn _ | .pushOut _ | .stop => true
    | _ => false
  | _, _ => false

/-- The command that releases a lever. -/
def stop : Lever → Command
  | climber => .climber .stop
  | hopper => .hopper .stop
  | roller => .floor .stop

/-- What the dispatcher remembers of a lever. -/
def remembered : Lever → Dispatcher → Command
  | climber, d => .climber d.climber
  | hopper, d => .hopper d.hopper
  | roller, d => .floor d.roller

/-- What a sample asks of a lever: to move at a speed while it is held, and else to stop. The roller is held
by triggers that count as released up to a tenth of their travel. -/
def asked : Lever → DriverInput → Command
  | climber, i => .climber (if i.climbUp then .up 1 else if i.climbDown then .down 0.2 else .stop)
  | hopper, i => .hopper (if i.hopperUp then .up 1 else if i.hopperDown then .down 1 else .stop)
  | roller, i => .floor (if 0.1 < i.rollerIn then .pullIn i.rollerIn
      else if 0.1 < i.rollerOut then .pushOut i.rollerOut else .stop)

/-- The attempts at a lever by which it comes to be remembered as something else: none if what is asked of
it is remembered of it, and otherwise one, which counts if it is sent. -/
inductive Worked (a : Address) (asked last : Command) : List Attempt → Command → Prop
  | kept (same : (asked == last) = true) : Worked a asked last [] last
  | tried (differs : (asked == last) = false) (sent : Bool) :
      Worked a asked last [⟨a, asked, sent⟩] (if sent then asked else last)

lemma Worked.command {a : Address} {asked last new : Command} {es : List Attempt}
    (h : Worked a asked last es new) : ∀ e ∈ es, e.command = asked := by
  cases h with
  | kept same => exact List.forall_mem_nil _
  | tried differs sent =>
    intro e he
    rw [List.mem_singleton.1 he]

/-- An action of the arm works no lever. -/
lemma owns_armAction (l : Lever) {before i : DriverInput} {c : FloorCommand}
    (h : Dispatcher.armAction before i = some c) : l.owns (.floor c) = false := by
  rcases Dispatcher.armAction_cases h with rfl | rfl | rfl <;> cases l <;> rfl

lemma owns_gear (l : Lever) (c : GearCommand) : l.owns (.gear c) = false := by
  cases l <;> rfl

/-- A sample asks of a lever what works it. -/
lemma owns_asked (l k : Lever) (i : DriverInput) : l.owns (k.asked i) = decide (l = k) := by
  cases k with
  | roller =>
    simp only [asked]
    split
    · cases l <;> rfl
    · split <;> cases l <;> rfl
  | climber | hopper => cases l <;> rfl

end Lever

/-- The commands that move the arm. -/
def Command.isArm : Command → Bool
  | .floor c => match c with
    | .pullIn _ | .pushOut _ | .stop | .hangGear => false
    | _ => true
  | _ => false

/-- The commands to the gripper. -/
def Command.isGear : Command → Bool
  | .gear _ => true
  | _ => false

/-- What is asked of a lever moves neither the arm nor the gripper. -/
lemma Lever.kind_asked (l : Lever) (i : DriverInput) :
    (l.asked i).isArm = false ∧ (l.asked i).isGear = false := by
  cases l with
  | climber | hopper => exact ⟨rfl, rfl⟩
  | roller =>
    simp only [asked]
    split
    · exact ⟨rfl, rfl⟩
    · split <;> exact ⟨rfl, rfl⟩

namespace Dispatcher

/-- A button of the arm is pressed that was not pressed before. -/
def armPressed (before i : DriverInput) : Bool :=
  i.armFloor && !before.armFloor || i.armNext && !before.armNext ||
    i.armPrevious && !before.armPrevious

/-- A button of the gripper is pressed that was not pressed before. -/
def gearPressed (before i : DriverInput) : Bool :=
  i.gearHold && !before.gearHold || i.gearRelease && !before.gearRelease

/-- What a sample leads to in a mode that obeys the driver, by the attempts that are made. -/
structure Sampled (i : DriverInput) (d d' : Dispatcher) (es : List Attempt) : Prop where
  previous : d'.previous = i
  lever : ∀ l : Lever, Lever.Worked l.part.address (l.asked i) (l.remembered d)
    (es.filter fun e => l.owns e.command) (l.remembered d')
  arm : ∀ a, (es.countP fun e => e.address == a && e.command.isArm) =
    if a = .gearFloor ∧ armPressed d.previous i then 1 else 0
  gear : ∀ a, (es.countP fun e => e.address == a && e.command.isGear) =
    if a = .gearIntake ∧ gearPressed d.previous i then 1 else 0

section

variable {w : World} {n : Nat}

/-- Posting a command is one attempt. -/
lemma offered_post (a : Address) (c : Command) (n : Nat) (w : World) :
    ∃ sent n' w', post a c n w = (sent, n', w') ∧ n' = n + [Attempt.mk a c sent].countP Attempt.sent ∧
      World.Offered [⟨a, c, sent⟩] w w' := by
  have counted : ∀ sent : Bool, (if sent then n + 1 else n) =
      n + [Attempt.mk a c sent].countP Attempt.sent := by
    intro sent
    cases sent <;> rfl
  exact ⟨_, _, _, rfl, counted _, World.offered_offer w a c⟩

/-- Posting an action is one attempt, if there is one. -/
lemma offered_postAction {α : Type} (a : Address) (wrap : α → Command) (action : Option α) (n : Nat)
    (w : World) : ∃ es n' w', postAction a wrap action n w = (n', w') ∧
      n' = n + es.countP Attempt.sent ∧ World.Offered es w w' ∧
      es.map Attempt.aim = action.toList.map fun c => (a, wrap c) := by
  cases action with
  | none => exact ⟨[], n, w, rfl, rfl, .refl w, rfl⟩
  | some c =>
    obtain ⟨sent, n', w', posted, count, offered⟩ := offered_post a (wrap c) n w
    refine ⟨_, n', w', ?_, count, offered, rfl⟩
    change (post a (wrap c) n w).2 = _
    rw [posted]

/-- Working a lever is one attempt, if something else is asked of it than it is remembered for. -/
lemma offered_postLever {α : Type} [BEq α] (a : Address) (wrap : α → Command) (asked last : α)
    (same : (wrap asked == wrap last) = (asked == last)) (n : Nat) (w : World) :
    ∃ es last' n' w', postLever a wrap asked last n w = (last', n', w') ∧
      n' = n + es.countP Attempt.sent ∧ World.Offered es w w' ∧
      Lever.Worked a (wrap asked) (wrap last) es (wrap last') := by
  unfold postLever
  cases compared : asked == last with
  | true => exact ⟨[], last, n, w, rfl, rfl, .refl w, .kept (same.trans compared)⟩
  | false =>
    obtain ⟨sent, n', w', posted, count, offered⟩ := offered_post a (wrap asked) n w
    have tried := Lever.Worked.tried (a := a) (same.trans compared) sent
    rw [← apply_ite wrap] at tried
    rw [posted]
    exact ⟨_, _, n', w', rfl, count, offered, tried⟩

end

/-! ### The attempts of a sample -/

/-- A sample has an action for the arm exactly if a button of the arm is newly pressed. -/
lemma isSome_armAction (before i : DriverInput) :
    (armAction before i).isSome = armPressed before i := by
  unfold armAction armPressed pressed
  cases i.armFloor && !before.armFloor <;> cases i.armNext && !before.armNext <;>
    cases i.armPrevious && !before.armPrevious <;> rfl

lemma isSome_gearAction (before i : DriverInput) :
    (gearAction before i).isSome = gearPressed before i := by
  unfold gearAction gearPressed pressed
  cases i.gearHold && !before.gearHold <;> cases i.gearRelease && !before.gearRelease <;> rfl

/-- An action for the arm moves it. -/
lemma isArm_armAction {before i : DriverInput} {c : FloorCommand} (h : armAction before i = some c) :
    (Command.floor c).isArm = true := by
  rcases armAction_cases h with rfl | rfl | rfl <;> rfl

/-- The attempts that carry out an action, by their kind. -/
lemma countP_action {α : Type} {a : Address} {wrap : α → Command} {action : Option α}
    {es : List Attempt} (aims : es.map Attempt.aim = action.toList.map fun c => (a, wrap c))
    (kind : Address × Command → Bool) {always : Bool}
    (own : ∀ c, action = some c → kind (a, wrap c) = always) :
    (es.countP fun e => kind e.aim) = if action.isSome && always then 1 else 0 := by
  have counted : (es.countP fun e => kind e.aim) = (es.map Attempt.aim).countP kind := by
    rw [List.countP_map]
    rfl
  rw [counted, aims]
  cases action with
  | none => rfl
  | some c => simp [own c rfl]

/-- No attempt at a lever is of a kind that leaves out what is asked of it. -/
lemma countP_worked {a : Address} {asked last new : Command} {es : List Attempt}
    (worked : Lever.Worked a asked last es new) {kind : Attempt → Bool}
    (other : ∀ e, e.command = asked → kind e = false) : es.countP kind = 0 := by
  rw [List.countP_eq_zero]
  intro e he
  rw [other e (worked.command e he)]
  exact Bool.false_ne_true

/-- The pause button makes no attempt. -/
lemma offered_pauseButton (before i : DriverInput) (w : World) :
    World.Offered [] w (pauseButton before i w) := by
  unfold pauseButton World.togglePause
  split
  · split
    · exact World.offered_nil [⟨w.now, _⟩, ⟨w.now, _⟩] rfl rfl rfl (by simp [Report.dropped?])
    · exact World.offered_nil [⟨w.now, _⟩, ⟨w.now, _⟩] rfl rfl rfl (by simp [Report.dropped?])
  · exact .refl w

/-- The attempts of a sample: one at the drivetrain, those at the arm and at the gripper, and those at
each lever. -/
structure Round (i : DriverInput) (d d' : Dispatcher) where
  driven : Bool
  arm : List Attempt
  gear : List Attempt
  lever : Lever → List Attempt
  previous : d'.previous = i
  arm_aims : arm.map Attempt.aim =
    (armAction d.previous i).toList.map fun c => (Address.gearFloor, Command.floor c)
  gear_aims : gear.map Attempt.aim =
    (gearAction d.previous i).toList.map fun c => (Address.gearIntake, Command.gear c)
  worked : ∀ l, Lever.Worked l.part.address (l.asked i) (l.remembered d) (lever l) (l.remembered d')

namespace Round

variable {i : DriverInput} {d d' : Dispatcher}

/-- The attempts in the order in which they are made. -/
def attempts (r : Round i d d') : List Attempt :=
  [⟨.drivetrain, .drive (.cheesy i.wheel i.throttle i.quickturn), r.driven⟩] ++ r.arm ++
    r.lever .roller ++ r.gear ++ r.lever .climber ++ r.lever .hopper

lemma filter_lever (r : Round i d d') (l k : Lever) :
    ((r.lever k).filter fun e => l.owns e.command) = if l = k then r.lever k else [] := by
  have owns : ∀ e ∈ r.lever k, l.owns e.command = decide (l = k) := by
    intro e he
    rw [(r.worked k).command e he, l.owns_asked k i]
  split
  · next same =>
    rw [List.filter_eq_self]
    intro e he
    rw [owns e he, decide_eq_true same]
  · next other =>
    rw [List.filter_eq_nil_iff]
    intro e he
    rw [owns e he, decide_eq_false other]
    exact Bool.false_ne_true

/-- No action works a lever. -/
lemma filter_action {α : Type} {a : Address} {wrap : α → Command} {action : Option α}
    {es : List Attempt} (aims : es.map Attempt.aim = action.toList.map fun c => (a, wrap c))
    {l : Lever} (other : ∀ c, action = some c → l.owns (wrap c) = false) :
    (es.filter fun e => l.owns e.command) = [] := by
  have none := countP_action aims (fun x => l.owns x.2) other
  rw [Bool.and_false, if_neg Bool.false_ne_true] at none
  rw [List.filter_eq_nil_iff]
  exact List.countP_eq_zero.1 none

/-- The attempts at a mailbox of a kind that works no lever and drives nothing. -/
lemma countP_attempts (r : Round i d d') (a : Address) (kind : Command → Bool)
    (drive : kind (.drive (.cheesy i.wheel i.throttle i.quickturn)) = false)
    (lever : ∀ l : Lever, kind (l.asked i) = false) :
    (r.attempts.countP fun e => e.address == a && kind e.command) =
      (r.arm.countP fun e => e.address == a && kind e.command) +
        r.gear.countP fun e => e.address == a && kind e.command := by
  have worked : ∀ l, ((r.lever l).countP fun e => e.address == a && kind e.command) = 0 :=
    fun l => countP_worked (r.worked l) fun e asked => by rw [asked, lever, Bool.and_false]
  unfold attempts
  simp only [List.countP_append, List.countP_singleton, worked, drive, Bool.and_false]
  simp

/-- A sample leads to what its attempts lead to. -/
lemma sampled (r : Round i d d') : Sampled i d d' r.attempts := by
  refine ⟨r.previous, fun l => ?_, fun a => ?_, fun a => ?_⟩
  · have drive : l.owns (.drive (.cheesy i.wheel i.throttle i.quickturn)) = false := by
      cases l <;> rfl
    have arm := filter_action r.arm_aims fun c action => l.owns_armAction action
    have gear := filter_action r.gear_aims fun c action => l.owns_gear c
    have own : (r.attempts.filter fun e => l.owns e.command) = r.lever l := by
      unfold attempts
      simp only [List.filter_append, filter_lever, arm, gear, List.filter_cons, drive]
      cases l <;> simp
    rw [own]
    exact r.worked l
  · have own : ∀ c, armAction d.previous i = some c →
        (Address.gearFloor == a && (Command.floor c).isArm) = (Address.gearFloor == a) := by
      intro c action
      rw [isArm_armAction action, Bool.and_true]
    have moved := countP_action r.arm_aims (fun x => x.1 == a && x.2.isArm) own
    have gripped := countP_action r.gear_aims (fun x => x.1 == a && x.2.isArm)
      fun c action => Bool.and_false _
    calc (r.attempts.countP fun e => e.address == a && e.command.isArm)
      _ = _ := r.countP_attempts a Command.isArm rfl fun l => (l.kind_asked i).1
      _ = _ := congrArg₂ (· + ·) moved gripped
      _ = if a = .gearFloor ∧ armPressed d.previous i then 1 else 0 := by
        rw [isSome_armAction]
        cases a <;> simp
  · have own : ∀ c, gearAction d.previous i = some c →
        (Address.gearIntake == a && (Command.gear c).isGear) = (Address.gearIntake == a) :=
      fun c action => Bool.and_true _
    have moved := countP_action r.arm_aims (fun x => x.1 == a && x.2.isGear)
      fun c action => Bool.and_false _
    have gripped := countP_action r.gear_aims (fun x => x.1 == a && x.2.isGear) own
    calc (r.attempts.countP fun e => e.address == a && e.command.isGear)
      _ = _ := r.countP_attempts a Command.isGear rfl fun l => (l.kind_asked i).2
      _ = _ := congrArg₂ (· + ·) moved gripped
      _ = if a = .gearIntake ∧ gearPressed d.previous i then 1 else 0 := by
        rw [isSome_gearAction]
        cases a <;> simp

end Round

/-- A sample in a mode that obeys the driver makes a round of attempts, and counts those that were
sent. -/
lemma exists_round (d : Dispatcher) (i : DriverInput) {w : World} (obeys : w.mode.obeysDriver = true) :
    ∃ r : Round i d (d.teleop i w).2.1, World.Offered r.attempts w (d.teleop i w).2.2 ∧
      (d.teleop i w).1 = r.attempts.countP Attempt.sent := by
  have paused := offered_pauseButton d.previous i w
  have mode : (pauseButton d.previous i w).mode.obeysDriver = true := by
    rw [paused.mode]
    exact obeys
  -- What is posted comes in this order; each attempt finds the world that the one before it has left.
  obtain ⟨sent, n, u, posted, count, driven⟩ := offered_post .drivetrain
    (.drive (.cheesy i.wheel i.throttle i.quickturn)) 0 (pauseButton d.previous i w)
  obtain ⟨arm, n₁, u₁, posted₁, count₁, armed, aims⟩ :=
    offered_postAction .gearFloor .floor (armAction d.previous i) n u
  obtain ⟨rollers, roller, n₂, u₂, posted₂, count₂, rolled, worked⟩ :=
    offered_postLever .gearFloor .floor (rollerAsked i) d.roller rfl n₁ u₁
  obtain ⟨gear, n₃, u₃, posted₃, count₃, geared, aims'⟩ :=
    offered_postAction .gearIntake .gear (gearAction d.previous i) n₂ u₂
  obtain ⟨climbers, climber, n₄, u₄, posted₄, count₄, climbed, worked'⟩ :=
    offered_postLever .climber .climber (climberAsked i) d.climber rfl n₃ u₃
  obtain ⟨hoppers, hopper, n₅, u₅, posted₅, count₅, hopped, worked''⟩ :=
    offered_postLever .hopper .hopper (hopperAsked i) d.hopper rfl n₄ u₄
  have done : d.teleop i w = (n₅, ⟨i, climber, hopper, roller⟩, u₅) := by
    unfold teleop postAll
    simp only [mode, if_true]
    rw [posted]
    simp only
    rw [posted₁]
    simp only
    rw [posted₂]
    simp only
    rw [posted₃]
    simp only
    rw [posted₄]
    simp only
    rw [posted₅]
  rw [done]
  let lever : Lever → List Attempt
    | .climber => climbers
    | .hopper => hoppers
    | .roller => rollers
  refine ⟨⟨sent, arm, gear, lever, rfl, aims, aims', fun l => ?_⟩,
    (((((paused.trans driven).trans armed).trans rolled).trans geared).trans climbed).trans hopped, ?_⟩
  · cases l with
    | climber => exact worked'
    | hopper => exact worked''
    | roller => exact worked
  · change n₅ = ([Attempt.mk .drivetrain (.drive (.cheesy i.wheel i.throttle i.quickturn)) sent] ++
      arm ++ rollers ++ gear ++ climbers ++ hoppers).countP Attempt.sent
    simp only [List.countP_append]
    omega

/-- A sample in a mode that obeys the driver makes the attempts that it asks for, and counts those that
were sent. -/
theorem sampled_teleop (d : Dispatcher) (i : DriverInput) {w : World}
    (obeys : w.mode.obeysDriver = true) : ∃ es, World.Offered es w (d.teleop i w).2.2 ∧
      (d.teleop i w).1 = es.countP Attempt.sent ∧ Sampled i d (d.teleop i w).2.1 es := by
  obtain ⟨r, offered, counted⟩ := d.exists_round i obeys
  exact ⟨r.attempts, offered, counted, r.sampled⟩

/-- In any other mode it makes none. -/
theorem idle_teleop (d : Dispatcher) (i : DriverInput) {w : World}
    (ignores : w.mode.obeysDriver = false) :
    World.Offered [] w (d.teleop i w).2.2 ∧ (d.teleop i w).1 = 0 ∧
      (d.teleop i w).2.1 = { d with previous := i } := by
  have paused := offered_pauseButton d.previous i w
  have done : d.teleop i w = (0, { d with previous := i }, pauseButton d.previous i w) := by
    unfold teleop
    simp only [paused.mode, ignores, Bool.false_eq_true, if_false]
  rw [done]
  exact ⟨paused, rfl, rfl⟩

end Dispatcher

end MatchRobot
