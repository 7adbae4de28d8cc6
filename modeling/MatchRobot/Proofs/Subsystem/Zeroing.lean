import MatchRobot.Proofs.Subsystem.FloorActs

/-!
# Zeroing the arm

The arm of the floor intake is zeroed by the first act that needs it to be: an enabled mode, or a move of
the arm. That act finds the setpoints, which stay from then on, and makes the controller of the arm take
what is written for a position (`FloorIntake.zeroed_once`).

Whatever moves the arm comes after that. An inspection does not: it holds an arm that draws too much even
if it was never zeroed, and writes the sensed angle to a controller that takes it for a power.
`FloorIntake.strays_eq` says that these are all the writes that are not meant as positions.
-/

namespace MatchRobot

namespace Motor

/-- What was written to a motor and not meant as a position, the latest first. -/
def strays (m : Motor) : List (ControlMode × Float32) :=
  m.log.filter fun x => x.1 != .position

lemma strays_set_of_position {m : Motor} (h : m.mode = .position) (x : Float32) :
    (m.set x).strays = m.strays := by
  unfold strays
  rw [log_set, h]
  rfl

lemma strays_set {m : Motor} (h : m.mode ≠ .position) (x : Float32) :
    (m.set x).strays = (m.mode, x) :: m.strays := by
  unfold strays
  rw [log_set, List.filter_cons_of_pos (by simpa using h)]

end Motor

namespace FloorIntake

/-- The setpoints that zeroing would find: what the sensor shows is the drive position, and the other two are
offsets from it. -/
def found (f : FloorIntake) : ArmSetpoints where
  floor := Single.ofInt32 f.sensor / f.config.countsPerRotation + f.config.floorOffset
  drive := Single.ofInt32 f.sensor / f.config.countsPerRotation
  release := Single.ofInt32 f.sensor / f.config.countsPerRotation + f.config.releaseOffset

/-- The position of an arm is known once it was zeroed, and not before; its controller then takes what is
written to it for a position. -/
structure Located (f : FloorIntake) : Prop where
  position : f.position = .unknown ↔ f.setpoints = none
  mode : f.setpoints ≠ none → f.arm.mode = .position

/-- The arm was sent to a position, and what was written to it last is the setpoint of that position. -/
structure SentTo (f : FloorIntake) (target : ArmPosition) : Prop where
  position : f.position = target
  mode : f.arm.mode = .position
  setpoint : ∃ s, f.setpoints = some s ∧
    (target = .floor ∧ f.arm.value = s.floor ∨ target = .drive ∧ f.arm.value = s.drive ∨
      target = .release ∧ f.arm.value = s.release)

/-- Whatever is known of a new intake is known of it, as its arm was not zeroed. -/
lemma located_of_fresh {f : FloorIntake} (fresh : f.setpoints = none)
    (nowhere : f.position = .unknown) : f.Located :=
  ⟨iff_of_true nowhere fresh, absurd fresh⟩

/-! ### Acts that zero the arm, and acts that do not -/

/-- What becomes of the arm when it is zeroed, if it was not, and goes where it can be. -/
structure Moved (f g : FloorIntake) : Prop where
  setpoints : g.setpoints = some (f.setpoints.getD f.found)
  position : g.position ≠ .unknown
  mode : g.arm.mode = .position
  strays : g.arm.strays = f.arm.strays

/-- What becomes of the arm by an act that does not need it to be zeroed. -/
structure Stayed (a : Act) (f g : FloorIntake) : Prop where
  setpoints : g.setpoints = f.setpoints
  position : g.position = .unknown ↔ f.position = .unknown
  mode : g.arm.mode = f.arm.mode
  strays : g.arm.strays =
    (if f.arm.mode = .position then [] else a.holds?.toList.map (f.arm.mode, ·)) ++ f.arm.strays
  found : g.found = f.found

section

variable {f g : FloorIntake} {target : ArmPosition}

lemma Moved.located (h : Moved f g) : g.Located := by
  refine ⟨iff_of_false h.position ?_, fun _ => h.mode⟩
  rw [h.setpoints]
  exact nofun

lemma Stayed.located {a : Act} (h : Stayed a f g) (located : f.Located) : g.Located := by
  constructor
  · rw [h.position, h.setpoints]
    exact located.position
  · rw [h.setpoints, h.mode]
    exact located.mode

lemma setpoints_ready (f : FloorIntake) : f.ready.setpoints = some (f.setpoints.getD f.found) := by
  cases known : f.setpoints with
  | none =>
    rw [f.ready_of_fresh known]
    rfl
  | some s =>
    rw [f.ready_of_zeroed known, known]
    rfl

lemma moved_ready (located : f.Located) : Moved f f.ready := by
  cases known : f.setpoints with
  | none =>
    rw [f.ready_of_fresh known]
    refine ⟨by rw [known]; rfl, nofun, rfl, ?_⟩
    exact Motor.strays_set_of_position (m := f.arm.setMode .position) rfl _
  | some s =>
    have zeroed : f.setpoints ≠ none := by
      rw [known]
      exact nofun
    rw [f.ready_of_zeroed known]
    exact ⟨by rw [known]; rfl, mt located.position.1 zeroed, located.mode zeroed, rfl⟩

/-- Zeroing and moving the arm make no difference to what zeroing would find. -/
lemma found_sent (f : FloorIntake) (target : ArmPosition) : (f.sent target).found = f.found := by
  have ready : f.ready.found = f.found := by
    unfold FloorIntake.ready
    split <;> rfl
  unfold sent
  split <;> exact ready

lemma moved_sent (located : f.Located) (real : target ≠ .unknown) : Moved f (f.sent target) := by
  obtain ⟨setpoints, -, mode, strays⟩ := moved_ready located
  obtain ⟨x, -, sent⟩ := f.sent_eq setpoints real
  rw [sent]
  exact ⟨setpoints, real, mode, (Motor.strays_set_of_position mode x).trans strays⟩

/-- Sending the arm somewhere ends there, at the setpoint of that position. -/
lemma sentTo_sent (located : f.Located) (real : target ≠ .unknown) : (f.sent target).SentTo target := by
  have mode := (moved_sent located real).mode
  obtain ⟨x, setpoint, sent⟩ := f.sent_eq f.setpoints_ready real
  rw [sent] at mode ⊢
  exact ⟨rfl, mode, _, f.setpoints_ready, ArmSetpoints.get?_eq_some setpoint⟩

/-- What the roller is told makes no difference to the arm. -/
lemma located_told (located : f.Located) (order : Option RollerOrder) :
    (order.elim f fun o => f.roll (o.output f.config)).Located := by
  cases order with
  | none => exact located
  | some o => exact ⟨located.position, located.mode⟩

lemma sentTo_directed (located : f.Located) (order : Option RollerOrder) (real : target ≠ .unknown) :
    (f.directed order (some target)).SentTo target :=
  sentTo_sent (located_told located order) real

lemma moved_directed (located : f.Located) (order : Option RollerOrder) (real : target ≠ .unknown) :
    Moved f (f.directed order (some target)) := by
  cases order with
  | none => exact moved_sent located real
  | some o =>
    obtain ⟨setpoints, position, mode, strays⟩ := moved_sent (located_told located (some o)) real
    exact ⟨setpoints, position, mode, strays⟩

lemma stayed_rolled {a : Act} (silent : a.holds? = none) (f : FloorIntake)
    (order : Option RollerOrder) : Stayed a f (f.directed order none) := by
  have strays : f.arm.strays =
      (if f.arm.mode = .position then [] else a.holds?.toList.map (f.arm.mode, ·)) ++ f.arm.strays := by
    rw [silent]
    split <;> rfl
  cases order with
  | none => exact ⟨rfl, Iff.rfl, rfl, strays, rfl⟩
  | some o => exact ⟨rfl, Iff.rfl, rfl, strays, rfl⟩

lemma stayed_held (f : FloorIntake) (hold : Option Float32) :
    Stayed (.inspects hold) f (f.held hold) := by
  cases hold with
  | none => exact stayed_rolled rfl f none
  | some x =>
    refine ⟨rfl, Iff.rfl, rfl, ?_, rfl⟩
    split
    · next mode => exact Motor.strays_set_of_position mode x
    · next mode => exact Motor.strays_set mode x

/-- An inspection lifts a gear only with an arm that was zeroed before. -/
lemma stayed_inspected (located : f.Located) (hold : Option Float32) :
    Stayed (.inspects hold) f (f.held hold).lifted := by
  have held := stayed_held f hold
  unfold lifted
  split
  · next lifts =>
    have down : (f.held hold).position = .floor := by
      unfold FloorIntake.lifts at lifts
      simp only [Bool.and_eq_true, beq_iff_eq] at lifts
      exact lifts.2
    obtain ⟨s, known⟩ : ∃ s, (f.held hold).setpoints = some s := by
      refine Option.ne_none_iff_exists'.1 fun fresh => ?_
      exact nomatch down.symm.trans ((held.located located).position.2 fresh)
    have real : ArmPosition.drive ≠ .unknown := nofun
    have moved := moved_sent (held.located located) real
    have zeroed : f.setpoints = some s := held.setpoints.symm.trans known
    have mode : f.arm.mode = .position := located.mode (by rw [zeroed]; exact nofun)
    refine ⟨?_, ?_, moved.mode.trans mode.symm, moved.strays.trans held.strays, ?_⟩
    · rw [moved.setpoints, known, zeroed]
      rfl
    · rw [← held.position]
      exact iff_of_false moved.position (by rw [down]; exact nofun)
    · exact (found_sent _ _).trans held.found
  · exact held

/-- An act zeroes the arm, or leaves it as it is but for a hold. -/
lemma perform_cases (located : f.Located) (a : Act) :
    a.zeroes = true ∧ Moved f (f.perform a) ∨ a.zeroes = false ∧ Stayed a f (f.perform a) := by
  have directs : f.perform a = f.directed a.order? a.target? → a.holds? = none →
      a.zeroes = a.target?.isSome →
      a.zeroes = true ∧ Moved f (f.perform a) ∨ a.zeroes = false ∧ Stayed a f (f.perform a) := by
    intro performed silent zeroes
    have real := a.target?_ne_unknown
    rw [zeroes, performed]
    cases sent : a.target? with
    | none => exact .inr ⟨rfl, stayed_rolled silent f a.order?⟩
    | some target => exact .inl ⟨rfl, moved_directed located _ fun lost => real (lost ▸ sent)⟩
  cases a with
  | hears mode =>
    cases enabled : mode.isEnabled with
    | true =>
      have performed : f.perform (.hears mode) = f.ready := if_pos enabled
      rw [performed]
      exact .inl ⟨(Act.zeroes_hears mode).trans enabled, moved_ready located⟩
    | false =>
      have performed : f.perform (.hears mode) = f := if_neg (by rw [enabled]; exact nofun)
      rw [performed]
      exact .inr ⟨(Act.zeroes_hears mode).trans enabled, stayed_rolled rfl f none⟩
  | inspects hold => exact .inr ⟨rfl, stayed_inspected located hold⟩
  | obeys | lowers | raises => exact directs rfl rfl rfl

end

/-! ### Whole runs -/

/-- The acts before the first one that zeroes the arm. -/
def early (t : List Act) : List Act :=
  t.takeWhile fun a => !a.zeroes

/-- What acts write to an arm in percent mode in order to hold it, the latest first. -/
def holdings (t : List Act) : List (ControlMode × Float32) :=
  (t.filterMap Act.holds?).reverse.map (.percent, ·)

lemma early_concat (t : List Act) (a : Act) :
    early (t ++ [a]) = if t.any Act.zeroes || a.zeroes then early t else early t ++ [a] := by
  unfold early
  induction t with
  | nil => cases zeroes : a.zeroes <;> simp [zeroes]
  | cons b t ih =>
    cases zeroes : b.zeroes with
    | true => simp [zeroes]
    | false =>
      simp only [List.cons_append, List.takeWhile_cons, zeroes, Bool.not_false, if_true, ih,
        List.any_cons, Bool.false_or]
      split <;> rfl

lemma holdings_concat (t : List Act) (a : Act) :
    holdings (t ++ [a]) = a.holds?.toList.map (.percent, ·) ++ holdings t := by
  unfold holdings
  rw [List.filterMap_append, List.reverse_append, List.map_append]
  congr 1
  cases held : a.holds? <;> simp [held]

/-- What is known of the arm after some acts. -/
structure Accounts (t : List Act) (f : FloorIntake) : Prop where
  located : f.Located
  zeroed : f.setpoints.isSome = t.any Act.zeroes
  mode : f.setpoints = none → f.arm.mode = .percent
  strays : f.arm.strays = holdings (early t)

section

variable {f g : FloorIntake} {t l u : List Act}

lemma accounts_perform (a : Act) (h : Accounts t f) : Accounts (t ++ [a]) (f.perform a) := by
  have any : (t ++ [a]).any Act.zeroes = (f.setpoints.isSome || a.zeroes) := by
    rw [List.any_append, ← h.zeroed]
    simp
  rcases perform_cases h.located a with ⟨zeroes, moved⟩ | ⟨idle, stayed⟩
  · constructor
    · exact moved.located
    · rw [any, zeroes, moved.setpoints, Bool.or_true]
      rfl
    · intro fresh
      exact nomatch moved.setpoints.symm.trans fresh
    · rw [moved.strays, h.strays, early_concat, zeroes, Bool.or_true, if_pos rfl]
  · constructor
    · exact stayed.located h.located
    · rw [any, idle, stayed.setpoints, Bool.or_false]
    · rw [stayed.setpoints, stayed.mode]
      exact h.mode
    · rw [stayed.strays, early_concat, idle, Bool.or_false, ← h.zeroed]
      cases known : f.setpoints with
      | none =>
        have percent := h.mode known
        rw [if_neg (by rw [percent]; exact nofun), percent, h.strays, if_neg nofun, holdings_concat]
      | some s =>
        have mode : f.arm.mode = .position := h.located.mode (by rw [known]; exact nofun)
        rw [if_pos mode, h.strays]
        rfl

lemma accounts_sensed (sees : Sees f g) (h : Accounts t f) : Accounts t g := by
  obtain ⟨arm, roller, sensor, gear, rfl⟩ := sees
  obtain ⟨located, zeroed, mode, strays⟩ := h
  exact ⟨⟨located.position, located.mode⟩, zeroed, mode, strays⟩

lemma located_perform (located : f.Located) (a : Act) : (f.perform a).Located := by
  rcases perform_cases located a with ⟨-, moved⟩ | ⟨-, stayed⟩
  · exact moved.located
  · exact stayed.located located

lemma located_sensed (sees : Sees f g) (located : f.Located) : g.Located := by
  obtain ⟨arm, roller, sensor, gear, rfl⟩ := sees
  exact ⟨located.position, located.mode⟩

lemma located_of_acts (located : f.Located) : (l.foldl perform f).Located :=
  holds_of_acts (t := []) (P := fun _ => Located) (fun act located => located_perform located act) located

/-- The acts of a stretch of work find setpoints if there were none and one of them zeroes the arm. -/
lemma setpoints_of_acts (located : f.Located) : (l.foldl perform f).setpoints =
    f.setpoints.or (if l.any Act.zeroes then some f.found else none) := by
  induction l generalizing f with
  | nil => simp
  | cons a l ih =>
    rw [List.foldl_cons, ih (located_perform located a), List.any_cons]
    rcases perform_cases located a with ⟨zeroes, moved⟩ | ⟨idle, stayed⟩
    · rw [moved.setpoints, zeroes, Bool.true_or, if_pos rfl]
      cases f.setpoints <;> rfl
    · rw [stayed.setpoints, stayed.found, idle, Bool.false_or]

end

section

variable {r : Runner FloorIntake} {w : World}
  {first a b c : Stage (Cycle HangStage) Empty (Runner FloorIntake)} {t l u : List Act}

/-- What is found by zeroing stays for the rest of a run. -/
lemma setpoints_of_run {s : ArmSetpoints} (located : a.2.1.subsystem.Located)
    (known : a.2.1.subsystem.setpoints = some s) (run : acting.Run (Cycle.Sensed Sees) a t b) :
    b.2.1.subsystem.setpoints = some s := by
  refine (holds_of_run (P := fun _ f => f.Located ∧ f.setpoints = some s) ?_ ?_ run
    ⟨located, known⟩).2
  · rintro t f x ⟨located, known⟩
    refine ⟨located_perform located x, ?_⟩
    have same := setpoints_of_acts (l := [x]) located
    rw [known] at same
    exact same
  · rintro t f g ⟨located, known⟩ sees
    refine ⟨located_sensed sees located, ?_⟩
    obtain ⟨arm, roller, sensor, gear, rfl⟩ := sees
    exact known

lemma located_of_run (fresh : r.subsystem.setpoints = none) (nowhere : r.subsystem.position = .unknown)
    (begun : Cycle.start r w = .ok first) (run : acting.Run (Cycle.Sensed Sees) first t a) :
    a.2.1.subsystem.Located := by
  obtain ⟨progress, r', w'⟩ := first
  obtain ⟨rfl, -⟩ := Cycle.start_eq_ok begun
  exact holds_of_run (P := fun _ => Located) (fun x located => located_perform located x)
    (fun located sees => located_sensed sees located) run (located_of_fresh fresh nowhere)

/-- An act that sends the arm somewhere is the last one of its stretch of work. -/
lemma acts_eq_concat {k : Cycle HangStage} {wake : Wake} {act : Act} (h : act ∈ acts k wake r)
    (sends : act.target? ≠ none) : ∃ seen, acts k wake r = seen ++ [act] := by
  have alone : ∀ x, act ∈ [x] → ∃ seen, [x] = seen ++ [act] := by
    intro x hx
    exact ⟨[], by rw [List.mem_singleton.1 hx]; rfl⟩
  have inspects : ∀ r, act ∉ inspections r := by
    intro r seen
    unfold inspections at seen
    split at seen
    · exact sends (by rw [List.mem_singleton.1 seen]; rfl)
    · exact nomatch seen
  cases k with
  | replying => exact nomatch h
  | entering job | handling m job =>
    cases job with
    | rolling | lowered => exact alone _ h
    | raised => exact nomatch h
  | listening =>
    simp only [acts, actsUpon] at h ⊢
    split at h
    · exact absurd (by rw [List.mem_singleton.1 h]; rfl) sends
    · split at h
      · exact absurd h (inspects _)
      · next passed =>
        rw [if_neg passed]
        rcases List.mem_append.1 h with seen | obeyed
        · exact absurd seen (inspects _)
        · unfold actsOn at obeyed ⊢
          split at obeyed
          · exact ⟨_, by rw [List.mem_singleton.1 obeyed]⟩
          · exact nomatch obeyed

/-- Where an act sends the arm, there it is when the stretch of work is over. -/
lemma sent_of_step (located : a.2.1.subsystem.Located) (step : acting.Step a l b) {act : Act}
    {target : ArmPosition} (h : act ∈ l) (sends : act.target? = some target) :
    b.2.1.subsystem.SentTo target := by
  have real : target ≠ .unknown := fun lost => act.target?_ne_unknown (lost ▸ sends)
  rw [subsystem_of_step step]
  cases step with
  | pending => exact nomatch h
  | @woken wait wake k r v w stage looked worked =>
    obtain ⟨seen, noted⟩ := acts_eq_concat h (by rw [sends]; exact nofun)
    have last : acting.notes wait k wake r w = seen ++ [act] := noted
    have before : (seen.foldl perform r.subsystem).Located := located_of_acts located
    have performed : (seen.foldl perform r.subsystem).perform act =
        (seen.foldl perform r.subsystem).directed act.order? (some target) := by
      rw [← sends]
      cases act with
      | hears | inspects => exact nomatch sends
      | obeys | lowers | raises => rfl
    rw [last, List.foldl_append, List.foldl_cons, List.foldl_nil, performed]
    exact sentTo_directed before _ real

/-- The arm is zeroed once. At any moment of a run its position is unknown exactly if there are no
setpoints. A stretch of work leaves setpoints that there are as they are, and finds new ones exactly if it
has an act that needs the arm zeroed: those of what the sensor shows then. They stay for the rest of the
run. Where a command or the macro sends the arm in that stretch, there it is in the end. -/
theorem zeroed_once (fresh : r.subsystem.setpoints = none)
    (nowhere : r.subsystem.position = .unknown) (begun : Cycle.start r w = .ok first)
    (before : acting.Run (Cycle.Sensed Sees) first t a) (step : acting.Step a l b)
    (after : acting.Run (Cycle.Sensed Sees) b u c) :
    (c.2.1.subsystem.position = .unknown ↔ c.2.1.subsystem.setpoints = none) ∧
    b.2.1.subsystem.setpoints = a.2.1.subsystem.setpoints.or
      (if l.any Act.zeroes then some a.2.1.subsystem.found else none) ∧
    (∀ s, b.2.1.subsystem.setpoints = some s → c.2.1.subsystem.setpoints = some s) ∧
    ∀ act ∈ l, ∀ target, act.target? = some target → b.2.1.subsystem.SentTo target := by
  have known := located_of_run fresh nowhere begun before
  have all := ((before.look step).trans after)
  refine ⟨(located_of_run fresh nowhere begun all).position, ?_, fun s found => ?_,
    fun act h target => sent_of_step known step h⟩
  · rw [subsystem_of_step step]
    exact setpoints_of_acts known
  · exact setpoints_of_run (located_of_run fresh nowhere begun (before.look step)) found after

/-- The driver asks for the arm at the floor, before any mode is heard of. -/
def askedDown : List (Routine.Move (Runner FloorIntake)) :=
  [Part.deliver .gearFloor { command := .floor .floorPosition }]

/-- The arm swings to another angle, and the robot is enabled. -/
def swung : List (Routine.Move (Runner FloorIntake)) :=
  .around (fun x => (x.1.modify fun f => { f with sensor := 0 }, x.2)) ::
    mail [{ command := .state .teleoperated }]

lemma sensed_of_swung {change : Runner FloorIntake × World → Runner FloorIntake × World}
    (h : .around change ∈ swung) (x : Runner FloorIntake × World) :
    Cycle.Sensed Sees x (change x) := by
  rcases List.mem_cons.1 h with turned | brought
  · cases turned
    exact ⟨x.1.subsystem.arm.current, x.1.subsystem.roller.current, 0, x.1.subsystem.gear, rfl⟩
  · exact sensed_of_mail brought x

/-- An arm that stands at half a rotation when it is lowered, before any mode is heard of, is zeroed there and
goes to the floor. That the robot is enabled later, with the arm at another angle, changes nothing. -/
theorem lowered_arm_is_zeroed : ∃ first t a l b u c,
    Cycle.start (⟨{ sensor := 2048 }, 0⟩ : Runner FloorIntake) {} = .ok first ∧
    acting.Run (Cycle.Sensed Sees) first t a ∧ a.2.1.subsystem.setpoints = none ∧
    acting.Step a l b ∧ b.2.1.subsystem.position = .floor ∧
    b.2.1.subsystem.arm.value = 0.5 + 1.6195 ∧ acting.Run (Cycle.Sensed Sees) b u c ∧
    c.2.1.subsystem.sensor = 0 ∧
    c.2.1.subsystem.setpoints = some ⟨0.5 + 1.6195, 0.5, 0.5 + 0.5885⟩ := by
  have played : ((Cycle.start (⟨{ sensor := 2048 }, 0⟩ : Runner FloorIntake) {}).toOption.any fun first =>
      (acting.play askedDown first).any fun x => (acting.look? x.2).any fun y =>
        (acting.play swung y.2).any fun z =>
          let f := x.2.2.1.subsystem
          (f.setpoints.isNone && f.found.floor = 0.5 + 1.6195 && f.found.drive = 0.5 &&
            f.found.release = 0.5 + 0.5885) &&
          (y.1.any Act.zeroes && y.1.any fun act => act.target? == some .floor) &&
          z.2.2.1.subsystem.sensor == 0) = true := by
    decide +kernel
  obtain ⟨first, t, a, begun, before, passed⟩ :=
    Routine.exists_run_of_begun (Cycle.Sensed Sees) played fun change h x =>
      sensed_of_deliver (List.mem_singleton.1 h) x
  obtain ⟨⟨l, b⟩, looked, passed⟩ := (Option.any_eq_true _ _).1 passed
  have bounds : ∀ change, .around change ∈ swung → ∀ x, Cycle.Sensed Sees x (change x) :=
    fun change h => sensed_of_swung h
  obtain ⟨u, c, after, passed⟩ := Routine.exists_run_of_play passed bounds
  simp only [Bool.and_eq_true, decide_eq_true_eq, Option.isNone_iff_eq_none, beq_iff_eq] at passed
  obtain ⟨⟨⟨⟨⟨fresh, floor⟩, drive⟩, release⟩, zeroes, lowers⟩, sensor⟩ := passed
  obtain ⟨act, noted, sends⟩ := List.any_eq_true.1 lowers
  have step := Routine.step_of_look? looked
  obtain ⟨-, found, kept, there⟩ := zeroed_once rfl rfl begun before step after
  have setpoints : b.2.1.subsystem.setpoints = some ⟨0.5 + 1.6195, 0.5, 0.5 + 0.5885⟩ := by
    rw [found, fresh, zeroes, ← floor, ← release, ← drive]
    rfl
  obtain ⟨position, -, s, known, value⟩ := there act noted .floor (by simpa using sends)
  cases setpoints.symm.trans known
  refine ⟨first, t, a, l, b, u, c, begun, before, fresh, step, position, ?_, after, sensor,
    kept _ setpoints⟩
  simpa using value

/-- A floor intake as it is built, with an arm that nobody has written to. -/
structure New (f : FloorIntake) : Prop where
  setpoints : f.setpoints = none
  position : f.position = .unknown
  mode : f.arm.mode = .percent
  log : f.arm.log = []

/-- From the moment that a floor intake is built, what is written to its arm is meant as a position, but
for the angles at which inspections hold the arm before it is zeroed: each of those is written to a
controller in percent mode. So everything is meant as a position exactly if there are none. -/
theorem strays_eq (new : r.subsystem.New) (begun : Cycle.start r w = .ok first)
    (run : acting.Run (Cycle.Sensed Sees) first t b) :
    b.2.1.subsystem.arm.strays = holdings (early t) ∧
    ((∀ x ∈ b.2.1.subsystem.arm.log, x.1 = .position) ↔ ∀ act ∈ early t, act.holds? = none) := by
  obtain ⟨progress, r', w'⟩ := first
  obtain ⟨rfl, -⟩ := Cycle.start_eq_ok begun
  have accounts : Accounts t b.2.1.subsystem := by
    refine holds_of_run accounts_perform (fun h sees => accounts_sensed sees h) run ?_
    refine ⟨located_of_fresh new.setpoints new.position, ?_, fun _ => new.mode, ?_⟩
    · rw [new.setpoints]
      rfl
    · unfold Motor.strays
      rw [new.log]
      rfl
  have none_stray : (∀ x ∈ b.2.1.subsystem.arm.log, x.1 = .position) ↔
      b.2.1.subsystem.arm.strays = [] := by
    simp [Motor.strays, List.filter_eq_nil_iff]
  have none_held : holdings (early t) = [] ↔ ∀ act ∈ early t, act.holds? = none := by
    simp [holdings, List.filterMap_eq_nil_iff]
  refine ⟨accounts.strays, ?_⟩
  rw [none_stray, accounts.strays, none_held]

/-- The driver takes over, and asks for the arm at the floor. -/
def lowering : List (Routine.Move (Runner FloorIntake)) :=
  mail [{ command := .state .teleoperated }] ++
    [Part.deliver .gearFloor { command := .floor .floorPosition }]

lemma sensed_of_lowering {change : Runner FloorIntake × World → Runner FloorIntake × World}
    (h : .around change ∈ lowering) (x : Runner FloorIntake × World) :
    Cycle.Sensed Sees x (change x) := by
  rcases List.mem_append.1 h with brought | asked
  · exact sensed_of_mail brought x
  · exact sensed_of_deliver (List.mem_singleton.1 asked) x

/-- An arm that is only lowered after the driver has taken over gets nothing but positions. -/
theorem lowered_arm_gets_positions : ∃ first t b,
    Cycle.start (⟨{}, 0⟩ : Runner FloorIntake) {} = .ok first ∧
    acting.Run (Cycle.Sensed Sees) first t b ∧ b.2.1.subsystem.arm.log ≠ [] ∧
    ∀ x ∈ b.2.1.subsystem.arm.log, x.1 = .position := by
  have played : ((Cycle.start (⟨{}, 0⟩ : Runner FloorIntake) {}).toOption.any fun first =>
      (acting.play lowering first).any fun x => !x.2.2.1.subsystem.arm.log.isEmpty &&
        (early x.1).all fun act => act.holds?.isNone) = true := by
    decide +kernel
  obtain ⟨first, t, b, begun, run, passed⟩ :=
    Routine.exists_run_of_begun (Cycle.Sensed Sees) played fun change h => sensed_of_lowering h
  simp only [Bool.and_eq_true, List.all_eq_true, Option.isNone_iff_eq_none, Bool.not_eq_true',
    List.isEmpty_eq_false_iff] at passed
  obtain ⟨written, idle⟩ := passed
  exact ⟨first, t, b, begun, run, written, (strays_eq ⟨rfl, rfl, rfl, rfl⟩ begun run).2.2 idle⟩

/-- The arm draws too much from the start, and ten messages call for no move of it. -/
def earlyJam : List (Routine.Move (Runner FloorIntake)) :=
  .around (fun x => (x.1.modify fun f => { f with arm := f.arm.draw 45, sensor := 2048 }, x.2)) ::
    mail (List.replicate 10 { command := .floor .stop })

lemma sensed_of_earlyJam {change : Runner FloorIntake × World → Runner FloorIntake × World}
    (h : .around change ∈ earlyJam) (x : Runner FloorIntake × World) :
    Cycle.Sensed Sees x (change x) := by
  rcases List.mem_cons.1 h with jammed | brought
  · cases jammed
    exact ⟨45, x.1.subsystem.roller.current, 2048, x.1.subsystem.gear, rfl⟩
  · exact sensed_of_mail brought x

/-- Not everything that is written to the arm is meant as a position. -/
theorem exists_stray : ¬ ∀ {r : Runner FloorIntake} {w : World}
    {first b : Stage (Cycle HangStage) Empty (Runner FloorIntake)} {t : List Act},
    r.subsystem.New → Cycle.start r w = .ok first → acting.Run (Cycle.Sensed Sees) first t b →
    ∀ x ∈ b.2.1.subsystem.arm.log, x.1 = .position := by
  intro meant
  have played : ((Cycle.start (⟨{}, 0⟩ : Runner FloorIntake) {}).toOption.any fun first =>
      (acting.play earlyJam first).any fun x =>
        x.2.2.1.subsystem.arm.log.any fun y => y.1 == .percent) = true := by
    decide +kernel
  obtain ⟨first, t, b, begun, run, passed⟩ := Routine.exists_run_of_begun (Cycle.Sensed Sees) played
    fun change h => sensed_of_earlyJam h
  obtain ⟨x, written, stray⟩ := List.any_eq_true.1 passed
  have position := meant ⟨rfl, rfl, rfl, rfl⟩ begun run x written
  rw [position] at stray
  cases stray

end

end FloorIntake

end MatchRobot
