import MatchRobot.Proofs.Subsystem.Steady

/-!
# The guard of the arm

A safety check that finds too much current in the arm of the floor intake tells the arm to stay where its
sensor sees it. The same check then looks for a gear, and if one lies behind the roller while the arm is
down, it lifts the arm as if nothing had happened: the hold is overwritten by the drive position.

Only an arm that has been zeroed is ever known to be down (`FloorIntake.Oriented`, which every run keeps),
so the drive position is the one that was found at that time. `FloorIntake.hold_iff` says exactly when a
hold survives its check.
-/

namespace MatchRobot

namespace FloorIntake

/-- Whether the check lifts the arm: a gear has arrived while the arm is down. -/
def lifts (f : FloorIntake) : Bool :=
  f.gear && f.position == .floor

/-- The arm is told to stay where it is: at the rotations that its sensor shows. -/
def hold (f : FloorIntake) : FloorIntake :=
  { f with arm := f.arm.set (Single.ofInt32 f.sensor / f.config.countsPerRotation) }

/-- An arm that was never zeroed is nowhere in particular. -/
def Oriented (f : FloorIntake) : Prop :=
  f.setpoints = none → f.position = .unknown

/-! ### Orientation -/

/-- Every move begins with zeroing, so the setpoints are known afterwards. -/
lemma setpoints_moveArm (f : FloorIntake) (target : ArmPosition) (w : World) :
    (f.moveArm target w).1.setpoints ≠ none := by
  have swung : ∀ (g : FloorIntake) (s : ArmSetpoints) (position : ArmPosition) (u : World),
      (g.swing s position u).1.setpoints = g.setpoints := by
    intro g s position u
    unfold swing
    split <;> rfl
  unfold moveArm
  split
  · next s known =>
    rw [swung, known]
    exact nofun
  · rw [swung]
    exact Option.ne_none_iff_exists'.2 ⟨_, swung _ _ .release _⟩

lemma oriented_moveArm (f : FloorIntake) (target : ArmPosition) (w : World) :
    (f.moveArm target w).1.Oriented :=
  fun unknown => absurd unknown (setpoints_moveArm f target w)

lemma oriented_enter {f : FloorIntake} (h : f.Oriented) (m : Mode) (w : World) :
    (f.enter m w).1.Oriented := by
  unfold enter
  split
  · intro unknown
    have known : (f.zero w).2.1.setpoints ≠ none := by
      simp [zero, swing, ArmSetpoints.get?]
    exact absurd unknown known
  · exact h

lemma oriented_check {f : FloorIntake} (h : f.Oriented) (w : World) :
    (f.check w).2.1.Oriented := by
  have guarded : (f.guardArm w).2.1.Oriented := by
    unfold guardArm
    simp only
    split <;> exact h
  unfold check liftGear
  simp only
  split
  · exact oriented_moveArm _ _ _
  · exact guarded

lemma oriented_hang {f : FloorIntake} {stage : HangStage} {w : World}
    {next : Stage HangStage Reply FloorIntake} (h : f.Oriented) (done : f.hang stage w = .ok next) :
    next.2.1.Oriented := by
  cases stage with
  | rolling | lowered =>
    obtain ⟨wait, -, done⟩ := bind_eq_ok.1 done
    cases done
    exact oriented_moveArm _ _ _
  | raised =>
    cases done
    exact h

lemma oriented_handle {f : FloorIntake} {c : Command} {w : World}
    {next : Stage HangStage Reply FloorIntake} (h : f.Oriented) (done : f.handle c w = .ok next) :
    next.2.1.Oriented := by
  unfold handle at done
  split at done
  · next command =>
    cases command with
    | hangGear =>
      obtain ⟨wait, -, done⟩ := bind_eq_ok.1 done
      cases done
      exact h
    | pullIn | pushOut | stop =>
      cases done
      exact h
    | _ =>
      cases done
      exact oriented_moveArm _ _ _
  · cases done
    exact h

/-- What is known of the floor intake, whatever it does. -/
def orientation : Ledger FloorIntake Unit where
  note g _ := g
  rest _ f := f.Oriented
  busy _ _ f := f.Oriented

/-- What the surroundings may do to the floor intake: whatever they like to its devices. -/
def Handed (f g : FloorIntake) : Prop :=
  ∃ h, g = Subsystem.attach f h

lemma oriented_leads {next : Stage HangStage Reply FloorIntake} (h : next.2.1.Oriented) :
    next.1.Leads (fun _ => next.2.1.Oriented) fun _ => next.2.1.Oriented := by
  obtain ⟨progress, g, u⟩ := next
  cases progress <;> exact h

lemma steady_orientation : Subsystem.Steady orientation Handed Sweeps where
  posted := rfl
  quiet := rfl
  enter w _ h := ⟨_, _, rfl, oriented_enter h _ _⟩
  check w h := oriented_check h w
  refuse _ h _ := oriented_check h _
  handle _ h done := oriented_leads (oriented_handle h done)
  resume h done := oriented_leads (oriented_hang h done)
  sweep := by
    intro g f stage wake w next sweeps h done
    cases stage with
    | raised =>
      cases done
      exact fun _ => h
    | rolling | lowered => exact sweeps.elim
  sense := by
    rintro g f - h ⟨u, rfl⟩
    exact h
  feel := by
    rintro g f - job h ⟨u, rfl⟩
    exact h

/-! ### The check -/

variable {f : FloorIntake}

/-- A check that finds too much current holds the arm, before it looks for a gear. -/
lemma check_of_excess (excess : f.config.maxArmCurrent ≤ f.arm.current) (w : World) :
    ∃ u, f.check w = (true, f.hold.liftGear u) := by
  unfold check guardArm
  simp only [if_pos excess]
  exact ⟨_, rfl⟩

/-- What the look for a gear makes of the arm. -/
lemma liftGear_cases (f : FloorIntake) (w : World) :
    (f.lifts = false ∧ (f.liftGear w).1 = f) ∨
      (f.lifts = true ∧ ∀ s, f.setpoints = some s →
        (f.liftGear w).1 = { f with arm := f.arm.set s.drive, position := .drive }) := by
  unfold liftGear lifts
  cases f.gear && f.position == .floor with
  | false => exact .inl ⟨rfl, rfl⟩
  | true =>
    refine .inr ⟨rfl, fun s known => ?_⟩
    simp only [if_true, moveArm, known, swing, ArmSetpoints.get?]

/-- All through a run, an arm that was never zeroed is nowhere in particular. -/
lemma oriented_of_run {r : Runner FloorIntake} {w : World}
    {first b : Stage (Cycle HangStage) Empty (Runner FloorIntake)} {t : List Deed}
    (oriented : r.subsystem.Oriented) (begun : Cycle.start r w = .ok first)
    (run : (Cycle.routine FloorIntake).Run (Cycle.Sensed Handed) first t b) :
    b.2.1.subsystem.Oriented := by
  obtain ⟨progress, r', w'⟩ := first
  obtain ⟨rfl, rfl, limit, rfl⟩ := Cycle.start_eq_ok begun
  have kept : Cycle.Kept orientation (t.foldl orientation.note ()) b := by
    refine Cycle.kept_of_run FloorIntake.modest steady_orientation run ?_ ⟨_, _, rfl, oriented⟩
    intro wait c h
    cases h
    exact .listening
  obtain ⟨wait, c, -, holds⟩ := kept
  cases c with
  | listening | replying | handling => exact holds
  | entering => exact holds.elim

/-- In the course of any run, a check that finds too much current refuses the message in hand. When that
cycle is over the arm has been told to stay where it is, and nothing else, exactly if no gear lies behind
the roller of an arm that is down. Otherwise it has been told so and then to go to the drive position. -/
theorem hold_iff {r : Runner FloorIntake} {w : World}
    {first b : Stage (Cycle HangStage) Empty (Runner FloorIntake)} {t : List Deed}
    (oriented : r.subsystem.Oriented) (begun : Cycle.start r w = .ok first)
    (run : (Cycle.routine FloorIntake).Run (Cycle.Sensed Handed) first t b) {wake : Wake}
    (news : wake.message.isMode = false) (due : Cycle.checkDue (b.2.1.loops + 1) = true)
    (excess : b.2.1.subsystem.config.maxArmCurrent ≤ b.2.1.subsystem.arm.current) (v : World) :
    ∃ g u, Cycle.resume .listening wake b.2.1 v =
        .ok (Cycle.answer wake.message .error ⟨g, b.2.1.loops + 1⟩ u) ∧
      (g = b.2.1.subsystem.hold ↔ b.2.1.subsystem.lifts = false) ∧
      (b.2.1.subsystem.lifts = true → ∃ s, b.2.1.subsystem.setpoints = some s ∧
        g = { b.2.1.subsystem.hold with
          arm := b.2.1.subsystem.hold.arm.set s.drive, position := .drive }) := by
  have known := oriented_of_run oriented begun run
  obtain ⟨progress, ⟨f, loops⟩, w'⟩ := b
  obtain ⟨u, checked⟩ := check_of_excess excess v
  have inspected : Cycle.inspect ⟨f, loops + 1⟩ v =
      (true, ⟨(f.hold.liftGear u).1, loops + 1⟩, (f.hold.liftGear u).2) := by
    unfold Cycle.inspect
    simp only at due
    have check : Subsystem.check f v = (true, f.hold.liftGear u) := checked
    simp only [due, if_true, check]
  have refused : Cycle.resume .listening wake ⟨f, loops⟩ v = .ok (Cycle.answer wake.message .error
      ⟨(f.hold.liftGear u).1, loops + 1⟩
      ((f.hold.liftGear u).2.notice (.cutoff stamp wake.message.command))) := by
    change Cycle.take wake.message ⟨f, loops⟩ v = _
    rw [Cycle.take_of_isMode_eq_false news]
    unfold Cycle.treat
    rw [inspected]
    rfl
  refine ⟨_, _, refused, ?_⟩
  have same : f.hold.lifts = f.lifts := rfl
  rcases liftGear_cases f.hold u with ⟨down, held⟩ | ⟨up, lifted⟩
  · rw [same] at down
    exact ⟨iff_of_true held down, fun up => absurd (down.symm.trans up) Bool.false_ne_true⟩
  · rw [same] at up
    obtain ⟨s, zeroed⟩ : ∃ s, f.setpoints = some s := by
      refine Option.ne_none_iff_exists'.1 fun unknown => ?_
      have nowhere : f.position = .unknown := known unknown
      simp [lifts, nowhere] at up
    have there := lifted s zeroed
    refine ⟨iff_of_false (fun held => ?_) (by simp [up]), fun _ => ⟨s, zeroed, there⟩⟩
    -- the lift is a second write
    have writes := congrArg (fun g => g.arm.writes) (there.symm.trans held)
    exact absurd writes (Nat.succ_ne_self _)

/-- The gear lies behind the roller, the arm has been swung away and draws too much. -/
def jammed : Routine.Move (Runner FloorIntake) :=
  .around fun x => (x.1.modify fun f =>
    { f with arm := f.arm.draw 45, sensor := 4096, gear := true }, x.2)

/-- An arm is sent to the floor, eight cycles after its intake was switched on, and jams there. -/
def jamming : List (Routine.Move (Runner FloorIntake)) :=
  [Part.deliver .gearFloor { command := .floor .floorPosition }, .look, jammed]

lemma handed_of_jamming {change : Runner FloorIntake × World → Runner FloorIntake × World}
    (h : .around change ∈ jamming) (x : Runner FloorIntake × World) :
    Cycle.Sensed Handed x (change x) := by
  simp only [jamming, jammed, Part.deliver, List.mem_cons, reduceCtorEq, Routine.Move.around.injEq,
    List.not_mem_nil, or_false, false_or] at h
  rcases h with rfl | rfl
  · exact ⟨_, (Subsystem.attach_self _).symm⟩
  · exact ⟨{ x.1.subsystem with
      arm := x.1.subsystem.arm.draw 45, sensor := 4096, gear := true }, rfl⟩

/-- The gear behind the roller lifts the jammed arm. -/
theorem jammed_arm_is_lifted : ∃ first t b,
    Cycle.start (⟨{}, 8⟩ : Runner FloorIntake) {} = .ok first ∧
    (Cycle.routine FloorIntake).Run (Cycle.Sensed Handed) first t b ∧ ∃ g u,
    Cycle.resume .listening .rang b.2.1 {} =
      .ok (Cycle.answer .timeout .error ⟨g, b.2.1.loops + 1⟩ u) ∧ g ≠ b.2.1.subsystem.hold := by
  have played : ((Cycle.start (⟨{}, 8⟩ : Runner FloorIntake) {}).toOption.any fun first =>
      ((Cycle.routine FloorIntake).play jamming first).any fun x =>
        Cycle.checkDue (x.2.2.1.loops + 1) && x.2.2.1.subsystem.lifts &&
          decide (x.2.2.1.subsystem.config.maxArmCurrent ≤ x.2.2.1.subsystem.arm.current)) = true := by
    decide +kernel
  obtain ⟨first, t, b, begun, run, passed⟩ :=
    Routine.exists_run_of_begun (Cycle.Sensed Handed) played fun change h => handed_of_jamming h
  simp only [Bool.and_eq_true, decide_eq_true_eq] at passed
  obtain ⟨⟨due, lifts⟩, excess⟩ := passed
  have fresh : (⟨{}, 8⟩ : Runner FloorIntake).subsystem.Oriented := fun _ => rfl
  have news : Wake.rang.message.isMode = false := rfl
  obtain ⟨g, u, refused, held, -⟩ := hold_iff fresh begun run news due excess {}
  refine ⟨first, t, b, begun, run, g, u, refused, fun same => ?_⟩
  exact absurd ((held.1 same).symm.trans lifts) Bool.false_ne_true

/-- Too much current does not always leave the arm where its sensor sees it. -/
theorem exists_lift_over_current : ¬ ∀ {r : Runner FloorIntake} {w : World}
    {first b : Stage (Cycle HangStage) Empty (Runner FloorIntake)} {t : List Deed} {stage},
    r.subsystem.Oriented → Cycle.start r w = .ok first →
    (Cycle.routine FloorIntake).Run (Cycle.Sensed Handed) first t b →
    Cycle.checkDue (b.2.1.loops + 1) = true →
    b.2.1.subsystem.config.maxArmCurrent ≤ b.2.1.subsystem.arm.current →
    Cycle.resume .listening .rang b.2.1 b.2.2 = .ok stage →
    (stage.2.1.subsystem.arm.value == b.2.1.subsystem.rotations) = true := by
  intro stays
  have played : ((Cycle.start (⟨{}, 8⟩ : Runner FloorIntake) {}).toOption.any fun first =>
      ((Cycle.routine FloorIntake).play jamming first).any fun x =>
        Cycle.checkDue (x.2.2.1.loops + 1) &&
          decide (x.2.2.1.subsystem.config.maxArmCurrent ≤ x.2.2.1.subsystem.arm.current) &&
          (Cycle.resume .listening .rang x.2.2.1 x.2.2.2).toOption.any fun stage =>
            !(stage.2.1.subsystem.arm.value == x.2.2.1.subsystem.rotations)) = true := by
    decide +kernel
  obtain ⟨first, t, b, begun, run, passed⟩ :=
    Routine.exists_run_of_begun (Cycle.Sensed Handed) played fun change h => handed_of_jamming h
  simp only [Bool.and_eq_true, decide_eq_true_eq] at passed
  obtain ⟨⟨due, excess⟩, lifted⟩ := passed
  cases resumed : Cycle.resume .listening .rang b.2.1 b.2.2 with
  | error fault =>
    rw [resumed] at lifted
    cases lifted
  | ok stage =>
    rw [resumed] at lifted
    have fresh : (⟨{}, 8⟩ : Runner FloorIntake).subsystem.Oriented := fun _ => rfl
    have there : (!(stage.2.1.subsystem.arm.value == b.2.1.subsystem.rotations)) = true := lifted
    rw [stays fresh begun run due excess resumed] at there
    cases there

end FloorIntake

end MatchRobot
