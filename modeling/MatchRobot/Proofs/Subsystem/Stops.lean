import MatchRobot.Proofs.Subsystem.Cutoff
import MatchRobot.Proofs.Subsystem.TimedMoves

/-!
# Stops

Every part with motors has a stop of its own. A cycle that takes it up leaves the motors at rest also when
its check cuts the power and the message is refused, for then the check itself has stopped them. There is
one exception: the check of the floor intake watches the arm, and knows nothing of the roller. A stop that
it refuses is lost, and the roller runs on if it ran before (`Part.stop_of_run`).

The floor intake also throws stops away, with all that has arrived during the macro that hangs a gear. That
does no harm, because the roller stands still by then.
-/

namespace MatchRobot

namespace Part

/-- Whether a command is the stop of a part. -/
def stops : Part → Command → Bool
  | drivetrain, .drive .stop | climber, .climber .stop | hopper, .hopper .stop | gearIntake, .gear .stop
  | gearFloor, .floor .stop => true
  | _, _ => false

lemma isMode_of_stops {p : Part} {m : Message} (h : p.stops m.command = true) : m.isMode = false := by
  obtain ⟨command, box, call⟩ := m
  cases command with
  | state mode => cases p <;> cases h
  | _ => rfl

/-- A part that comes to no end of a cycle that stops it: the drivetrain with an unsound voltage. -/
def Doomed : (p : Part) → p.State → Prop
  | drivetrain, d => Drivetrain.Unsound d.battery
  | autonomous, _ | climber, _ | hopper, _ | gearIntake, _ | gearFloor, _ => False

/-- Whether the next cycle of a part cuts the power, if it takes up a message that is no mode. -/
def cuts (p : Part) (r : Runner p.State) : Bool :=
  Cycle.checkDue (r.loops + 1) && p.trips r.subsystem

/-! ### One cycle -/

/-- A stop that is handled stops the motors. -/
lemma handle_stop {p : Part} {c : Command} (stop : p.stops c = true) (s : p.State) (w : World) :
    p.Doomed s ∧ Subsystem.handle c s w = .error .emptyInterval ∨
      ¬ p.Doomed s ∧ ∃ t, Subsystem.handle c s w = .ok (replied .ok t w) ∧ p.AtRest t := by
  unfold stops at stop
  split at stop
  · let stopped := { s with session := .idle }.drive w.now .stop
    have idle : stopped.session.isIdle = true := rfl
    by_cases unsound : Drivetrain.Unsound s.battery
    · exact .inl ⟨unsound, Drivetrain.settle_of_unsound (d := stopped) idle unsound⟩
    · obtain ⟨t, settled, watched, -⟩ :=
        Drivetrain.exists_settle (d := stopped) w fun _ => unsound
      have still := watched.still (Drivetrain.still_drive w.now rfl)
      exact .inr ⟨unsound, t, settled, by simp [AtRest, outputs, still.left, still.right]⟩
  · exact .inr ⟨id, _, rfl, Lever.atRest_climb s⟩
  · exact .inr ⟨id, _, rfl, Lever.atRest_run s⟩
  · exact .inr ⟨id, _, rfl, atRest_gearStop s⟩
  · exact .inr ⟨id, _, rfl, Lever.atRest_roll s⟩
  · cases stop

section

variable {p : Part} {r : Runner p.State}

/-- No check makes a voltage sound or unsound. -/
lemma doomed_check (s : p.State) (w : World) : p.Doomed (Subsystem.check s w).2.1 ↔ p.Doomed s := by
  cases p with
  | drivetrain =>
    have same : (s.check w).2.1.battery = s.battery := (Drivetrain.tuned_position s w.now).battery
    exact iff_of_eq (congrArg Drivetrain.Unsound same)
  | autonomous | climber | hopper | gearIntake | gearFloor => exact Iff.rfl

lemma not_doomed_of_cuts (cut : p.cuts r = true) : ¬ p.Doomed r.subsystem := by
  cases p with
  | drivetrain => simp [cuts, trips] at cut
  | autonomous | climber | hopper | gearIntake | gearFloor => exact id

/-- The inspection of the next cycle cuts the power exactly then. -/
lemma inspect_eq_cuts (p : Part) (r : Runner p.State) (v : World) :
    (Cycle.inspect { r with loops := r.loops + 1 } v).1 = p.cuts r := by
  cases due : Cycle.checkDue (r.loops + 1) with
  | false =>
    rw [Cycle.inspect_of_not_due (r := { r with loops := r.loops + 1 }) due, cuts, due, Bool.false_and]
  | true =>
    obtain ⟨u, inspected⟩ := Cycle.inspect_of_due (r := { r with loops := r.loops + 1 }) due v
    rw [inspected, p.check_eq_trips, cuts, due, Bool.true_and]

/-- An inspection that cuts the power. -/
lemma inspect_of_cuts (cut : p.cuts r = true) (v : World) : ∃ s u,
    Cycle.inspect { r with loops := r.loops + 1 } v = (true, ⟨s, r.loops + 1⟩, u) ∧
      (p.AtRest s ↔ (p = gearFloor → p.AtRest r.subsystem)) := by
  obtain ⟨due, tripped⟩ := Bool.and_eq_true_iff.1 cut
  obtain ⟨u, inspected⟩ := Cycle.inspect_of_due (r := { r with loops := r.loops + 1 }) due v
  rw [p.check_eq_trips, tripped] at inspected
  refine ⟨_, u, inspected, ?_⟩
  cases p with
  | climber | hopper | gearIntake =>
    exact iff_of_true (atRest_of_trips rfl tripped v) nofun
  | gearFloor =>
    have same : (Subsystem.check r.subsystem v).2.1.roller = r.subsystem.roller :=
      FloorIntake.roller_check r.subsystem v
    have rests : gearFloor.AtRest (Subsystem.check r.subsystem v).2.1 ↔
        gearFloor.AtRest r.subsystem := by
      rw [AtRest, AtRest, outputs, outputs, same]
    exact ⟨fun h _ => rests.1 h, fun h => rests.2 (h rfl)⟩
  | drivetrain | autonomous => cases tripped

/-- Any other inspection. -/
lemma inspect_of_not_cuts (passed : p.cuts r = false) (v : World) : ∃ s u,
    Cycle.inspect { r with loops := r.loops + 1 } v = (false, ⟨s, r.loops + 1⟩, u) ∧
      (p.Doomed s ↔ p.Doomed r.subsystem) := by
  cases due : Cycle.checkDue (r.loops + 1) with
  | false =>
    exact ⟨_, v, Cycle.inspect_of_not_due (r := { r with loops := r.loops + 1 }) due v, Iff.rfl⟩
  | true =>
    rw [cuts, due, Bool.true_and] at passed
    obtain ⟨u, inspected⟩ := Cycle.inspect_of_due (r := { r with loops := r.loops + 1 }) due v
    rw [p.check_eq_trips, passed] at inspected
    exact ⟨_, u, inspected, doomed_check r.subsystem v⟩

/-- A cycle that takes up the stop of its part. -/
lemma stop_cases {wake : Wake} (stop : p.stops wake.message.command = true) (v : World) :
    p.Doomed r.subsystem ∧ Cycle.resume .listening wake r v = .error .emptyInterval ∨
      ¬ p.Doomed r.subsystem ∧ ∃ s u, Cycle.resume .listening wake r v =
          .ok (Cycle.answer wake.message (if p.cuts r then .error else .ok) ⟨s, r.loops + 1⟩ u) ∧
        (p.AtRest s ↔ (p = gearFloor → p.cuts r = true → p.AtRest r.subsystem)) := by
  have news := isMode_of_stops stop
  cases cut : p.cuts r with
  | true =>
    obtain ⟨s, u, inspected, rests⟩ := inspect_of_cuts cut v
    refine .inr ⟨not_doomed_of_cuts cut, s, _, Cycle.resume_of_tripped news inspected, ?_⟩
    simpa using rests
  | false =>
    obtain ⟨s, u, inspected, doomed⟩ := inspect_of_not_cuts cut v
    rw [Cycle.resume_of_passed news inspected]
    rcases handle_stop stop s (Cycle.announce (Subsystem.stamp p.State) wake.message u) with
      ⟨fails, handled⟩ | ⟨works, t, handled, rests⟩
    · exact .inl ⟨doomed.1 fails, by rw [handled]; rfl⟩
    · refine .inr ⟨fun fails => works (doomed.2 fails), t, _, by rw [handled]; rfl, ?_⟩
      exact iff_of_true rests nofun

end

/-! ### Whole runs -/

section

variable {p : Part} {r : Runner p.State} {w : World}
  {first b c : Stage (Cycle p.Job) Empty (Runner p.State)} {t l : List Deed}

/-- Only the floor intake throws messages away. -/
lemma eq_gearFloor_of_sweeping {phase : Cycle p.Job} (h : Cycle.Sweeping p.Sweeps phase) :
    p = gearFloor := by
  cases p with
  | gearFloor => rfl
  | drivetrain | autonomous | climber | hopper | gearIntake => cases phase <;> exact h.elim

/-- The macro that hangs a gear has stopped the roller before it throws messages away. -/
lemma atRest_of_dropped (begun : Cycle.start r w = .ok first)
    (run : (Cycle.routine p.State).Run (Cycle.Sensed p.Senses) first t b)
    (step : (Cycle.routine p.State).Step b l c) (dropped : Deed.dropped l ≠ []) :
    p.AtRest c.2.1.subsystem := by
  obtain ⟨progress, r, w⟩ := first
  obtain ⟨rfl, rfl, limit, rfl⟩ := Cycle.start_eq_ok begun
  have fit := Cycle.fits_of_run p.modest run fun wait c h => by cases h; exact .listening
  cases step with
  | pending looked => exact absurd rfl dropped
  | @woken wait wake phase r' v u _ looked worked =>
    have sweeping : Cycle.Sweeping p.Sweeps phase := by
      by_contra busy
      rw [Cycle.routine, Cycle.dropped_deeds] at dropped
      exact dropped ((Cycle.queue_of_runOn p.modest (fit _ _ rfl) worked).2 busy)
    obtain rfl := eq_gearFloor_of_sweeping sweeping
    -- nothing needs to be known of the roller when the run begins
    have begins : Cycle.Kept (Lever.ledger .roller) ⟨false, true, false⟩
        (.waiting (.receive Part.gearFloor.address limit) .listening, r, w) :=
      ⟨_, _, rfl, Lever.rest_of_runs .roller rfl rfl⟩
    obtain ⟨wait', phase', at_, holds⟩ := Cycle.kept_of_run FloorIntake.modest Lever.roller_steady run
      (fun wait c h => by cases h; exact .listening) begins
    cases at_
    cases phase with
    | listening | replying => exact sweeping.elim
    | entering => exact holds.elim
    | handling m job =>
      cases job with
      | rolling | lowered => exact sweeping.elim
      | raised =>
        obtain ⟨progress, r'', u'⟩ := c
        obtain ⟨rfl, -⟩ := Cycle.calm_conclude worked
        exact holds

/-- In the course of any run, a cycle that takes up the stop of its part ends with the motors at rest,
unless it is the floor intake that refuses a stop: then the roller stands still only if it did so before.
Only a drivetrain with an unsound voltage comes to no end of such a cycle. Stops that are thrown away come
when the motors are at rest. -/
theorem stop_of_run (begun : Cycle.start r w = .ok first)
    (run : (Cycle.routine p.State).Run (Cycle.Sensed p.Senses) first t b) :
    (∀ (wake : Wake) (v : World), p.stops wake.message.command = true →
      p.Doomed b.2.1.subsystem ∧ Cycle.resume .listening wake b.2.1 v = .error .emptyInterval ∨
        ¬ p.Doomed b.2.1.subsystem ∧ ∃ s u, Cycle.resume .listening wake b.2.1 v =
            .ok (Cycle.answer wake.message (if p.cuts b.2.1 then .error else .ok)
              ⟨s, b.2.1.loops + 1⟩ u) ∧
          (p.AtRest s ↔ (p = gearFloor → p.cuts b.2.1 = true → p.AtRest b.2.1.subsystem))) ∧
      ∀ {l c}, (Cycle.routine p.State).Step b l c → Deed.dropped l ≠ [] → p.AtRest c.2.1.subsystem :=
  ⟨fun _ v stop => stop_cases stop v, fun step => atRest_of_dropped begun run step⟩

end

/-- A hopper that runs is stopped. -/
theorem hopper_stops : ∃ first t b, Cycle.start (⟨{}, 0⟩ : Runner Hopper) {} = .ok first ∧
    (Cycle.routine Hopper).Run (Cycle.Sensed hopper.Senses) first t b ∧
    ¬ hopper.AtRest b.2.1.subsystem ∧ ∀ v, ∃ s u,
      Cycle.resume .listening (.received { command := .hopper .stop } none) b.2.1 v =
          .ok (Cycle.answer { command := .hopper .stop } (if hopper.cuts b.2.1 then .error else .ok)
            ⟨s, b.2.1.loops + 1⟩ u) ∧ hopper.AtRest s := by
  have played : ((Cycle.start (⟨{}, 0⟩ : Runner Hopper) {}).toOption.any fun first =>
      ((Cycle.routine Hopper).play (hopper.strain (.hopper (.up 1)) id) first).any fun x =>
        !decide (hopper.AtRest x.2.2.1.subsystem)) = true := by
    decide +kernel
  obtain ⟨first, t, b, begun, run, runs⟩ := Routine.exists_run_of_begun
    (Cycle.Sensed hopper.Senses) played fun change => senses_of_strain (Senses.refl hopper)
  refine ⟨first, t, b, begun, run, by simpa using runs, fun v => ?_⟩
  have stops := (stop_of_run (p := hopper) begun run).1
  rcases stops (.received { command := .hopper .stop } none) v rfl with ⟨doomed, -⟩ | ⟨-, s, u, h, rests⟩
  · exact doomed.elim
  · exact ⟨s, u, h, rests.2 nofun⟩

/-- The arm of a floor intake draws too much. -/
def armJammed (f : FloorIntake) : FloorIntake :=
  { f with arm := f.arm.draw 45 }

lemma senses_armJammed (f : FloorIntake) : gearFloor.Senses f (armJammed f) :=
  ⟨⟨armJammed f, rfl⟩, rfl⟩

/-- The stop that a part takes up does not always stop it. -/
theorem refused_stop_is_lost : ¬ ∀ (p : Part) (r : Runner p.State) (w : World) first t b l c,
    Cycle.start r w = .ok first → (Cycle.routine p.State).Run (Cycle.Sensed p.Senses) first t b →
    (Cycle.routine p.State).Step b l c → (∃ m ∈ Deed.taken l, p.stops m.command = true) →
    p.AtRest c.2.1.subsystem := by
  intro claim
  have played : ((Cycle.start (⟨{}, 0⟩ : Runner FloorIntake) {}).toOption.any fun first =>
      ((Cycle.routine FloorIntake).play (gearFloor.strain (.floor (.pullIn 0.5)) armJammed ++
          [deliver gearFloor { command := .floor .stop }]) first).any fun x =>
        ((Cycle.routine FloorIntake).look? x.2).any fun y =>
          (Deed.taken y.1).any (fun m => gearFloor.stops m.command) &&
            !decide (gearFloor.AtRest y.2.2.1.subsystem)) = true := by
    decide +kernel
  obtain ⟨first, t, b, begun, run, passed⟩ := Routine.exists_run_of_begun
    (Cycle.Sensed gearFloor.Senses) played fun change h => by
      rcases List.mem_append.1 h with h | h
      · exact senses_of_strain senses_armJammed h
      · cases List.mem_singleton.1 h
        exact fun x => Senses.refl gearFloor _
  obtain ⟨⟨l, c⟩, looked, passed⟩ := (Option.any_eq_true _ _).1 passed
  simp only [Bool.and_eq_true, List.any_eq_true, Bool.not_eq_true', decide_eq_false_iff_not] at passed
  obtain ⟨stop, runs⟩ := passed
  exact runs (claim gearFloor _ _ first t b l c begun run (Routine.step_of_look? looked) stop)

end Part

end MatchRobot
