import MatchRobot.Proofs.Number.Single
import MatchRobot.Proofs.Subsystem.Levers

/-!
# What the cutoff sees

The climber, the hopper and the gear intake cut their power when a motor draws too much. The check runs
before the message of its cycle, so a cycle either refuses its message, whatever it is, and ends with the
motors at rest, or it handles the message in the state that it found (`Cycle.resume_of_tripped`,
`Cycle.resume_of_passed`).

A check samples one motor. That is enough for the hopper and the gear intake, which have no other. The
climber drives two, and the second may draw what it likes: `Part.cutoff_cases` says what a cycle does
whose check runs while any motor draws too much.
-/

namespace MatchRobot

namespace Cycle

variable {σ : Type} [Subsystem σ] {r r' : Runner σ} {wake : Wake} {v w : World}

/-- A cycle whose check cuts the power refuses its message. -/
lemma resume_of_tripped (news : wake.message.isMode = false)
    (tripped : inspect { r with loops := r.loops + 1 } v = (true, r', w)) :
    resume .listening wake r v = .ok (answer wake.message .error r'
      (w.notice (.cutoff (Subsystem.stamp σ) wake.message.command))) := by
  change take wake.message r v = _
  rw [take_of_isMode_eq_false news, treat, tripped]
  rfl

/-- Any other cycle handles it. -/
lemma resume_of_passed (news : wake.message.isMode = false)
    (passed : inspect { r with loops := r.loops + 1 } v = (false, r', w)) :
    resume .listening wake r v = (do
      let stage ← Subsystem.handle wake.message.command r'.subsystem
        (announce (Subsystem.stamp σ) wake.message w)
      return conclude wake.message (handled r' stage)) := by
  change take wake.message r v = _
  rw [take_of_isMode_eq_false news, treat, passed]
  simp only [Bool.false_eq_true, if_false, bind_assoc, pure_bind]

/-- A check that is due decides on what its part looks like afterwards. -/
lemma inspect_of_due (due : checkDue r.loops = true) (v : World) :
    ∃ u, inspect r v = ((Subsystem.check r.subsystem v).1,
      { r with subsystem := (Subsystem.check r.subsystem v).2.1 }, u) := by
  simp only [inspect, due, if_true]
  exact ⟨_, rfl⟩

lemma inspect_of_not_due (idle : checkDue r.loops = false) (v : World) :
    inspect r v = (false, r, v) := by
  simp only [inspect, idle, Bool.false_eq_true, if_false]

end Cycle

namespace Part

/-- Whether the check of a part stops all its motors when it finds too much current. -/
def cutsOut : Part → Bool
  | climber | hopper | gearIntake => true
  | drivetrain | autonomous | gearFloor => false

/-- What the motors of a part draw. -/
def currents : (p : Part) → p.State → List Float32
  | climber, c => [c.first.current, c.second.current]
  | hopper, h => [h.motor.current]
  | gearIntake, g => [g.motor.current]
  | gearFloor, f => [f.arm.current, f.roller.current]
  | drivetrain, _ | autonomous, _ => []

/-- What the check of a part samples of that. -/
def sampled : (p : Part) → p.State → List Float32
  | climber, c => [c.first.current]
  | hopper, h => [h.motor.current]
  | gearIntake, g => [g.motor.current]
  | gearFloor, f => [f.arm.current]
  | drivetrain, _ | autonomous, _ => []

/-- The current at which a part cuts its power. -/
def cutoff : (p : Part) → p.State → Float32
  | climber, c => c.config.maxCurrent
  | gearIntake, g => g.config.maxCurrent
  | gearFloor, f => f.config.maxArmCurrent
  | hopper, _ | drivetrain, _ | autonomous, _ => Settings.maxCurrent

/-- Whether a check finds too much current. The hopper takes no number for too much. -/
def trips : (p : Part) → p.State → Bool
  | hopper, h => h.overloaded
  | climber, c => c.config.maxCurrent ≤ c.first.current
  | gearIntake, g => g.config.maxCurrent ≤ g.motor.current
  | gearFloor, f => f.config.maxArmCurrent ≤ f.arm.current
  | drivetrain, _ | autonomous, _ => false

/-- Whether the check of a part cuts the power does not depend on the world. -/
lemma check_eq_trips (p : Part) (s : p.State) (w : World) :
    (Subsystem.check s w).1 = p.trips s := by
  have chosen : ∀ {α : Type} (c : Prop) [Decidable c] (x y : α),
      (if c then (true, x) else (false, y)).1 = decide c := by
    intro α c _ x y
    split
    · next h => exact (decide_eq_true h).symm
    · next h => exact (decide_eq_false h).symm
  cases p with
  | drivetrain | autonomous => rfl
  | climber | gearIntake | gearFloor => exact chosen ..
  | hopper => exact (chosen ..).trans Bool.decide_eq_true

lemma atRest_gearStop (g : GearIntake) : Part.gearIntake.AtRest g.stop := by
  have zero : ((0 : Float32) == 0) = true := by decide
  simp [Part.AtRest, Part.outputs, GearIntake.stop, zero]

/-- A check of the gear intake that cuts the power stops it. -/
lemma check_gearIntake {g : GearIntake} (tripped : gearIntake.trips g = true) (w : World) :
    (g.check w).2.1 = g.stop := by
  have excess : g.config.maxCurrent ≤ g.motor.current := of_decide_eq_true tripped
  simp only [GearIntake.check, ge_iff_le, if_pos excess]

/-- A check that cuts the power leaves the motors at rest. -/
lemma atRest_of_trips {p : Part} (cuts : p.cutsOut = true) {s : p.State} (tripped : p.trips s = true)
    (w : World) : p.AtRest (Subsystem.check s w).2.1 := by
  cases p with
  | climber =>
    have excess : s.config.maxCurrent ≤ s.first.current := of_decide_eq_true tripped
    have stopped : (s.check w).2.1 = s.climb 0 := by
      simp only [Climber.check, ge_iff_le, if_pos excess]
    exact stopped ▸ Lever.atRest_climb s
  | hopper =>
    have excess : s.overloaded = true := tripped
    have stopped : (s.check w).2.1 = s.run 0 := by simp only [Hopper.check, if_pos excess]
    exact stopped ▸ Lever.atRest_run s
  | gearIntake => exact check_gearIntake tripped w ▸ atRest_gearStop s
  | drivetrain | autonomous | gearFloor => cases cuts

/-- Any other check of such a part changes nothing. -/
lemma check_of_not_trips {p : Part} (cuts : p.cutsOut = true) {s : p.State}
    (passed : p.trips s = false) (w : World) : (Subsystem.check s w).2.1 = s := by
  cases p with
  | climber =>
    have fine : ¬ s.config.maxCurrent ≤ s.first.current := of_decide_eq_false passed
    change (Climber.check s w).2.1 = s
    simp only [Climber.check, ge_iff_le, if_neg fine]
  | hopper =>
    have fine : ¬ s.overloaded = true := by simpa [trips] using passed
    change (Hopper.check s w).2.1 = s
    simp only [Hopper.check, if_neg fine]
  | gearIntake =>
    have fine : ¬ s.config.maxCurrent ≤ s.motor.current := of_decide_eq_false passed
    change (GearIntake.check s w).2.1 = s
    simp only [GearIntake.check, ge_iff_le, if_neg fine]
  | drivetrain | autonomous | gearFloor => cases cuts

/-! ### A cycle with a check -/

/-- Whatever message a cycle takes up, the motors stop, and the message gets an error for an answer. The
state that comes out of it is the same for all messages, so none of them is handled. -/
def Refuses (p : Part) (r : Runner p.State) (v : World) : Prop :=
  ∃ (s : p.State) (u : World), p.AtRest s ∧ ∀ wake : Wake, wake.message.isMode = false →
    Cycle.resume .listening wake r v = .ok (Cycle.answer wake.message .error ⟨s, r.loops + 1⟩
      (u.notice (.cutoff (Subsystem.stamp p.State) wake.message.command)))

/-- Whatever message a cycle takes up, it is handled in the state that the cycle found. -/
def Heeds (p : Part) (r : Runner p.State) (v : World) : Prop :=
  ∃ u : World, ∀ wake : Wake, wake.message.isMode = false →
    Cycle.resume .listening wake r v = (do
      let stage ← Subsystem.handle wake.message.command r.subsystem
        (Cycle.announce (Subsystem.stamp p.State) wake.message u)
      return Cycle.conclude wake.message (Cycle.handled ⟨r.subsystem, r.loops + 1⟩ stage))

section

variable {p : Part} {r : Runner p.State}

lemma refuses_of_trips (cuts : p.cutsOut = true) (due : Cycle.checkDue (r.loops + 1) = true)
    (tripped : p.trips r.subsystem = true) (v : World) : p.Refuses r v := by
  obtain ⟨u, inspected⟩ := Cycle.inspect_of_due (r := { r with loops := r.loops + 1 }) due v
  rw [p.check_eq_trips, tripped] at inspected
  exact ⟨_, u, atRest_of_trips cuts tripped v,
    fun wake news => Cycle.resume_of_tripped news inspected⟩

lemma heeds_of_not_trips (cuts : p.cutsOut = true) (due : Cycle.checkDue (r.loops + 1) = true)
    (passed : p.trips r.subsystem = false) (v : World) : p.Heeds r v := by
  obtain ⟨u, inspected⟩ := Cycle.inspect_of_due (r := { r with loops := r.loops + 1 }) due v
  rw [p.check_eq_trips, passed, check_of_not_trips cuts passed] at inspected
  exact ⟨u, fun wake news => Cycle.resume_of_passed news inspected⟩

end

/-- One of some currents is as large as the cutoff. -/
def Exceeds (p : Part) (s : p.State) (amps : List Float32) : Prop :=
  ∃ x ∈ amps, p.cutoff s ≤ x

/-- A check finds too much current where it looks. -/
lemma trips_of_exceeds {p : Part} {s : p.State} (h : p.Exceeds s (p.sampled s)) :
    p.trips s = true := by
  obtain ⟨x, hx, excess⟩ := h
  cases p with
  | climber | gearIntake | gearFloor =>
    cases List.mem_singleton.1 hx
    exact decide_eq_true excess
  | hopper =>
    cases List.mem_singleton.1 hx
    have fine : ¬ s.motor.current < Settings.maxCurrent := Single.not_lt_of_le excess
    simp [trips, Hopper.overloaded, fine]
  | drivetrain | autonomous => cases hx

/-- Of a part that cuts out, only the climber has a motor that its check does not sample. -/
lemma currents_eq_sampled {p : Part} (cuts : p.cutsOut = true) (other : p ≠ climber) (s : p.State) :
    p.currents s = p.sampled s := by
  cases p with
  | hopper | gearIntake => rfl
  | climber => exact absurd rfl other
  | drivetrain | autonomous | gearFloor => cases cuts

/-- A cycle whose check runs while a motor draws too much refuses its message and ends at rest, if the
check samples that motor. Otherwise the motor is the second one of the climber, and the message is
handled as if nothing had happened. -/
theorem cutoff_cases {p : Part} (cuts : p.cutsOut = true) {r : Runner p.State}
    (due : Cycle.checkDue (r.loops + 1) = true)
    (excess : p.Exceeds r.subsystem (p.currents r.subsystem)) (v : World) :
    p.Exceeds r.subsystem (p.sampled r.subsystem) ∧ p.Refuses r v ∨
      ¬ p.Exceeds r.subsystem (p.sampled r.subsystem) ∧ p = climber ∧ p.Heeds r v := by
  by_cases seen : p.Exceeds r.subsystem (p.sampled r.subsystem)
  · exact .inl ⟨seen, refuses_of_trips cuts due (trips_of_exceeds seen) v⟩
  · have climbs : p = climber := by
      by_contra other
      rw [currents_eq_sampled cuts other] at excess
      exact seen excess
    subst climbs
    refine .inr ⟨seen, rfl, heeds_of_not_trips cuts due ?_ v⟩
    refine decide_eq_false fun much => seen ?_
    exact ⟨_, List.mem_singleton_self _, much⟩

/-- A hopper whose motor draws 45 amperes stops in the cycle of its check. -/
theorem overloaded_hopper_refuses :
    hopper.Refuses ⟨{ motor := ({} : Motor).draw 45 }, 9⟩ {} := by
  have due : Cycle.checkDue (9 + 1) = true := by decide
  have excess : hopper.Exceeds { motor := ({} : Motor).draw 45 } [45] :=
    ⟨45, List.mem_singleton_self _, by decide⟩
  rcases cutoff_cases (p := hopper) rfl (r := ⟨{ motor := ({} : Motor).draw 45 }, 9⟩) due excess {}
    with ⟨-, refuses⟩ | ⟨-, climbs, -⟩
  · exact refuses
  · cases climbs

/-- A part takes up a command in each of nine cycles, and then something becomes of its devices: the next
cycle is one with a check. -/
def strain (p : Part) (c : Command) (sense : p.State → p.State) :
    List (Routine.Move (Runner p.State)) :=
  (List.replicate 9 [deliver p { command := c }, .look]).flatten ++
    [.around fun x => (x.1.modify sense, x.2)]

lemma senses_of_strain {p : Part} {c : Command} {sense : p.State → p.State}
    (senses : ∀ s, p.Senses s (sense s)) {change : Runner p.State × World → Runner p.State × World}
    (h : .around change ∈ p.strain c sense) (x : Runner p.State × World) :
    Cycle.Sensed p.Senses x (change x) := by
  simp only [strain, deliver, List.mem_append, List.mem_flatten, List.mem_replicate, List.mem_cons,
    List.not_mem_nil, or_false] at h
  rcases h with ⟨moves, ⟨-, rfl⟩, h⟩ | h
  · simp only [List.mem_cons, Routine.Move.around.injEq, reduceCtorEq, List.not_mem_nil,
      or_false] at h
    subst h
    exact Senses.refl p _
  · cases h
    exact senses x.1.subsystem

/-- The second motor of a climber draws too much. -/
def strained (c : Climber) : Climber :=
  { c with second := c.second.draw 45 }

lemma senses_strained (c : Climber) : climber.Senses c (strained c) :=
  ⟨⟨strained c, rfl⟩, rfl⟩

/-- Not every motor that draws too much is stopped by a check: the second one of the climber is not. -/
theorem strained_climber_runs_on : ¬ ∀ p : Part, p.cutsOut = true →
    ∀ (r : Runner p.State) (w : World) first t b, Cycle.start r w = .ok first →
      (Cycle.routine p.State).Run (Cycle.Sensed p.Senses) first t b →
      Cycle.checkDue (b.2.1.loops + 1) = true →
      p.Exceeds b.2.1.subsystem (p.currents b.2.1.subsystem) → p.Refuses b.2.1 b.2.2 := by
  intro claim
  have played : ((Cycle.start (⟨{}, 0⟩ : Runner Climber) {}).toOption.any fun first =>
      ((Cycle.routine Climber).play (climber.strain (.climber (.up 1)) strained) first).any fun x =>
        Cycle.checkDue (x.2.2.1.loops + 1) &&
          decide (climber.cutoff x.2.2.1.subsystem ≤ x.2.2.1.subsystem.second.current) &&
          (Cycle.resume .listening .rang x.2.2.1 x.2.2.2).toOption.any fun stage =>
            !(stage.2.1.subsystem.first.value == 0)) = true := by
    decide +kernel
  obtain ⟨first, t, b, begun, run, passed⟩ := Routine.exists_run_of_begun
    (Cycle.Sensed climber.Senses) played fun change => senses_of_strain senses_strained
  simp only [Bool.and_eq_true, decide_eq_true_eq] at passed
  obtain ⟨⟨due, excess⟩, runs⟩ := passed
  have unseen : climber.Exceeds b.2.1.subsystem (climber.currents b.2.1.subsystem) :=
    ⟨b.2.1.subsystem.second.current, by simp [currents], excess⟩
  obtain ⟨s, u, rests, refused⟩ := claim climber rfl _ _ first t b begun run due unseen
  have quiet : Wake.rang.message.isMode = false := rfl
  rw [show Cycle.resume .listening .rang b.2.1 b.2.2 = _ from refused .rang quiet] at runs
  have stopped : (s.first.value == 0) = true := rests _ (List.mem_cons_self ..)
  have still : (!(s.first.value == 0)) = true := runs
  rw [stopped] at still
  cases still

end Part

end MatchRobot
