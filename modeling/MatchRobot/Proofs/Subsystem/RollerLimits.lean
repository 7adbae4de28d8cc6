import MatchRobot.Proofs.Number.Quotients
import MatchRobot.Proofs.Subsystem.FloorActs

/-!
# Limits of the roller

The roller of the floor intake runs as the last order said that it was given (`FloorIntake.follows_of_run`).
An order is limited when it is given, by the position that the arm has then, and in one direction only: what
becomes of the arm afterwards does not matter to it, and a speed below zero has no limit.
`FloorIntake.roller_limits` says which orders keep the roller within its greatest speed, and which within a
third of it.
-/

namespace MatchRobot

namespace RollerOrder

/-- The speed of an order is a finite number. -/
def Finite : RollerOrder → Prop
  | pull speed _ | push speed => speed.isFinite = true
  | stop | hang => True

/-- The speed of an order is not beyond the greatest one the other way round. -/
def Within (c : ArmConfig) : RollerOrder → Prop
  | pull speed _ | push speed => ¬ speed < -c.maxIntakeSpeed
  | stop | hang => True

/-- An order that pulls in with no more than a third of the greatest speed. -/
def Slow (c : ArmConfig) : RollerOrder → Prop
  | stop => True
  | pull speed position =>
    position = .drive ∨ speed ≤ c.maxIntakeSpeed / 3 ∨ c.maxIntakeSpeed ≤ c.maxIntakeSpeed / 3
  | push speed => ¬ speed < -(c.maxIntakeSpeed / 3)
  | hang => c.macroRollerSpeed ≤ c.maxIntakeSpeed / 3

instance : (o : RollerOrder) → Decidable o.Finite
  | pull speed _ | push speed => inferInstanceAs (Decidable (speed.isFinite = true))
  | stop | hang => .isTrue trivial

instance (c : ArmConfig) : (o : RollerOrder) → Decidable (o.Within c)
  | pull speed _ | push speed => inferInstanceAs (Decidable (¬ speed < -c.maxIntakeSpeed))
  | stop | hang => .isTrue trivial

instance (c : ArmConfig) : (o : RollerOrder) → Decidable (o.Slow c)
  | stop => .isTrue trivial
  | pull speed position => inferInstanceAs (Decidable (position = .drive ∨
      speed ≤ c.maxIntakeSpeed / 3 ∨ c.maxIntakeSpeed ≤ c.maxIntakeSpeed / 3))
  | push speed => inferInstanceAs (Decidable (¬ speed < -(c.maxIntakeSpeed / 3)))
  | hang => inferInstanceAs (Decidable (c.macroRollerSpeed ≤ c.maxIntakeSpeed / 3))

end RollerOrder

/-- The greatest speed of the roller is at most full output, and the macro does not exceed it. -/
structure ArmConfig.Sound (c : ArmConfig) : Prop where
  nonneg : 0 ≤ c.maxIntakeSpeed
  le_one : c.maxIntakeSpeed ≤ 1
  macro_nonneg : 0 ≤ c.macroRollerSpeed
  macro_le : c.macroRollerSpeed ≤ c.maxIntakeSpeed

namespace ArmConfig

open Single

variable {c : ArmConfig}

lemma Sound.isFinite (h : c.Sound) : c.maxIntakeSpeed.isFinite = true :=
  isFinite_of_le h.nonneg h.le_one (by decide)

/-- The limits of the roller are finite, not negative and no larger than its greatest speed. -/
lemma Sound.limits (h : c.Sound) (position : ArmPosition) :
    (c.pullLimit position).isFinite = true ∧ 0 ≤ c.pullLimit position ∧
      c.pullLimit position ≤ c.maxIntakeSpeed := by
  have zero : (0 : Float32).isFinite = true := by decide
  have whole : c.maxIntakeSpeed.isFinite = true ∧ 0 ≤ c.maxIntakeSpeed ∧
      c.maxIntakeSpeed ≤ c.maxIntakeSpeed :=
    ⟨h.isFinite, h.nonneg, (le_iff_value h.isFinite h.isFinite).2 le_rfl⟩
  cases position with
  | drive =>
    obtain ⟨finite, low, high⟩ := third_value h.isFinite h.nonneg
    refine ⟨finite, ?_, (le_iff_value finite h.isFinite).2 high⟩
    rw [← value_zero] at low
    exact (le_iff_value zero finite).2 low
  | unknown | floor | release => exact whole

/-- An order keeps the roller within its greatest speed exactly if its own speed is not beyond that the
other way round. -/
lemma Sound.abs_output_le_iff (h : c.Sound) {o : RollerOrder} (finite : o.Finite) :
    (o.output c).abs ≤ c.maxIntakeSpeed ↔ o.Within c := by
  have zero : (0 : Float32).isFinite = true := by decide
  have nonneg := (le_iff_value zero h.isFinite).1 h.nonneg
  rw [value_zero] at nonneg
  have own : ∀ x : Float32, x.isFinite = true → 0 ≤ value (unpacked x) →
      value (unpacked x) ≤ value (unpacked c.maxIntakeSpeed) → x.abs ≤ c.maxIntakeSpeed := by
    intro x finite_x low high
    exact (abs_le_iff_value finite_x h.isFinite).2 ⟨by omega, high⟩
  cases o with
  | stop => exact iff_of_true (own 0 zero value_zero.ge (value_zero.trans_le nonneg)) trivial
  | pull speed position =>
    obtain ⟨finite_limit, low, high⟩ := h.limits position
    exact abs_least_le_iff finite finite_limit h.isFinite low high
  | push speed =>
    obtain ⟨finite_limit, low, high⟩ := h.limits .release
    rw [RollerOrder.output, abs_neg_eq]
    exact abs_least_le_iff finite finite_limit h.isFinite low high
  | hang =>
    have finite_macro := isFinite_of_le h.macro_nonneg h.macro_le h.isFinite
    have low := (le_iff_value zero finite_macro).1 h.macro_nonneg
    rw [value_zero] at low
    exact iff_of_true (own _ finite_macro low ((le_iff_value finite_macro h.isFinite).1 h.macro_le))
      trivial

/-- An order that was limited at the drive position keeps the roller within a third, and so does one that
asks for no more or that runs it the other way. -/
lemma Sound.output_le_third_iff (h : c.Sound) {o : RollerOrder} (finite : o.Finite) :
    o.output c ≤ c.maxIntakeSpeed / 3 ↔ o.Slow c := by
  obtain ⟨finite_third, low, high⟩ := h.limits .drive
  have third : c.pullLimit .drive = c.maxIntakeSpeed / 3 := rfl
  rw [third] at finite_third low high
  cases o with
  | stop => exact iff_of_true low trivial
  | hang => exact Iff.rfl
  | push speed => exact neg_least_le_iff finite h.isFinite finite_third h.nonneg low
  | pull speed position =>
    have limited := least_le_iff finite (h.limits position).1 finite_third
    have same : c.maxIntakeSpeed / 3 ≤ c.maxIntakeSpeed / 3 :=
      (le_iff_value finite_third finite_third).2 le_rfl
    cases position with
    | drive => exact iff_of_true (limited.2 (.inr same)) (.inl rfl)
    | unknown | floor | release => exact limited.trans (by simp [RollerOrder.Slow, pullLimit])

end ArmConfig

namespace FloorIntake

/-! ### The last order -/

/-- The order that the roller was given last; before the first one it is to stand still. -/
def lastOrder (t : List Act) : RollerOrder :=
  (t.filterMap Act.order?).getLastD .stop

lemma lastOrder_concat (t : List Act) (a : Act) :
    lastOrder (t ++ [a]) = a.order?.getD (lastOrder t) := by
  unfold lastOrder
  rw [List.filterMap_append]
  cases given : a.order? <;> simp [given]

/-- The roller runs as it was told last. -/
structure Follows (c : ArmConfig) (t : List Act) (f : FloorIntake) : Prop where
  config : f.config = c
  roller : f.roller.value = (lastOrder t).output c

section

variable {f g : FloorIntake} {c : ArmConfig} {t : List Act}

/-- Moving the arm changes nothing of the roller. -/
lemma roller_ready (f : FloorIntake) : f.ready.roller = f.roller ∧ f.ready.config = f.config := by
  unfold ready
  split <;> exact ⟨rfl, rfl⟩

lemma roller_sent (f : FloorIntake) (target : ArmPosition) :
    (f.sent target).roller = f.roller ∧ (f.sent target).config = f.config := by
  unfold sent
  split <;> exact f.roller_ready

lemma roller_inspected (f : FloorIntake) (hold : Option Float32) :
    (f.held hold).lifted.roller = f.roller ∧ (f.held hold).lifted.config = f.config := by
  have held : (f.held hold).roller = f.roller ∧ (f.held hold).config = f.config := by
    cases hold <;> exact ⟨rfl, rfl⟩
  unfold lifted
  split
  · obtain ⟨roller, config⟩ := (f.held hold).roller_sent .drive
    exact ⟨roller.trans held.1, config.trans held.2⟩
  · exact held

lemma roller_directed (f : FloorIntake) (order : Option RollerOrder) (target : Option ArmPosition) :
    (f.directed order target).roller = (order.elim f fun o => f.roll (o.output f.config)).roller ∧
      (f.directed order target).config = f.config := by
  have rolled : (order.elim f fun o => f.roll (o.output f.config)).config = f.config := by
    cases order <;> rfl
  cases target with
  | none => exact ⟨rfl, rolled⟩
  | some target =>
    obtain ⟨roller, config⟩ := (order.elim f fun o => f.roll (o.output f.config)).roller_sent target
    exact ⟨roller, config.trans rolled⟩

/-- An act leaves the roller alone, unless it has an order for it. -/
lemma follows_perform (a : Act) (h : Follows c t f) : Follows c (t ++ [a]) (f.perform a) := by
  have silent : a.order? = none → (f.perform a).roller = f.roller ∧ (f.perform a).config = f.config →
      Follows c (t ++ [a]) (f.perform a) := by
    rintro none ⟨roller, config⟩
    refine ⟨config.trans h.config, ?_⟩
    rw [roller, h.roller, lastOrder_concat, none]
    rfl
  have directs : f.perform a = f.directed a.order? a.target? → Follows c (t ++ [a]) (f.perform a) := by
    intro performed
    obtain ⟨roller, config⟩ := f.roller_directed a.order? a.target?
    rw [performed]
    refine ⟨config.trans h.config, ?_⟩
    rw [roller, lastOrder_concat]
    cases a.order? with
    | none => exact h.roller
    | some o => rw [← h.config]; rfl
  cases a with
  | hears mode =>
    refine silent rfl ?_
    have heard : f.perform (.hears mode) = f.ready ∨ f.perform (.hears mode) = f := ite_eq_or_eq _ _ _
    rcases heard with ready | same
    · rw [ready]
      exact f.roller_ready
    · rw [same]
      exact ⟨rfl, rfl⟩
  | inspects hold => exact silent rfl (f.roller_inspected hold)
  | obeys | lowers | raises => exact directs rfl

lemma follows_sensed (sees : Sees f g) (h : Follows c t f) : Follows c t g := by
  obtain ⟨arm, roller, sensor, gear, rfl⟩ := sees
  exact ⟨h.config, h.roller⟩

/-! ### The macro -/

/-- An inspection tells the roller nothing. -/
lemma lastOrder_inspections (t : List Act) (r : Runner FloorIntake) :
    lastOrder (t ++ inspections r) = lastOrder t := by
  unfold inspections
  split
  · exact lastOrder_concat t _
  · rw [List.append_nil]

/-- Only a command makes the roller run for the macro that hangs a gear. -/
lemma hangGear_of_lastOrder {m : Message} {r : Runner FloorIntake}
    (h : lastOrder (t ++ actsUpon m r) = .hang) :
    lastOrder t = .hang ∨ m.command = .floor .hangGear ∧ refuses r = false := by
  unfold actsUpon at h
  split at h
  · rw [lastOrder_concat] at h
    exact .inl h
  · split at h
    · rw [lastOrder_inspections] at h
      exact .inl h
    · next passed =>
      rw [← List.append_assoc] at h
      unfold actsOn at h
      split at h
      · next command asked =>
        rw [lastOrder_concat, lastOrder_inspections] at h
        cases command with
        | hangGear => exact .inr ⟨asked, Bool.eq_false_of_not_eq_true passed⟩
        | pullIn | pushOut | stop => exact nomatch h
        | _ => exact .inl h
      · rw [List.append_nil, lastOrder_inspections] at h
        exact .inl h

/-- That command leads to the first wait of the macro. -/
lemma rolling_of_hangGear {wake : Wake} {r : Runner FloorIntake} {w : World}
    {stage : Stage (Cycle HangStage) Empty (Runner FloorIntake)}
    (asked : wake.message.command = .floor .hangGear)
    (passed : refuses { r with loops := r.loops + 1 } = false)
    (done : Cycle.runOn (σ := FloorIntake) .listening wake r w = .ok stage) :
    ∃ wait, stage.1 = .waiting wait (.handling wake.message .rolling) := by
  have news : wake.message.isMode = false := by simp [Message.isMode, asked]
  obtain ⟨u, inspected⟩ := inspect_acts { r with loops := r.loops + 1 } w
  rw [passed] at inspected
  obtain ⟨taken, resumed, again⟩ := bind_eq_ok.1 done
  rw [Cycle.resume_of_passed news inspected] at resumed
  obtain ⟨hung, handled, resumed⟩ := bind_eq_ok.1 resumed
  rw [asked] at handled
  obtain ⟨wait, slept, handled⟩ := bind_eq_ok.1 handled
  cases handled
  cases resumed
  cases again
  exact ⟨wait, rfl⟩

end

section

variable {c : ArmConfig} {r : Runner FloorIntake} {w : World}
  {first a b : Stage (Cycle HangStage) Empty (Runner FloorIntake)} {t l : List Act}

/-- After a stretch of the macro, the roller does not run for it any more, unless that was not the first one
and the roller did so before. -/
lemma hang_of_stage {job : HangStage} (h : lastOrder (t ++ job.acts) = .hang) :
    lastOrder t = .hang ∧ job ≠ .rolling := by
  cases job with
  | rolling =>
    rw [HangStage.acts, lastOrder_concat] at h
    cases h
  | lowered =>
    rw [HangStage.acts, lastOrder_concat] at h
    exact ⟨h, nofun⟩
  | raised =>
    rw [HangStage.acts, List.append_nil] at h
    exact ⟨h, nofun⟩

/-- The roller runs for the macro only until the macro lowers the arm. -/
lemma rolling_of_step (step : acting.Step a l b)
    (before : lastOrder t = .hang → ∃ wait m, a.1 = .waiting wait (.handling m .rolling))
    (h : lastOrder (t ++ l) = .hang) : ∃ wait m, b.1 = .waiting wait (.handling m .rolling) := by
  cases step with
  | pending looked =>
    rw [List.append_nil] at h
    obtain ⟨wait, m, at_⟩ := before h
    cases at_
    exact ⟨_, m, rfl⟩
  | @woken wait wake k r v w stage looked worked =>
    have rolling : lastOrder t = .hang → ∃ m, k = .handling m .rolling := by
      intro same
      obtain ⟨wait', m, at_⟩ := before same
      cases at_
      exact ⟨m, rfl⟩
    change lastOrder (t ++ acts k wake r) = .hang at h
    cases k with
    | listening =>
      rcases hangGear_of_lastOrder h with same | ⟨asked, passed⟩
      · obtain ⟨m, other⟩ := rolling same
        cases other
      · obtain ⟨wait', at_⟩ := rolling_of_hangGear asked passed worked
        exact ⟨wait', _, at_⟩
    | replying =>
      rw [acts, List.append_nil] at h
      obtain ⟨m, other⟩ := rolling h
      cases other
    | entering job =>
      obtain ⟨m, other⟩ := rolling (hang_of_stage h).1
      cases other
    | handling m job =>
      obtain ⟨same, later⟩ := hang_of_stage h
      obtain ⟨m', at_⟩ := rolling same
      cases at_
      exact absurd rfl later

lemma rolling_of_run (run : acting.Run (Cycle.Sensed Sees) first t b) (h : lastOrder t = .hang) :
    ∃ wait m, b.1 = .waiting wait (.handling m .rolling) := by
  induction run with
  | start => exact nomatch h
  | look run step ih => exact rolling_of_step step ih h
  | around run change ih => exact ih h

/-- All through a run, the roller runs as it was told last. -/
lemma follows_of_run (still : r.subsystem.roller.value = 0) (begun : Cycle.start r w = .ok first)
    (run : acting.Run (Cycle.Sensed Sees) first t b) :
    Follows r.subsystem.config t b.2.1.subsystem := by
  obtain ⟨progress, r', w'⟩ := first
  obtain ⟨rfl, -⟩ := Cycle.start_eq_ok begun
  exact holds_of_run follows_perform (fun h sees => follows_sensed sees h) run ⟨rfl, still⟩

/-- At any moment of a run, the roller is within its greatest speed exactly if the last order did not ask
for more than that the other way round, and it is within a third of it exactly if the last order pulled in
at the drive position, or asked for no more than a third in that direction; where the arm is now makes no
difference. Only in the first stage of the macro is the last order that of the macro. -/
theorem roller_limits (sound : r.subsystem.config.Sound) (still : r.subsystem.roller.value = 0)
    (begun : Cycle.start r w = .ok first) (run : acting.Run (Cycle.Sensed Sees) first t b)
    (finite : (lastOrder t).Finite) :
    (b.2.1.subsystem.roller.value.abs ≤ r.subsystem.config.maxIntakeSpeed ↔
      (lastOrder t).Within r.subsystem.config) ∧
    (b.2.1.subsystem.roller.value ≤ r.subsystem.config.maxIntakeSpeed / 3 ↔
      (lastOrder t).Slow r.subsystem.config) ∧
    (lastOrder t = .hang → ∃ wait m, b.1 = .waiting wait (.handling m .rolling)) := by
  have follows := follows_of_run still begun run
  rw [follows.roller]
  exact ⟨sound.abs_output_le_iff finite, sound.output_le_third_iff finite, rolling_of_run run⟩

end

/-- A floor intake takes up commands, one after the other. -/
def commanding (cs : List FloorCommand) : List (Routine.Move (Runner FloorIntake)) :=
  mail (cs.map fun c => { command := .floor c })

/-- The numbers that a new floor intake comes with. -/
lemma sound_default : (⟨{}, 0⟩ : Runner FloorIntake).subsystem.config.Sound := by
  constructor <;> decide +kernel

/-- A roller that is told to pull in while the arm is at the drive position keeps to a third. -/
theorem driving_roller_is_slow : ∃ first t b,
    Cycle.start (⟨{}, 0⟩ : Runner FloorIntake) {} = .ok first ∧
    acting.Run (Cycle.Sensed Sees) first t b ∧ 0 < b.2.1.subsystem.roller.value ∧
    b.2.1.subsystem.roller.value.abs ≤ 1 ∧ b.2.1.subsystem.roller.value ≤ 1 / 3 := by
  have played : ((Cycle.start (⟨{}, 0⟩ : Runner FloorIntake) {}).toOption.any fun first =>
      (acting.play (commanding [.drivePosition, .pullIn 0.9]) first).any fun x =>
        decide (0 < x.2.2.1.subsystem.roller.value ∧ (lastOrder x.1).Finite ∧
          (lastOrder x.1).Within {} ∧ (lastOrder x.1).Slow {})) = true := by
    decide +kernel
  obtain ⟨first, t, b, begun, run, passed⟩ :=
    Routine.exists_run_of_begun (Cycle.Sensed Sees) played fun change h => sensed_of_mail h
  obtain ⟨runs, finite, within, slow⟩ := of_decide_eq_true passed
  obtain ⟨all, third, -⟩ := roller_limits sound_default rfl begun run finite
  exact ⟨first, t, b, begun, run, runs, all.2 within, third.2 slow⟩

/-- Neither limit holds of all runs: a roller may be told to pull in at a speed below zero, and one that was
told to pull in keeps its speed when the arm goes to the drive position. -/
theorem exists_beyond_limits :
    (¬ ∀ {r : Runner FloorIntake} {w : World}
      {first b : Stage (Cycle HangStage) Empty (Runner FloorIntake)} {t : List Act},
      r.subsystem.config.Sound → r.subsystem.roller.value = 0 → Cycle.start r w = .ok first →
      acting.Run (Cycle.Sensed Sees) first t b → (∀ o ∈ t.filterMap Act.order?, o.Finite) →
      b.2.1.subsystem.roller.value.abs ≤ r.subsystem.config.maxIntakeSpeed) ∧
    ¬ ∀ {r : Runner FloorIntake} {w : World}
      {first b : Stage (Cycle HangStage) Empty (Runner FloorIntake)} {t : List Act},
      r.subsystem.config.Sound → r.subsystem.roller.value = 0 → Cycle.start r w = .ok first →
      acting.Run (Cycle.Sensed Sees) first t b → (∀ o ∈ t.filterMap Act.order?, o.Finite) →
      (∃ wait, b.1 = .waiting wait .listening) → b.2.1.subsystem.position = .drive →
      b.2.1.subsystem.roller.value ≤ r.subsystem.config.maxIntakeSpeed / 3 := by
  constructor
  · intro limited
    have played : ((Cycle.start (⟨{}, 0⟩ : Runner FloorIntake) {}).toOption.any fun first =>
        (acting.play (commanding [.pullIn (-5)]) first).any fun x =>
          decide ((∀ o ∈ x.1.filterMap Act.order?, o.Finite) ∧
            ¬ x.2.2.1.subsystem.roller.value.abs ≤ 1)) = true := by
      decide +kernel
    obtain ⟨first, t, b, begun, run, passed⟩ :=
      Routine.exists_run_of_begun (Cycle.Sensed Sees) played fun change h => sensed_of_mail h
    obtain ⟨finite, beyond⟩ := of_decide_eq_true passed
    have within := @limited ⟨{}, 0⟩ {} first b t sound_default rfl begun run finite
    exact beyond within
  · intro limited
    have played : ((Cycle.start (⟨{}, 0⟩ : Runner FloorIntake) {}).toOption.any fun first =>
        (acting.play (commanding [.releasePosition, .pullIn 0.9, .drivePosition]) first).any fun x =>
          x.2.1 matches .waiting _ .listening &&
            decide ((∀ o ∈ x.1.filterMap Act.order?, o.Finite) ∧
              x.2.2.1.subsystem.position = .drive ∧
              ¬ x.2.2.1.subsystem.roller.value ≤ 1 / 3)) = true := by
      decide +kernel
    obtain ⟨first, t, b, begun, run, passed⟩ :=
      Routine.exists_run_of_begun (Cycle.Sensed Sees) played fun change h => sensed_of_mail h
    obtain ⟨listens, passed⟩ := Bool.and_eq_true_iff.1 passed
    obtain ⟨finite, position, beyond⟩ := of_decide_eq_true passed
    have at_ : ∃ wait, b.1 = .waiting wait .listening := by
      simp only at listens
      split at listens
      · next wait at_ => exact ⟨wait, at_⟩
      · cases listens
    have within := @limited ⟨{}, 0⟩ {} first b t sound_default rfl begun run finite at_ position
    exact beyond within

end FloorIntake

end MatchRobot
