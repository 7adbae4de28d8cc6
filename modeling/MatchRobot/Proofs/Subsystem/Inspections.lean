import MatchRobot.Proofs.Subsystem.Cutoff

/-!
# How often a subsystem is inspected

The number of the cycle decides whether a check is due, and every tenth is. But a cycle that hears of a mode
runs no check, although it counts, and the check is not made up for later: the next one is due ten cycles
on. Ten cycles in a row have one check, or none if the counted one among them hears of a mode
(`Cycle.checks_in_ten`).

Nothing in the state of a subsystem tells how often it was inspected. `Audited` is the same subsystem with a
counter that its check moves on; it does whatever the subsystem does (`Cycle.runOn_audit`).
-/

namespace MatchRobot

/-- A subsystem with the number of its checks. -/
structure Audited (σ : Type) where
  subsystem : σ
  checks : Nat

namespace Audited

variable {σ ι α : Type}

/-- What work leads to, with a number of checks. -/
def carry (n : Nat) (stage : Stage ι α σ) : Stage ι α (Audited σ) :=
  (stage.1, ⟨stage.2.1, n⟩, stage.2.2)

instance [Subsystem σ] : Subsystem (Audited σ) where
  Job := Subsystem.Job σ
  address := Subsystem.address σ
  stamp := Subsystem.stamp σ
  cycle a := Subsystem.cycle a.subsystem
  enter m a w := carry a.checks <$> Subsystem.enter m a.subsystem w
  check a w :=
    let (tripped, s, w) := Subsystem.check a.subsystem w
    (tripped, ⟨s, a.checks + 1⟩, w)
  handle c a w := carry a.checks <$> Subsystem.handle c a.subsystem w
  resume job wake a w := carry a.checks <$> Subsystem.resume job wake a.subsystem w
  attach a b := ⟨Subsystem.attach a.subsystem b.subsystem, a.checks⟩
  attach_self a := by rw [Subsystem.attach_self]
  attach_attach a b c := by rw [Subsystem.attach_attach]

end Audited

/-- A running subsystem with a number of checks. -/
def Runner.audit {σ : Type} (n : Nat) (r : Runner σ) : Runner (Audited σ) :=
  ⟨⟨r.subsystem, n⟩, r.loops⟩

/-- A running subsystem without its number of checks. -/
def Runner.plain {σ : Type} (r : Runner (Audited σ)) : Runner σ :=
  ⟨r.subsystem.subsystem, r.loops⟩

namespace Cycle

variable {σ α : Type} [Subsystem σ]

/-- A moment of a run, or of the work in a cycle, with a number of checks. -/
def audit {ι : Type} (n : Nat) (stage : Stage ι α (Runner σ)) : Stage ι α (Runner (Audited σ)) :=
  (stage.1, stage.2.1.audit n, stage.2.2)

/-- How many checks it takes to take up a message, in a cycle with some number. -/
def checksOf (loops : UInt32) (m : Message) : Nat :=
  if checkDue loops && !m.isMode then 1 else 0

/-- The message that a stretch of work takes up. -/
def takenUp {ι : Type} : Cycle ι → Wake → List Message
  | listening, wake => [wake.message]
  | entering _, _ | handling _ _, _ | replying, _ => []

variable {n : Nat} {m : Message} {r : Runner σ} {wake : Wake} {w : World}

/-! ### One cycle -/

lemma start_audit : (start (r.audit n) w :
    Except Fault (Stage (Cycle (Subsystem.Job σ)) α (Runner (Audited σ)))) =
      audit n <$> start r w := by
  have same : Wait.receiveFor (Subsystem.address (Audited σ)) w.now
      (Subsystem.cycle (r.audit n).subsystem) =
      Wait.receiveFor (Subsystem.address σ) w.now (Subsystem.cycle r.subsystem) := rfl
  unfold start
  rw [same]
  cases Wait.receiveFor (Subsystem.address σ) w.now (Subsystem.cycle r.subsystem) <;> rfl

lemma again_audit (stage : Stage (Cycle (Subsystem.Job σ)) Unit (Runner σ)) :
    @again (Audited σ) _ (audit n stage) = audit n <$> again stage := by
  obtain ⟨p, r, u⟩ := stage
  cases p with
  | waiting wait c => rfl
  | finished x => exact start_audit

lemma inspect_of_audit : inspect (r.audit n) w =
    ((inspect r w).1, (inspect r w).2.1.audit (n + if checkDue r.loops then 1 else 0),
      (inspect r w).2.2) := by
  have same : checkDue (r.audit n).loops = checkDue r.loops := rfl
  unfold inspect
  rw [same]
  cases checkDue r.loops <;> rfl

lemma treat_audit : treat m (r.audit n) w =
    audit (n + if checkDue r.loops then 1 else 0) <$> treat m r w := by
  unfold treat
  rw [inspect_of_audit]
  obtain ⟨tripped, ⟨s, loops⟩, u⟩ := inspect r w
  cases tripped with
  | true => rfl
  | false =>
    have handle : ∀ k v, Subsystem.handle m.command (⟨s, k⟩ : Audited σ) v =
        Audited.carry k <$> Subsystem.handle m.command s v := fun _ _ => rfl
    simp only [Bool.false_eq_true, if_false, Runner.audit, handle]
    have stamp : Subsystem.stamp (Audited σ) = Subsystem.stamp σ := rfl
    rw [stamp]
    cases Subsystem.handle m.command s (announce (Subsystem.stamp σ) m u) with
    | error e => rfl
    | ok stage =>
      obtain ⟨p, t, v⟩ := stage
      cases p <;> rfl

lemma conclude_audit (stage : Stage (Subsystem.Job σ) Verdict (Runner σ)) :
    @conclude (Audited σ) _ m (audit n stage) = audit n (conclude m stage) := by
  obtain ⟨p, r, u⟩ := stage
  cases p with
  | waiting wait job => rfl
  | finished x =>
    simp only [conclude, audit, answer]
    cases m.replyTo <;> rfl

lemma afterEnter_carry {β : Type} (stage : Stage (Subsystem.Job σ) β σ) :
    afterEnter (r.audit n) (Audited.carry n stage) =
      audit n (afterEnter r stage) := by
  obtain ⟨p, s, u⟩ := stage
  cases p <;> rfl

lemma handled_carry (stage : Stage (Subsystem.Job σ) Reply σ) :
    handled (r.audit n) (Audited.carry n stage) = audit n (handled r stage) := by
  obtain ⟨p, s, u⟩ := stage
  cases p <;> rfl

lemma take_audit :
    take m (r.audit n) w = audit (n + checksOf (r.loops + 1) m) <$> take m r w := by
  have stamp : Subsystem.stamp (Audited σ) = Subsystem.stamp σ := rfl
  cases news : m.isMode with
  | true =>
    obtain ⟨mode, command, taken⟩ := take_of_isMode (r := r) (w := w) news
    obtain ⟨mode', command', taken'⟩ := take_of_isMode (r := r.audit n) (w := w) news
    cases command.symm.trans command'
    have none : checksOf (r.loops + 1) m = 0 := by simp [checksOf, news]
    have entered : ∀ v, Subsystem.enter mode (r.audit n).subsystem v =
        Audited.carry n <$> Subsystem.enter mode r.subsystem v := fun _ => rfl
    rw [taken, taken', none, Nat.add_zero, stamp, entered]
    cases Subsystem.enter mode r.subsystem (w.notice (.modeHeard (Subsystem.stamp σ) mode)) with
    | error e => rfl
    | ok stage =>
      exact congrArg Except.ok (afterEnter_carry (r := { r with loops := r.loops + 1 }) stage)
  | false =>
    have due : checksOf (r.loops + 1) m = if checkDue (r.loops + 1) then 1 else 0 := by
      simp [checksOf, news]
    have treated := treat_audit (m := m) (n := n) (r := { r with loops := r.loops + 1 }) (w := w)
    rw [take_of_isMode_eq_false news, take_of_isMode_eq_false news, due]
    change (do
      let stage ← treat m (Runner.audit n { r with loops := r.loops + 1 }) w
      return conclude m stage) = _
    rw [treated]
    cases treat m { r with loops := r.loops + 1 } w with
    | error e => rfl
    | ok stage => exact congrArg Except.ok (conclude_audit stage)

/-- A subsystem whose checks are counted goes on as it would otherwise. Its counter moves on by the checks
of the message that is taken up. -/
lemma runOn_audit (n : Nat) (c : Cycle (Subsystem.Job σ)) (wake : Wake) (r : Runner σ) (w : World) :
    @runOn (Audited σ) _ c wake (r.audit n) w =
      audit (n + ((c.takenUp wake).map (checksOf (r.loops + 1))).sum) <$> c.runOn wake r w := by
  have resumed : @resume (Audited σ) _ c wake (r.audit n) w =
      audit (n + ((c.takenUp wake).map (checksOf (r.loops + 1))).sum) <$> c.resume wake r w := by
    cases c with
    | listening => exact take_audit
    | entering job =>
      have again : @Subsystem.resume (Audited σ) _ job wake (r.audit n).subsystem w =
          Audited.carry n <$> Subsystem.resume job wake r.subsystem w := rfl
      unfold resume
      simp only [again]
      cases Subsystem.resume job wake r.subsystem w with
      | error e => rfl
      | ok stage => exact congrArg Except.ok (afterEnter_carry stage)
    | handling m job =>
      have again : @Subsystem.resume (Audited σ) _ job wake (r.audit n).subsystem w =
          Audited.carry n <$> Subsystem.resume job wake r.subsystem w := rfl
      unfold resume pursue
      simp only [again]
      cases Subsystem.resume job wake r.subsystem w with
      | error e => rfl
      | ok stage =>
        refine congrArg Except.ok ?_
        exact (congrArg (@conclude (Audited σ) _ m) (handled_carry stage)).trans (conclude_audit _)
    | replying => rfl
  unfold runOn
  rw [resumed]
  cases c.resume wake r w with
  | error e => rfl
  | ok stage => exact again_audit stage

/-! ### The number of the cycle -/

lemma loops_inspect (r : Runner σ) (w : World) : (inspect r w).2.1.loops = r.loops := by
  unfold inspect
  split <;> rfl

lemma loops_handled (r : Runner σ) (stage : Stage (Subsystem.Job σ) Reply σ) :
    (handled r stage).2.1.loops = r.loops := by
  obtain ⟨p, s, u⟩ := stage
  cases p <;> rfl

lemma loops_conclude (m : Message) (stage : Stage (Subsystem.Job σ) Verdict (Runner σ)) :
    (conclude m stage).2.1.loops = stage.2.1.loops := by
  obtain ⟨p, r, u⟩ := stage
  cases p with
  | waiting wait job => rfl
  | finished x =>
    simp only [conclude, answer]
    split <;> rfl

lemma loops_afterEnter {β : Type} (r : Runner σ) (stage : Stage (Subsystem.Job σ) β σ) :
    (afterEnter r stage).2.1.loops = r.loops := by
  obtain ⟨p, s, u⟩ := stage
  cases p <;> rfl

lemma loops_treat {stage : Stage (Subsystem.Job σ) Verdict (Runner σ)}
    (done : treat m r w = .ok stage) : stage.2.1.loops = r.loops := by
  unfold treat at done
  simp only at done
  split at done
  · cases done
    exact loops_inspect r w
  · obtain ⟨s, -, same⟩ := bind_eq_ok.1 done
    cases same
    exact (loops_handled _ s).trans (loops_inspect r w)

lemma loops_again {stage : Stage (Cycle (Subsystem.Job σ)) Unit (Runner σ)}
    {next : Stage (Cycle (Subsystem.Job σ)) Empty (Runner σ)} (done : again stage = .ok next) :
    next.2.1.loops = stage.2.1.loops := by
  obtain ⟨p, r, u⟩ := stage
  cases p with
  | waiting wait c =>
    cases done
    rfl
  | finished x =>
    obtain ⟨p', r', u'⟩ := next
    obtain ⟨rfl, -⟩ := start_eq_ok done
    rfl

/-- Every message that is taken up counts. -/
lemma loops_of_runOn {c : Cycle (Subsystem.Job σ)}
    {next : Stage (Cycle (Subsystem.Job σ)) Empty (Runner σ)} (done : c.runOn wake r w = .ok next) :
    next.2.1.loops = r.loops + UInt32.ofNat (c.takenUp wake).length := by
  obtain ⟨stage, resumed, done⟩ := bind_eq_ok.1 done
  rw [loops_again done]
  cases c with
  | listening =>
    change take wake.message r w = .ok stage at resumed
    cases news : wake.message.isMode with
    | true =>
      obtain ⟨mode, -, taken⟩ := take_of_isMode (r := r) (w := w) news
      rw [taken] at resumed
      obtain ⟨s, -, same⟩ := bind_eq_ok.1 resumed
      cases same
      exact loops_afterEnter _ s
    | false =>
      rw [take_of_isMode_eq_false news] at resumed
      obtain ⟨s, treated, same⟩ := bind_eq_ok.1 resumed
      cases same
      exact (loops_conclude _ s).trans (loops_treat treated)
  | entering job =>
    obtain ⟨s, -, same⟩ := bind_eq_ok.1 resumed
    cases same
    exact (loops_afterEnter r s).trans (UInt32.add_zero _).symm
  | handling m job =>
    obtain ⟨s, pursued, same⟩ := bind_eq_ok.1 resumed
    obtain ⟨s', -, same'⟩ := bind_eq_ok.1 pursued
    cases same'
    cases same
    exact ((loops_conclude m _).trans (loops_handled r s')).trans (UInt32.add_zero _).symm
  | replying =>
    cases resumed
    exact (UInt32.add_zero _).symm

/-! ### Runs -/

/-- The loop of a subsystem that runs on its own; noted are the messages that it takes up, those of quiet
cycles among them. -/
def takings (σ : Type) [Subsystem σ] :
    Routine (Cycle (Subsystem.Job σ)) Empty (Runner σ) Message where
  resume := runOn
  notes _ c wake _ _ := c.takenUp wake

/-- How many checks it takes to take up some messages, after some number of cycles. -/
def checksFrom (loops : UInt32) : List Message → Nat
  | [] => 0
  | m :: ms => checksOf (loops + 1) m + checksFrom (loops + 1) ms

lemma checksFrom_append (loops : UInt32) (ms ms' : List Message) : checksFrom loops (ms ++ ms') =
    checksFrom loops ms + checksFrom (loops + UInt32.ofNat ms.length) ms' := by
  induction ms generalizing loops with
  | nil => simp [checksFrom]
  | cons m ms ih =>
    have next : loops + 1 + UInt32.ofNat ms.length = loops + UInt32.ofNat (m :: ms).length := by
      rw [List.length_cons, UInt32.ofNat_add, UInt32.add_assoc, UInt32.add_comm 1]
      rfl
    rw [List.cons_append, checksFrom, checksFrom, ih, next, Nat.add_assoc]

lemma checksFrom_takenUp {ι : Type} (loops : UInt32) (c : Cycle ι) (wake : Wake) :
    checksFrom loops (c.takenUp wake) = ((c.takenUp wake).map (checksOf (loops + 1))).sum := by
  cases c <;> rfl

/-- What the surroundings may do to a subsystem that runs: whatever they like, but its cycles are its own. -/
def SameCycles (x y : Runner σ × World) : Prop :=
  y.1.loops = x.1.loops

/-- If checks are counted, they are its own too. -/
def SameCounts (x y : Runner (Audited σ) × World) : Prop :=
  y.1.loops = x.1.loops ∧ y.1.subsystem.checks = x.1.subsystem.checks

section

variable {a b : Stage (Cycle (Subsystem.Job σ)) Empty (Runner σ)} {ms : List Message}

lemma loops_of_step (step : (takings σ).Step a ms b) :
    b.2.1.loops = a.2.1.loops + UInt32.ofNat ms.length := by
  cases step with
  | pending looked => exact (UInt32.add_zero _).symm
  | woken looked worked => exact loops_of_runOn worked

lemma loops_of_run (run : (takings σ).Run SameCycles a ms b) :
    b.2.1.loops = a.2.1.loops + UInt32.ofNat ms.length := by
  induction run with
  | start => exact (UInt32.add_zero _).symm
  | look run step ih =>
    rw [List.length_append, UInt32.ofNat_add, ← UInt32.add_assoc, ← ih]
    exact loops_of_step step
  | around run change ih => exact change.trans ih

lemma audited_of_step (step : (takings σ).Step a ms b) : (takings (Audited σ)).Step (audit n a) ms
    (audit (n + checksFrom a.2.1.loops ms) b) := by
  cases step with
  | pending looked => exact .pending looked
  | @woken wait wake c r v w _ looked worked =>
    have on := runOn_audit n c wake r w
    rw [show c.runOn wake r w = _ from worked, ← checksFrom_takenUp] at on
    exact .woken looked on

/-- In the course of a run, the checks can be counted. -/
lemma audited_of_run (run : (takings σ).Run SameCycles a ms b) :
    (takings (Audited σ)).Run SameCounts (audit n a) ms
      (audit (n + checksFrom a.2.1.loops ms) b) := by
  induction run with
  | start => exact .start _
  | look run step ih =>
    rw [checksFrom_append, ← loops_of_run run, ← Nat.add_assoc]
    exact ih.look (audited_of_step step)
  | around run change ih => exact ih.around ⟨change, rfl⟩

end

section

variable {a b : Stage (Cycle (Subsystem.Job (Audited σ))) Empty (Runner (Audited σ))}
  {ms : List Message}

lemma checks_of_step (step : (takings (Audited σ)).Step a ms b) :
    b.2.1.subsystem.checks = a.2.1.subsystem.checks + checksFrom a.2.1.loops ms := by
  cases step with
  | pending looked => rfl
  | @woken wait wake c r v w stage looked worked =>
    have on := @runOn_audit σ _ r.subsystem.checks c wake r.plain w
    rw [show @runOn (Audited σ) _ c wake (r.plain.audit r.subsystem.checks) w = _ from worked,
      ← checksFrom_takenUp] at on
    cases plain : @runOn σ _ c wake r.plain w with
    | error e =>
      rw [plain] at on
      cases on
    | ok stage =>
      rw [plain] at on
      cases on
      rfl

/-- The counter of a run tells how many checks its messages took. -/
lemma checks_of_run (run : (takings (Audited σ)).Run SameCounts a ms b) :
    b.2.1.subsystem.checks = a.2.1.subsystem.checks + checksFrom a.2.1.loops ms ∧
      b.2.1.loops = a.2.1.loops + UInt32.ofNat ms.length := by
  induction run with
  | start => exact ⟨rfl, (UInt32.add_zero _).symm⟩
  | look run step ih =>
    rw [checksFrom_append, ← ih.2, ← Nat.add_assoc, ← ih.1, List.length_append, UInt32.ofNat_add,
      ← UInt32.add_assoc, ← ih.2]
    exact ⟨checks_of_step step, loops_of_step step⟩
  | around run change ih => exact ⟨change.2.trans ih.1, change.1.trans ih.2⟩

end

/-! ### Ten cycles -/

/-- A check is due in every tenth cycle. -/
lemma checkDue_iff (loops : UInt32) :
    checkDue loops = true ↔ Settings.safetyInterval ∣ loops.toNat := by
  rw [checkDue, beq_iff_eq, Nat.dvd_iff_mod_eq_zero]

lemma toNat_add {loops : UInt32} {k : Nat} (fits : loops.toNat + k < UInt32.size) :
    (loops + UInt32.ofNat k).toNat = loops.toNat + k := by
  have small : (UInt32.ofNat k).toNat = k := UInt32.toNat_ofNat_of_lt' (by omega)
  rw [UInt32.toNat_add, small]
  exact Nat.mod_eq_of_lt fits

/-- Cycles of which none is due take no check. -/
lemma checksFrom_eq_zero {loops : UInt32} {ms : List Message}
    (fits : loops.toNat + ms.length < UInt32.size)
    (idle : ∀ i < ms.length, ¬ Settings.safetyInterval ∣ loops.toNat + (i + 1)) :
    checksFrom loops ms = 0 := by
  induction ms generalizing loops with
  | nil => rfl
  | cons m ms ih =>
    rw [List.length_cons] at fits idle
    have next : (loops + 1).toNat = loops.toNat + 1 := toNat_add (k := 1) (by omega)
    have first : checksOf (loops + 1) m = 0 := by
      have undue : ¬ checkDue (loops + 1) = true := by
        rw [checkDue_iff, next]
        exact idle 0 (by omega)
      simp [checksOf, undue]
    rw [checksFrom, first, Nat.zero_add]
    refine ih (by omega) fun i hi => ?_
    rw [next, Nat.add_assoc, Nat.add_comm 1]
    exact idle (i + 1) (by omega)

/-- Of ten cycles in a row one is due, and it takes a check unless it hears of a mode. -/
lemma exists_due {loops : UInt32} {ms : List Message} (ten : ms.length = Settings.safetyInterval)
    (fits : loops.toNat + Settings.safetyInterval < UInt32.size) :
    ∃ i, ∃ h : i < ms.length, Settings.safetyInterval ∣ loops.toNat + (i + 1) ∧
      checksFrom loops ms = if ms[i].isMode then 0 else 1 := by
  have interval : Settings.safetyInterval = 10 := rfl
  obtain ⟨i, inside, due⟩ : ∃ i < ms.length, Settings.safetyInterval ∣ loops.toNat + (i + 1) := by
    rw [ten, interval]
    exact ⟨9 - loops.toNat % 10, by omega, by omega⟩
  refine ⟨i, inside, due, ?_⟩
  -- No other cycle among the ten is due, neither before this one nor after it.
  have before : checksFrom loops (ms.take i) = 0 := by
    refine checksFrom_eq_zero (by rw [List.length_take]; omega) fun j hj => ?_
    rw [List.length_take] at hj
    rw [interval] at due ⊢
    omega
  have count : (loops + UInt32.ofNat (i + 1)).toNat = loops.toNat + (i + 1) := toNat_add (by omega)
  have after : checksFrom (loops + UInt32.ofNat (i + 1)) (ms.drop (i + 1)) = 0 := by
    refine checksFrom_eq_zero (by rw [List.length_drop, count]; omega) fun j hj => ?_
    rw [List.length_drop] at hj
    rw [count]
    rw [interval] at due ten ⊢
    omega
  have next : loops + UInt32.ofNat i + 1 = loops + UInt32.ofNat (i + 1) := by
    rw [UInt32.ofNat_add, UInt32.add_assoc]
    rfl
  calc checksFrom loops ms
      = checksFrom loops (ms.take i ++ ms[i] :: ms.drop (i + 1)) := by
        rw [List.getElem_cons_drop, List.take_append_drop]
    _ = checksOf (loops + UInt32.ofNat (i + 1)) ms[i] := by
        rw [checksFrom_append, before, List.length_take_of_le inside.le, checksFrom, next, after,
          Nat.zero_add, Nat.add_zero]
    _ = if ms[i].isMode then 0 else 1 := by
        have counted : checkDue (loops + UInt32.ofNat (i + 1)) = true :=
          (checkDue_iff _).2 (count.symm ▸ due)
        rw [checksOf, counted]
        cases ms[i].isMode <;> rfl

/-- Of ten cycles in a row, as long as their number does not start over, one is due. The ten have one check
in all, unless the message of that cycle is the news of a mode: then they have none. -/
theorem checks_in_ten {a b : Stage (Cycle (Subsystem.Job σ)) Empty (Runner σ)} {ms : List Message}
    (run : (takings σ).Run SameCycles a ms b) (ten : ms.length = Settings.safetyInterval)
    (fits : a.2.1.loops.toNat + Settings.safetyInterval < UInt32.size) :
    ∃ i, ∃ h : i < ms.length, Settings.safetyInterval ∣ a.2.1.loops.toNat + (i + 1) ∧
      ∀ k, (takings (Audited σ)).Run SameCounts (audit 0 a) ms (audit k b) ↔
        k = if ms[i].isMode then 0 else 1 := by
  obtain ⟨i, inside, due, checks⟩ := exists_due ten fits
  refine ⟨i, inside, due, fun k => ⟨fun audited => ?_, fun count => ?_⟩⟩
  · have counted := (checks_of_run audited).1
    rw [← checks]
    exact counted.trans (Nat.zero_add _)
  · have audited := audited_of_run (n := 0) run
    rw [checks, Nat.zero_add, ← count] at audited
    exact audited

/-- A subsystem takes up a message in each of nine cycles, and then another one. -/
def nineAndOne (τ : Type) [Subsystem τ] (c last : Command) : List (Routine.Move (Runner τ)) :=
  let post (c : Command) : Routine.Move (Runner τ) :=
    .around fun x => (x.1, (x.2.offer (Subsystem.address τ) { command := c }).2)
  (List.replicate 9 [post c, .look]).flatten ++ [post last, .look]

lemma eq_of_nineAndOne {τ : Type} [Subsystem τ] {c last : Command}
    {change : Runner τ × World → Runner τ × World} (h : .around change ∈ nineAndOne τ c last)
    (x : Runner τ × World) : (change x).1 = x.1 := by
  simp only [nineAndOne, List.mem_append, List.mem_flatten, List.mem_replicate, List.mem_cons,
    Routine.Move.around.injEq, reduceCtorEq, List.not_mem_nil, or_false] at h
  rcases h with ⟨moves, ⟨-, rfl⟩, h⟩ | rfl
  · simp only [List.mem_cons, Routine.Move.around.injEq, reduceCtorEq, List.not_mem_nil,
      or_false] at h
    rw [h]
  · rfl

/-- A hopper that hears of no mode is inspected once in ten cycles. -/
theorem hopper_is_inspected : ∃ first ms b, Cycle.start (⟨{}, 0⟩ : Runner Hopper) {} = .ok first ∧
    (takings Hopper).Run SameCycles first ms b ∧ ms.length = Settings.safetyInterval ∧
    (takings (Audited Hopper)).Run SameCounts (audit 0 first) ms (audit 1 b) := by
  have played : ((Cycle.start (⟨{}, 0⟩ : Runner Hopper) {}).toOption.any fun first =>
      ((takings Hopper).play (nineAndOne Hopper (.hopper (.up 1)) (.hopper .stop)) first).any fun x =>
        x.1.length == Settings.safetyInterval && x.1.all fun m => !m.isMode) = true := by
    decide +kernel
  obtain ⟨first, ms, b, begun, run, passed⟩ := Routine.exists_run_of_begun SameCycles played
    fun change h x => congrArg Runner.loops (eq_of_nineAndOne h x)
  obtain ⟨ten, quiet⟩ := Bool.and_eq_true_iff.1 passed
  have fresh : first.2.1.loops = 0 := congrArg Runner.loops (start_eq_ok begun).1
  obtain ⟨i, inside, -, audited⟩ := checks_in_ten run (eq_of_beq ten) (by rw [fresh]; decide)
  have news : ms[i].isMode = false := by
    simpa using List.all_eq_true.1 quiet _ (List.getElem_mem inside)
  refine ⟨first, ms, b, begun, run, eq_of_beq ten, (audited 1).2 ?_⟩
  simp [news]

/-- There need not be a check among ten cycles in a row. -/
theorem mode_starves_check : ¬ ∀ (p : Part) (r : Runner p.State) (w : World) first ms b,
    Cycle.start (r.audit 0) w = .ok first →
    (takings (Audited p.State)).Run SameCounts first ms b →
    ms.length = Settings.safetyInterval → r.loops.toNat + Settings.safetyInterval < UInt32.size →
    1 ≤ b.2.1.subsystem.checks := by
  intro claim
  have played : ((Cycle.start (Runner.audit 0 (⟨{}, 0⟩ : Runner GearIntake)) {}).toOption.any
      fun first => ((takings (Audited GearIntake)).play
        (nineAndOne (Audited GearIntake) (.gear (.hold 0.5)) (.state .teleoperated)) first).any fun x =>
          x.1.length == Settings.safetyInterval && x.2.2.1.subsystem.checks == 0) = true := by
    decide +kernel
  obtain ⟨first, ms, b, begun, run, passed⟩ := Routine.exists_run_of_begun SameCounts played
    fun change h x => by
      rw [SameCounts, eq_of_nineAndOne h x]
      exact ⟨rfl, rfl⟩
  obtain ⟨ten, none⟩ := Bool.and_eq_true_iff.1 passed
  have some_check := claim .gearIntake ⟨{}, 0⟩ {} first ms b begun run (eq_of_beq ten) (by decide)
  rw [eq_of_beq none] at some_check
  cases some_check

end Cycle

end MatchRobot
