import MatchRobot.Proofs.Subsystem.GripTransitions

/-!
# The lamp of the gripper

The dashboard shows under "Gear closed" whether the gripper is closed. `World.lamp` is the value that was
written there last.

While the gripper is on its way the lamp is out, since it was put out when the transition was ordered:
`GripCycle.OutWhileMoving` is this invariant. So a cycle that changes the grip leaves the lamp right,
whether it shows the change or not, but for one: a stop makes a closing gripper a closed one and shows
nothing.
-/

namespace MatchRobot

/-! ### The lamp in the journal -/

namespace World

/-- How a lamp was switched last. -/
def lamp (key : String) (w : World) : Option Bool :=
  w.journal.findSome? fun e => e.report.lamp? key

variable {key : String} {v w : World} {wait wait' : Wait} {wake : Wake} {shown : List Bool}

lemma Shows.lamp_eq (h : v.Shows key w shown) : w.lamp key = shown.getLast?.or (v.lamp key) := by
  obtain ⟨new, grown, rfl⟩ := h.grown
  rw [lamp, grown, List.findSome?_append, List.getLast?_reverse, List.head?_filterMap, lamp]

lemma lamp_of_pending (h : v.poll wait = .pending wait' w) : w.lamp key = v.lamp key := by
  cases asked_of_poll h
  rfl

lemma lamp_of_over (h : v.poll wait = .over wake w) : w.lamp key = v.lamp key := by
  rw [lamp, (ended_of_poll h).journal, lamp]

/-- Post switches no lamp. -/
lemma lamp_offer (key : String) (w : World) (a : Address) (m : Message) :
    (w.offer a m).2.lamp key = w.lamp key := by
  unfold offer
  split
  · next posted => rw [lamp, journal_post? posted, lamp]
  · exact (shows_notice w _).lamp_eq

end World

/-! ### The lamp and the grip -/

namespace Grip

variable {g : Grip} {closes : Bool} {since : Micros}

lemma sameKind_self (g : Grip) : g.sameKind g = true := by
  cases g <;> rfl

lemma sameKind_toward_atSide (closes closes' : Bool) (since : Micros) :
    (toward closes since).sameKind (atSide closes') = false := by
  cases closes <;> cases closes' <;> rfl

lemma isClosed_toward (closes : Bool) (since : Micros) : (toward closes since).isClosed = false := by
  cases closes <;> rfl

lemma isClosed_atSide (closes : Bool) : (atSide closes).isClosed = closes := by
  cases closes <;> rfl

/-- A transition that has not been going on before is a change. -/
lemma sameKind_toward (fresh : ∀ since', g ≠ toward closes since') :
    g.sameKind (toward closes since) = false := by
  cases closes with
  | true =>
    cases g with
    | closing since => exact absurd rfl (fresh since)
    | opened | opening | closed => rfl
  | false =>
    cases g with
    | opening since => exact absurd rfl (fresh since)
    | opened | closing | closed => rfl

end Grip

namespace GripCycle

variable {c : GripCycle} {g h : Grip} {cs : List GripCycle} {span : Micros} {lamp : Option Bool}

/-- How the lamp was switched last, after a cycle. -/
def light (lamp : Option Bool) (c : GripCycle) : Option Bool :=
  c.shown.getLast?.or lamp

/-- While the gripper is on its way the lamp is out. -/
def OutWhileMoving (g : Grip) (lamp : Option Bool) : Prop :=
  ∀ closes since, g = .toward closes since → lamp = some false

lemma changes_eq_false (same : c.after = c.before) : c.changes = false := by
  rw [changes, same, Grip.sameKind_self, Bool.not_true]

/-- A cycle that does not leave the grip alone changes its state. -/
lemma changes_of_ne (lawful : c.Lawful span) (changed : c.after ≠ c.before) : c.changes = true := by
  rcases lawful.cases with same | ⟨closes, -, fresh, begun⟩ | ⟨closes, since, moves, ended, -⟩
  · exact absurd same changed
  · rw [changes, begun, Grip.sameKind_toward fresh, Bool.not_false]
  · rw [changes, moves, ended, Grip.sameKind_toward_atSide, Bool.not_false]

/-- A change that a cycle shows. -/
lemma Lawful.light_of_shown (lawful : c.Lawful span) (speaks : c.act.effect.isSilent = false)
    (changed : c.changes = true) (lamp : Option Bool) : c.light lamp = some c.after.isClosed := by
  rw [light, lawful.shows, speaks, changed]
  rfl

/-- The invariant of the lamp outlasts a cycle. -/
lemma Lawful.outWhileMoving (lawful : c.Lawful span) (out : OutWhileMoving c.before lamp) :
    OutWhileMoving c.after (c.light lamp) := by
  intro closes since moves
  rcases lawful.toward moves with before | ⟨effect, -, fresh⟩
  · rw [light, lawful.shows, changes_eq_false (moves.trans before.symm), Bool.and_false]
    exact out closes since before
  · have changed : c.changes = true :=
      changes_of_ne lawful fun same => fresh since (same.symm.trans moves)
    have speaks : c.act.effect.isSilent = false := by rw [effect, GripEffect.isSilent]
    rw [lawful.light_of_shown speaks changed, moves, Grip.isClosed_toward]

/-- The lamp after a change: it is lit exactly if the gripper is closed and no stop closed it. -/
lemma Lawful.light_of_changes (lawful : c.Lawful span) (out : OutWhileMoving c.before lamp)
    (changed : c.changes = true) :
    c.light lamp = some (c.act.effect != .stop && c.after.isClosed) ∧
      (c.light lamp = some c.after.isClosed ↔
        ¬ (c.act.effect = .stop ∧ ∃ since, c.before = .closing since)) := by
  rcases lawful.cases with same | ⟨closes, effect, -, -⟩ |
      ⟨closes, since, before, after, effect | ⟨effect, -⟩⟩
  · rw [changes_eq_false same] at changed
    cases changed
  · have shown := lawful.light_of_shown (by rw [effect, GripEffect.isSilent]) changed lamp
    rw [shown, effect]
    exact ⟨rfl, iff_of_true rfl fun h => nomatch h.1⟩
  · -- Nothing is shown, and the lamp has been out since the transition was ordered.
    have dark : c.light lamp = some false := by
      rw [light, lawful.shows, effect]
      exact out closes since before
    rw [dark, effect, before, after, Grip.isClosed_atSide]
    refine ⟨rfl, ?_⟩
    cases closes with
    | false => exact iff_of_true rfl fun h => nomatch h.2
    | true => exact iff_of_false nofun fun h => h ⟨rfl, since, rfl⟩
  · have shown := lawful.light_of_shown (by rw [effect, GripEffect.isSilent]) changed lamp
    rw [shown, effect]
    exact ⟨rfl, iff_of_true rfl fun h => nomatch h.1⟩

/-- The invariant of the lamp outlasts a chain of cycles. -/
lemma Chain.outWhileMoving (chain : Chain span g h cs) (out : OutWhileMoving g lamp) :
    OutWhileMoving h (cs.foldl light lamp) := by
  induction cs generalizing g lamp with
  | nil =>
    obtain rfl : h = g := chain
    exact out
  | cons c cs ih =>
    obtain ⟨rfl, lawful, rest⟩ := chain
    exact ih rest (lawful.outWhileMoving out)

end GripCycle

namespace GearIntake

variable {r : Runner GearIntake} {w : World}
  {first a b : Stage (Cycle (Subsystem.Job GearIntake)) Empty (Runner GearIntake)}
  {cs : List GripCycle} {c : GripCycle}

/-- What the surroundings may do while nobody else switches the lamp. -/
def KeepsLamp (x y : Runner GearIntake × World) : Prop :=
  KeepsMind x y ∧ y.2.lamp lampKey = x.2.lamp lampKey

/-- A look at the gear intake switches the lamp as its cycles say. -/
lemma lamp_of_step (step : cycles.Step a cs b) :
    b.2.2.lamp lampKey = cs.foldl GripCycle.light (a.2.2.lamp lampKey) := by
  cases step with
  | pending looked => exact World.lamp_of_pending looked
  | @woken wait wake c r v w _ looked worked =>
    obtain ⟨p, r', u⟩ := b
    change _ = List.foldl GripCycle.light (v.lamp lampKey) _
    rw [← World.lamp_of_over looked]
    cases c with
    | listening =>
      have worked : Cycle.runOn .listening wake r w = .ok (p, r', u) := worked
      have shows := (cycled_of_runOn worked).shows
      simp only [cycles, worked]
      rw [shows.lamp_eq, ← shows.switched_eq]
      rfl
    | entering job | handling m job => exact (jobless job).elim
    | replying =>
      obtain ⟨-, rfl, -⟩ := Cycle.start_eq_ok worked
      rfl

lemma grip_of_step (step : cycles.Step a [c] b) :
    a.2.1.subsystem.grip = c.before ∧ b.2.1.subsystem.grip = c.after := by
  obtain ⟨starts, -, ends⟩ := (chain_of_step step).1
  exact ⟨starts.symm, ends⟩

/-- The invariant of the lamp holds throughout a run. -/
lemma outWhileMoving_of_run (run : cycles.Run KeepsLamp a cs b)
    (out : GripCycle.OutWhileMoving a.2.1.subsystem.grip (a.2.2.lamp lampKey)) :
    GripCycle.OutWhileMoving b.2.1.subsystem.grip (b.2.2.lamp lampKey) := by
  induction run with
  | start => exact out
  | look run step ih =>
    rw [lamp_of_step step]
    exact (chain_of_step step).1.outWhileMoving ih
  | around run change ih =>
    obtain ⟨⟨grip, -⟩, lamp⟩ := change
    rw [grip, lamp]
    exact ih

/-- After a cycle that changed the grip, the lamp is lit exactly if the gripper is closed and the cycle did
not stop it. So what the dashboard shows is right but for a closing gripper that was stopped. -/
theorem lamp_of_change (begun : Cycle.start r w = .ok first)
    (rests : ∀ closes since, r.subsystem.grip ≠ .toward closes since)
    (before : cycles.Run KeepsLamp first cs a) (step : cycles.Step a [c] b)
    (changed : b.2.1.subsystem.grip ≠ a.2.1.subsystem.grip) :
    b.2.2.lamp lampKey = some (c.act.effect != .stop && b.2.1.subsystem.grip.isClosed) ∧
      (b.2.2.lamp lampKey = some b.2.1.subsystem.grip.isClosed ↔
        ¬ (c.act.effect = .stop ∧ ∃ since, a.2.1.subsystem.grip = .closing since)) := by
  obtain ⟨progress, r', w'⟩ := first
  obtain ⟨rfl, rfl, -⟩ := Cycle.start_eq_ok begun
  have out := outWhileMoving_of_run before fun closes since moves => absurd moves (rests closes since)
  have lawful := (chain_of_step step).1.2.1
  obtain ⟨starts, ends⟩ := grip_of_step step
  rw [starts] at out
  rw [starts, ends] at changed ⊢
  rw [lamp_of_step step, List.foldl_cons, List.foldl_nil]
  exact lawful.light_of_changes out (GripCycle.changes_of_ne lawful changed)

lemma keepsLamp_of_secondly {commands : List Command}
    {change : Runner GearIntake × World → Runner GearIntake × World}
    (h : .around change ∈ secondly commands) (x : Runner GearIntake × World) :
    KeepsLamp x (change x) := by
  rcases eq_of_secondly h with rfl | ⟨c, rfl⟩
  · exact ⟨⟨rfl, rfl⟩, rfl⟩
  · exact ⟨⟨rfl, rfl⟩, World.lamp_offer _ _ _ _⟩

/-- The lamp is lit when a gripper that was told to hold settles. -/
theorem settled_gripper_is_lit : ∃ first cs a c b,
    Cycle.start (⟨{}, 0⟩ : Runner GearIntake) {} = .ok first ∧
      (∀ closes since, Grip.opened ≠ .toward closes since) ∧
      cycles.Run KeepsLamp first cs a ∧ cycles.Step a [c] b ∧
      b.2.1.subsystem.grip ≠ a.2.1.subsystem.grip ∧ b.2.2.lamp lampKey = some true := by
  have played : plays [.gear (.hold 0.5), .system .msgTimeout] (fun _ c _ =>
      c.act.effect != .stop && c.before == .closing Clock.second && c.after == .closed) = true := by
    decide +kernel
  obtain ⟨first, cs, a, c, b, begun, run, step, passed⟩ := exists_of_plays KeepsLamp played
    fun _ => keepsLamp_of_secondly
  simp only [Bool.and_eq_true, beq_iff_eq] at passed
  obtain ⟨⟨goes_on, before⟩, after⟩ := passed
  obtain ⟨starts, ends⟩ := grip_of_step step
  have changed : b.2.1.subsystem.grip ≠ a.2.1.subsystem.grip := by
    rw [starts, ends, before, after]
    exact nofun
  have lit := (lamp_of_change begun Grip.opened_ne_toward run step changed).1
  rw [goes_on, ends, after] at lit
  exact ⟨first, cs, a, c, b, begun, Grip.opened_ne_toward, run, step, changed, lit⟩

/-- A gripper that is stopped while it closes is closed, and the lamp stays out. -/
theorem stopped_gripper_is_unlit : ¬ ∀ (r : Runner GearIntake) (w : World) first cs a c b,
    Cycle.start r w = .ok first → r.subsystem.grip = .opened →
    cycles.Run KeepsLamp first cs a → cycles.Step a [c] b →
    b.2.1.subsystem.grip ≠ a.2.1.subsystem.grip →
    b.2.2.lamp lampKey = some b.2.1.subsystem.grip.isClosed := by
  intro claim
  have played : plays [.gear (.hold 0.5), .gear .stop] (fun _ c b =>
      c.before == .closing Clock.second && c.after == .closed &&
        b.2.2.lamp lampKey == some false) = true := by
    decide +kernel
  obtain ⟨first, cs, a, c, b, begun, run, step, passed⟩ := exists_of_plays KeepsLamp played
    fun _ => keepsLamp_of_secondly
  simp only [Bool.and_eq_true, beq_iff_eq] at passed
  obtain ⟨⟨before, after⟩, out⟩ := passed
  obtain ⟨starts, ends⟩ := grip_of_step step
  have changed : b.2.1.subsystem.grip ≠ a.2.1.subsystem.grip := by
    rw [starts, ends, before, after]
    exact nofun
  have lit := claim _ _ first cs a c b begun rfl run step changed
  rw [out, ends, after] at lit
  cases lit

end GearIntake

end MatchRobot
