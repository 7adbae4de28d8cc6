import MatchRobot.Proofs.Subsystem.GripCycles

/-!
# The gripper never jumps

A gripper gets to a side only from the transition to that side, and a transition goes on without
interruption from the cycle in which it was ordered. `GripCycle.Since` says so of a history, and
`GripCycle.since_of_chain` finds it in every chain of cycles that begins at rest. A transition is over
with the first cycle that lets it settle once its time has come.

An order that is repeated keeps the start of the transition. But the cycle that handles it lets nothing
settle, so a gripper that is told to hold in every cycle goes on closing beyond its time.
-/

namespace MatchRobot

/-! ### The two sides -/

namespace Grip

/-- The transition to a side. -/
def toward (closes : Bool) (since : Micros) : Grip :=
  if closes then .closing since else .opening since

/-- The rest at a side. -/
def atSide (closes : Bool) : Grip :=
  if closes then .closed else .opened

variable {g h : Grip} {closes : Bool} {now span since : Micros}

/-- A grip rests at a side or is on its way to one. -/
lemma cases_sides (g : Grip) : ∃ closes, g = atSide closes ∨ ∃ since, g = toward closes since := by
  cases g with
  | opened => exact ⟨false, .inl rfl⟩
  | opening since => exact ⟨false, .inr ⟨since, rfl⟩⟩
  | closing since => exact ⟨true, .inr ⟨since, rfl⟩⟩
  | closed => exact ⟨true, .inl rfl⟩

lemma toward_inj {closes' : Bool} {since' : Micros} (h : toward closes since = toward closes' since') :
    closes = closes' ∧ since = since' := by
  cases closes <;> cases closes' <;> cases h <;> exact ⟨rfl, rfl⟩

lemma atSide_inj {closes' : Bool} (h : atSide closes = atSide closes') : closes = closes' := by
  cases closes <;> cases closes' <;> cases h <;> rfl

lemma toward_ne_atSide (closes closes' : Bool) (since : Micros) : toward closes since ≠ atSide closes' := by
  cases closes <;> cases closes' <;> exact nofun

lemma opened_ne_toward (closes : Bool) (since : Micros) : opened ≠ toward closes since :=
  (toward_ne_atSide closes false since).symm

lemma stop_atSide (closes : Bool) : (atSide closes).stop = atSide closes := by
  cases closes <;> rfl

lemma stop_toward (closes : Bool) (since : Micros) : (toward closes since).stop = atSide closes := by
  cases closes <;> rfl

/-- An order that is repeated keeps the start of the transition. -/
lemma order_toward (closes : Bool) (now since : Micros) :
    (toward closes since).order closes now = toward closes since := by
  cases closes <;> rfl

/-- Any other order starts it. -/
lemma order_eq (other : ∀ since, g ≠ toward closes since) : g.order closes now = toward closes now := by
  cases closes with
  | true =>
    cases g with
    | closing since => exact absurd rfl (other since)
    | opened | opening | closed => rfl
  | false =>
    cases g with
    | opening since => exact absurd rfl (other since)
    | opened | closing | closed => rfl

/-- A transition settles once its time has come. -/
lemma settle_toward (settled : (toward closes since).settle now span = .ok h) :
    h = if since + span ≤ now then atSide closes else toward closes since := by
  have waits : (do
      let due ← Clock.after since span
      return if due ≤ now then atSide closes else toward closes since) = .ok h := by
    cases closes <;> exact settled
  obtain ⟨due, later, waits⟩ := bind_eq_ok.1 waits
  unfold Clock.after at later
  split at later
  · cases later
    cases waits
    rfl
  · cases later

lemma settle_atSide (settled : (atSide closes).settle now span = .ok h) : h = atSide closes := by
  cases closes <;> cases settled <;> rfl

end Grip

namespace GripCycle

variable {c : GripCycle} {g h : Grip} {cs : List GripCycle} {closes : Bool} {span since : Micros}

/-- A cycle leaves the grip alone, or it was ordered to start a transition, or it ends one. -/
lemma Lawful.cases (lawful : c.Lawful span) :
    c.after = c.before ∨
    (∃ closes, c.act.effect = .order closes ∧ (∀ since, c.before ≠ .toward closes since) ∧
      c.after = .toward closes c.time) ∨
    ∃ closes since, c.before = .toward closes since ∧ c.after = .atSide closes ∧
      (c.act.effect = .stop ∨ c.act.effect = .settle ∧ since + span ≤ c.time) := by
  obtain ⟨moved, -⟩ := lawful
  obtain ⟨side, rests | ⟨since, moves⟩⟩ := c.before.cases_sides
  · -- A grip at rest can only be ordered to move.
    rw [rests] at moved ⊢
    cases effect : c.act.effect with
    | stop =>
      rw [effect] at moved
      exact .inl ((Except.ok.inj moved).symm.trans (Grip.stop_atSide side))
    | order closes =>
      rw [effect] at moved
      have fresh : ∀ since, Grip.atSide side ≠ .toward closes since :=
        fun since => (Grip.toward_ne_atSide closes side since).symm
      exact .inr (.inl ⟨closes, rfl, fresh, (Except.ok.inj moved).symm.trans (Grip.order_eq fresh)⟩)
    | settle =>
      rw [effect] at moved
      exact .inl (Grip.settle_atSide moved)
    | none =>
      rw [effect] at moved
      exact .inl (Except.ok.inj moved).symm
  · rw [moves] at moved ⊢
    cases effect : c.act.effect with
    | stop =>
      rw [effect] at moved
      have stopped := (Except.ok.inj moved).symm.trans (Grip.stop_toward side since)
      exact .inr (.inr ⟨side, since, rfl, stopped, .inl rfl⟩)
    | order closes =>
      rw [effect] at moved
      have ordered : c.after = (Grip.toward side since).order closes c.time := (Except.ok.inj moved).symm
      by_cases going : closes = side
      · rw [going, Grip.order_toward] at ordered
        exact .inl ordered
      · have fresh : ∀ since', Grip.toward side since ≠ .toward closes since' :=
          fun since' same => going (Grip.toward_inj same).1.symm
        exact .inr (.inl ⟨closes, rfl, fresh, ordered.trans (Grip.order_eq fresh)⟩)
    | settle =>
      rw [effect] at moved
      have at_last := Grip.settle_toward moved
      split at at_last
      · next due => exact .inr (.inr ⟨side, since, rfl, at_last, .inr ⟨rfl, due⟩⟩)
      · exact .inl at_last
    | none =>
      rw [effect] at moved
      exact .inl (Except.ok.inj moved).symm

/-! ### The start of a transition -/

/-- A history in whose last part a transition has been going on since it was ordered. -/
def Since (closes : Bool) (since : Micros) (cs : List GripCycle) : Prop :=
  ∃ (earlier : List GripCycle) (start : GripCycle) (later : List GripCycle),
    cs = earlier ++ start :: later ∧
    start.act.effect = .order closes ∧ start.time = since ∧
    (∀ since', start.before ≠ .toward closes since') ∧ start.after = .toward closes since ∧
    ∀ c ∈ later, c.before = .toward closes since ∧ c.after = .toward closes since

/-- A transition that goes on for another cycle. -/
lemma Since.concat (h : Since closes since cs) (before : c.before = .toward closes since)
    (after : c.after = .toward closes since) : Since closes since (cs ++ [c]) := by
  obtain ⟨earlier, start, later, rfl, ordered, time, fresh, begun, goes_on⟩ := h
  refine ⟨earlier, start, later ++ [c], by simp, ordered, time, fresh, begun, ?_⟩
  intro d among
  rcases List.mem_append.1 among with among | last
  · exact goes_on d among
  · obtain rfl := List.mem_singleton.1 last
    exact ⟨before, after⟩

/-- What a cycle can end in the middle of: a transition that was going on before, or one that the cycle
itself was ordered to start. -/
lemma Lawful.toward (lawful : c.Lawful span) (after : c.after = .toward closes since) :
    c.before = .toward closes since ∨ c.act.effect = .order closes ∧ c.time = since ∧
      ∀ since', c.before ≠ .toward closes since' := by
  rcases lawful.cases with same | ⟨side, ordered, fresh, begun⟩ | ⟨side, since', -, ended, -⟩
  · exact .inl (same.symm.trans after)
  · obtain ⟨rfl, time⟩ := Grip.toward_inj (begun.symm.trans after)
    exact .inr ⟨ordered, time, fresh⟩
  · exact absurd (after.symm.trans ended) (Grip.toward_ne_atSide _ _ _)

/-- A transition that goes on at the end of a chain from rest has a start in it. -/
lemma since_of_chain (rests : ∀ closes since, g ≠ .toward closes since) (chain : Chain span g h cs)
    (moves : h = .toward closes since) : Since closes since cs := by
  induction cs using List.reverseRecOn generalizing h with
  | nil =>
    obtain rfl : h = g := chain
    exact absurd moves (rests closes since)
  | append_singleton cs c ih =>
    obtain ⟨m, front, starts, lawful, ends⟩ := chain.split
    obtain rfl : h = c.after := ends
    rcases lawful.toward moves with before | ⟨ordered, time, fresh⟩
    · exact (ih front (starts.symm.trans before)).concat before moves
    · exact ⟨cs, c, [], rfl, ordered, time, fresh, moves,
        fun _ among => absurd among List.not_mem_nil⟩

/-! ### The end of a transition -/

/-- What becomes of a transition in a cycle. -/
lemma Lawful.of_toward (lawful : c.Lawful span) (before : c.before = .toward closes since) :
    (c.act.effect = .settle →
      c.after = if since + span ≤ c.time then .atSide closes else .toward closes since) ∧
    (c.act.effect = .order closes → c.after = .toward closes since) ∧
    (c.after = .atSide closes → c.act.effect = .settle ∨ c.act.effect = .stop) := by
  have moved := lawful.moved
  rw [before] at moved
  refine ⟨fun effect => ?_, fun effect => ?_, fun reached => ?_⟩
  · rw [effect] at moved
    exact Grip.settle_toward moved
  · rw [effect] at moved
    exact (Except.ok.inj moved).symm.trans (Grip.order_toward _ _ _)
  · rcases lawful.cases with same | ⟨side, -, -, begun⟩ | ⟨side, since', -, -, stops | ⟨settles, -⟩⟩
    · exact absurd (before.symm.trans (same.symm.trans reached)) (Grip.toward_ne_atSide _ _ _)
    · exact absurd (begun.symm.trans reached) (Grip.toward_ne_atSide _ _ _)
    · exact .inr stops
    · exact .inl settles

/-- A side is reached only from the transition to it. -/
lemma Lawful.atSide (lawful : c.Lawful span) (after : c.after = .atSide closes) :
    c.before = .atSide closes ∨ ∃ since, c.before = .toward closes since := by
  rcases lawful.cases with same | ⟨side, -, -, begun⟩ | ⟨side, since, moves, ended, -⟩
  · exact .inl (same.symm.trans after)
  · exact absurd (begun.symm.trans after) (Grip.toward_ne_atSide _ _ _)
  · obtain rfl := Grip.atSide_inj (ended.symm.trans after)
    exact .inr ⟨since, moves⟩

end GripCycle

namespace GearIntake

/-! ### Transitions of a run -/

variable {r : Runner GearIntake} {w : World}
  {first b : Stage (Cycle (Subsystem.Job GearIntake)) Empty (Runner GearIntake)}
  {earlier later : List GripCycle} {c : GripCycle}

/-- A gripper that rests when its loop begins reaches a side only from the transition to it. A transition
that a cycle finds has been going on without interruption since the start that it remembers. A cycle that
may settle it does so exactly if its time has come, a cycle that repeats the order leaves it alone with its
start, and nothing but a stop ends it on its side otherwise. -/
theorem transitions_of_run (begun : Cycle.start r w = .ok first)
    (rests : ∀ closes since, r.subsystem.grip ≠ .toward closes since)
    (run : cycles.Run KeepsMind first (earlier ++ c :: later) b) (closes : Bool) :
    (c.after = .atSide closes →
      c.before = .atSide closes ∨ ∃ since, c.before = .toward closes since) ∧
    ∀ since, c.before = .toward closes since →
      GripCycle.Since closes since earlier ∧
      (c.act.effect = .settle →
        c.after = if since + r.subsystem.config.transitionTime ≤ c.time then .atSide closes
          else .toward closes since) ∧
      (c.act.effect = .order closes → c.after = .toward closes since) ∧
      (c.after = .atSide closes → c.act.effect = .settle ∨ c.act.effect = .stop) := by
  obtain ⟨progress, r', w'⟩ := first
  obtain ⟨rfl, rfl, -⟩ := Cycle.start_eq_ok begun
  obtain ⟨g, front, starts, lawful, -⟩ := (chain_of_run run).1.split
  refine ⟨lawful.atSide, fun since before => ⟨?_, lawful.of_toward before⟩⟩
  exact GripCycle.since_of_chain rests front (starts.symm.trans before)

/-- A gripper that is told to hold twice has closed in the quiet cycle a second later. -/
theorem held_gripper_closes : ∃ first cs c b,
    Cycle.start (⟨{}, 0⟩ : Runner GearIntake) {} = .ok first ∧
      (∀ closes since, Grip.opened ≠ .toward closes since) ∧
      cycles.Run KeepsMind first (cs ++ [c]) b ∧ cs.length = 2 ∧
      GripCycle.Since true Clock.second cs ∧ c.after = .closed := by
  have played : plays [.gear (.hold 0.5), .gear (.hold 0.5), .system .msgTimeout] (fun cs c _ =>
      cs.length == 2 && c.before == .closing Clock.second && c.act.effect = .settle &&
        Clock.second + (⟨{}, 0⟩ : Runner GearIntake).subsystem.config.transitionTime ≤ c.time) =
      true := by
    decide +kernel
  obtain ⟨first, cs, a, c, b, begun, run, step, passed⟩ := exists_of_plays KeepsMind played
    fun _ => keepsMind_of_secondly
  simp only [Bool.and_eq_true, beq_iff_eq, decide_eq_true_eq] at passed
  obtain ⟨⟨⟨two, before⟩, settles⟩, due⟩ := passed
  have run := run.look step
  have transition := (transitions_of_run begun Grip.opened_ne_toward run true).2 _ before
  obtain ⟨since, settled, -⟩ := transition
  exact ⟨first, cs, c, b, begun, Grip.opened_ne_toward, run, two, since,
    (settled settles).trans (if_pos due)⟩

/-- A closing gripper whose time has come does not settle in a cycle that repeats the hold. -/
theorem repeated_hold_postpones : ¬ ∀ (r : Runner GearIntake) (w : World) first cs c b closes since,
    Cycle.start r w = .ok first → (∀ closes since, r.subsystem.grip ≠ .toward closes since) →
    cycles.Run KeepsMind first (cs ++ [c]) b → c.before = .toward closes since →
    c.act.effect = .order closes → since + r.subsystem.config.transitionTime ≤ c.time →
    c.after = .atSide closes := by
  intro claim
  have played : plays [.gear (.hold 0.5), .gear (.hold 0.5)] (fun _ c _ =>
      c.before == .closing Clock.second && c.act.effect = .order true && Clock.second +
        (⟨{}, 0⟩ : Runner GearIntake).subsystem.config.transitionTime ≤ c.time &&
        c.after == .closing Clock.second) = true := by
    decide +kernel
  obtain ⟨first, cs, a, c, b, begun, run, step, passed⟩ := exists_of_plays KeepsMind played
    fun _ => keepsMind_of_secondly
  simp only [Bool.and_eq_true, beq_iff_eq, decide_eq_true_eq] at passed
  obtain ⟨⟨⟨before, ordered⟩, due⟩, after⟩ := passed
  have reached := claim _ _ first cs c b true Clock.second begun Grip.opened_ne_toward
    (run.look step) before ordered due
  rw [after] at reached
  cases reached

end GearIntake

end MatchRobot
