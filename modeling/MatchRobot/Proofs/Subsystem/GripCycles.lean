import MatchRobot.Proofs.Subsystem.FloorActs
import MatchRobot.Proofs.Subsystem.Gripper

/-!
# The cycles of the gripper

In each of its cycles the gear intake does one of three things: it hears of a mode, its check cuts the
power, or it handles a message. A `GripAct` says which, and its `GripEffect` what that makes of the grip.
`GearIntake.cycles` is the loop of the gear intake as a routine whose notes are its cycles, each with
the grip before and after it and with what it showed on the dashboard.

Every cycle keeps to `GripCycle.Lawful`, and between two cycles the grip stays as it was, so the cycles
of a run form a chain (`GripCycle.Chain`). What becomes of a grip in the long run is read off such
chains.
-/

namespace MatchRobot

/-! ### What is shown on the dashboard -/

/-- The lamp that a report switches, if it has the given key. -/
def Report.lamp? (key : String) : Report → Option Bool
  | flag k on => if k = key then some on else none
  | text _ _ | number _ _ | notice _ => none

/-- How a lamp was switched between two moments, in order. -/
def World.switched (key : String) (v w : World) : List Bool :=
  ((w.journal.take (w.journal.length - v.journal.length)).filterMap
    fun e => e.report.lamp? key).reverse

/-- Between two moments at the same time, the journal has only grown, and a lamp was switched so. -/
structure World.Shows (key : String) (v w : World) (shown : List Bool) : Prop where
  now : w.now = v.now
  grown : ∃ new : Journal, w.journal = new ++ v.journal ∧
    (new.filterMap fun e => e.report.lamp? key).reverse = shown

namespace World

variable {key : String} {u v w : World} {shown more : List Bool}

lemma Shows.refl (w : World) : w.Shows key w [] :=
  ⟨rfl, [], rfl, rfl⟩

lemma Shows.trans (h : u.Shows key v shown) (k : v.Shows key w more) :
    u.Shows key w (shown ++ more) := by
  obtain ⟨new, grown, rfl⟩ := h.grown
  obtain ⟨newer, grown', rfl⟩ := k.grown
  refine ⟨k.now.trans h.now, newer ++ new, ?_, ?_⟩
  · rw [grown', grown, List.append_assoc]
  · rw [List.filterMap_append, List.reverse_append]

/-- A report switches the lamp if it has its key. -/
lemma shows_tell (w : World) (r : Report) : w.Shows key (w.tell r) (r.lamp? key).toList := by
  refine ⟨rfl, [⟨w.now, r⟩], rfl, ?_⟩
  cases lit : r.lamp? key <;> simp [lit]

lemma shows_notice (w : World) (n : Notice) : w.Shows key (w.notice n) [] :=
  shows_tell w (.notice n)

/-- What was shown can be read off the journal. -/
lemma Shows.switched_eq (h : v.Shows key w shown) : switched key v w = shown := by
  obtain ⟨new, grown, shows⟩ := h.grown
  rw [switched, grown, List.length_append, Nat.add_sub_cancel, List.take_left, shows]

end World

/-! ### What a cycle does to the grip -/

/-- The grip after an order to move to a side: a hold closes it, a release opens it. -/
def Grip.order (closes : Bool) (now : Micros) (g : Grip) : Grip :=
  if closes then g.hold now else g.release now

/-- What becomes of a grip in a cycle. -/
inductive GripEffect
  | stop
  | order (closes : Bool)
  /-- A transition settles if its time has come. -/
  | settle
  | none
  deriving DecidableEq

namespace GripEffect

/-- The grip after a cycle. -/
def apply (now span : Micros) (g : Grip) : GripEffect → Except Fault Grip
  | stop => .ok g.stop
  | order closes => .ok (g.order closes now)
  | settle => g.settle now span
  | none => .ok g

/-- Whether a cycle ends before it looks whether the grip has changed. -/
def isSilent : GripEffect → Bool
  | stop | none => true
  | order _ | settle => false

end GripEffect

/-- What a cycle of the gear intake comes to. -/
inductive GripAct
  | heard (mode : Mode)
  /-- The check cut the power. -/
  | cut
  | handled (command : Command)

/-- What an act does to the grip. -/
def GripAct.effect : GripAct → GripEffect
  | heard mode => if mode.isEnabled then .none else .stop
  | cut | handled (.gear .stop) => .stop
  | handled (.gear (.hold _)) => .order true
  | handled (.gear (.release _)) => .order false
  | handled _ => .settle

/-- A cycle of the gear intake. -/
structure GripCycle where
  time : Micros
  act : GripAct
  before : Grip
  after : Grip
  /-- What it showed under "Gear closed". -/
  shown : List Bool

namespace GripCycle

/-- The grip is in another state than before. -/
def changes (c : GripCycle) : Bool :=
  !c.before.sameKind c.after

/-- The law of a cycle: the effect of its act moves the grip, and a change is shown unless it is silent. -/
structure Lawful (span : Micros) (c : GripCycle) : Prop where
  moved : c.act.effect.apply c.time span c.before = .ok c.after
  shows : c.shown = if !c.act.effect.isSilent && c.changes then [c.after.isClosed] else []

/-- Cycles that lead from one grip to another, each from where the one before it ended. -/
def Chain (span : Micros) (g h : Grip) : List GripCycle → Prop
  | [] => h = g
  | c :: cs => c.before = g ∧ c.Lawful span ∧ Chain span c.after h cs

lemma Chain.append {span : Micros} {f g h : Grip} {cs ds : List GripCycle} (k : Chain span f g cs)
    (l : Chain span g h ds) : Chain span f h (cs ++ ds) := by
  induction cs generalizing f with
  | nil =>
    obtain rfl : g = f := k
    exact l
  | cons c cs ih =>
    obtain ⟨starts, lawful, rest⟩ := k
    exact ⟨starts, lawful, ih rest⟩

/-- A chain can be cut anywhere. -/
lemma Chain.split {span : Micros} {f h : Grip} {cs ds : List GripCycle}
    (k : Chain span f h (cs ++ ds)) : ∃ g, Chain span f g cs ∧ Chain span g h ds := by
  induction cs generalizing f with
  | nil => exact ⟨f, rfl, k⟩
  | cons c cs ih =>
    obtain ⟨starts, lawful, rest⟩ := k
    obtain ⟨g, front, back⟩ := ih rest
    exact ⟨g, ⟨starts, lawful, front⟩, back⟩

end GripCycle

namespace GearIntake

/-- The key of the lamp that tells whether the gripper is closed. -/
def lampKey : String := "Gear closed"

/-- What a cycle of the gear intake comes to when it takes up a message. -/
def actUpon (r : Runner GearIntake) (m : Message) : GripAct :=
  match m.command with
  | .state mode => .heard mode
  | c => if Part.gearIntake.cuts r then .cut else .handled c

/-- The loop of the gear intake; noted are its cycles. -/
def cycles : Routine (Cycle (Subsystem.Job GearIntake)) Empty (Runner GearIntake) GripCycle where
  resume := Cycle.runOn
  notes _ c wake r w := match c with
    | .listening => match Cycle.runOn .listening wake r w with
      | .ok (_, r', w') => [⟨w.now, actUpon r wake.message, r.subsystem.grip, r'.subsystem.grip,
          w.switched lampKey w'⟩]
      | .error _ => []
    | _ => []

/-- What the surroundings may do to a gear intake: whatever they like to its motor and to the world. -/
def KeepsMind (x y : Runner GearIntake × World) : Prop :=
  y.1.subsystem.grip = x.1.subsystem.grip ∧ y.1.subsystem.config = x.1.subsystem.config

/-! ### One cycle -/

variable {r r' : Runner GearIntake} {g h : GearIntake} {v w : World} {m : Message}

/-- Moving to a grip shows a change of state. -/
lemma moveTo_shows (g : GearIntake) (grip : Grip) (w : World) :
    w.Shows lampKey (g.moveTo grip w).2 (if !g.grip.sameKind grip then [grip.isClosed] else []) := by
  cases same : g.grip.sameKind grip with
  | true =>
    have kept : (g.moveTo grip w).2 = w := by
      simp only [moveTo, same, if_true]
    rw [kept]
    exact .refl w
  | false =>
    have told : (g.moveTo grip w).2 =
        (w.notice (.gripChanged g.grip grip)).tell (.flag lampKey grip.isClosed) := by
      simp only [moveTo, same, Bool.false_eq_true, if_false, lampKey]
    rw [told]
    exact (World.shows_notice w _).trans (World.shows_tell _ _)

/-- Handling a command keeps to the law of a cycle. -/
lemma handle_lawful {c : Command} (done : g.handle c v = .ok (h, w)) :
    (GripAct.handled c).effect.apply v.now g.config.transitionTime g.grip = .ok h.grip ∧
      h.config = g.config ∧ v.Shows lampKey w
        (if !(GripAct.handled c).effect.isSilent && !g.grip.sameKind h.grip then [h.grip.isClosed] else []) := by
  have settles : (∀ command, c ≠ .gear command) → (do
      let grip ← g.grip.settle v.now g.config.transitionTime
      return g.moveTo grip v) = Except.ok (h, w) →
      g.grip.settle v.now g.config.transitionTime = .ok h.grip ∧ h.config = g.config ∧
        v.Shows lampKey w (if !g.grip.sameKind h.grip then [h.grip.isClosed] else []) := by
    intro other done
    obtain ⟨grip, settled, done⟩ := bind_eq_ok.1 done
    cases done
    exact ⟨settled, rfl, moveTo_shows g grip v⟩
  cases c with
  | gear command =>
    cases command with
    | hold speed =>
      cases done
      exact ⟨rfl, rfl, moveTo_shows { g with speed := speed } _ v⟩
    | release speed =>
      cases done
      exact ⟨rfl, rfl, moveTo_shows { g with speed := speed } _ v⟩
    | stop =>
      cases done
      exact ⟨rfl, rfl, .refl v⟩
  | _ => exact settles nofun done

/-- An inspection switches no lamp. -/
lemma inspect_shows (r : Runner GearIntake) (v : World) :
    v.Shows lampKey (Cycle.inspect r v).2.2 [] := by
  cases due : Cycle.checkDue r.loops with
  | false =>
    rw [Cycle.inspect_of_not_due due]
    exact .refl v
  | true =>
    have checked : v.Shows lampKey (Subsystem.check r.subsystem v).2.2 [] := by
      change v.Shows lampKey (r.subsystem.check v).2.2 []
      simp only [check]
      split
      · exact (World.shows_tell v _).trans (World.shows_notice _ _)
      · exact World.shows_tell v _
    simpa only [Cycle.inspect, due, if_true] using checked

lemma announce_shows (stamp : String) (m : Message) (v : World) :
    v.Shows lampKey (Cycle.announce stamp m v) [] := by
  unfold Cycle.announce
  split
  · exact .refl v
  · exact World.shows_notice v _

/-- What a cycle makes of the gear intake when it takes up a message. -/
structure Cycled (r r' : Runner GearIntake) (m : Message) (v w : World) : Prop where
  moved : (actUpon r m).effect.apply v.now r.subsystem.config.transitionTime r.subsystem.grip =
    .ok r'.subsystem.grip
  config : r'.subsystem.config = r.subsystem.config
  shows : v.Shows lampKey w (if !(actUpon r m).effect.isSilent &&
    !r.subsystem.grip.sameKind r'.subsystem.grip then [r'.subsystem.grip.isClosed] else [])

lemma actUpon_of_isMode {mode : Mode} (r : Runner GearIntake) (command : m.command = .state mode) :
    actUpon r m = .heard mode := by
  rw [actUpon, command]

lemma actUpon_of_isMode_eq_false (r : Runner GearIntake) (news : m.isMode = false) :
    actUpon r m = if Part.gearIntake.cuts r then .cut else .handled m.command := by
  unfold actUpon
  unfold Message.isMode at news
  split
  · next mode command =>
    rw [command] at news
    cases news
  · rfl

/-- A message that is no mode is refused by a check that cuts the power, or it is handled. -/
lemma cycled_of_treat {x : Verdict} (news : m.isMode = false)
    (done : Cycle.treat m { r with loops := r.loops + 1 } v = .ok (.finished x, r', w)) :
    Cycled r r' m v w := by
  have inspected := inspect_shows { r with loops := r.loops + 1 } v
  have same := Part.inspect_eq_cuts .gearIntake r v
  have act := actUpon_of_isMode_eq_false r news
  unfold Cycle.treat at done
  rcases inspect_cases { r with loops := r.loops + 1 } v with ⟨tripped, stopped⟩ | ⟨passed, kept⟩
  · have cut : actUpon r m = .cut := by rw [act, ← same, tripped, if_pos rfl]
    simp only [tripped, if_true] at done
    cases done
    refine ⟨?_, ?_, ?_⟩
    · rw [cut, stopped]
      rfl
    · rw [stopped]
      rfl
    · rw [cut]
      exact inspected.trans (World.shows_notice _ _)
  · have handled : actUpon r m = .handled m.command := by rw [act, ← same, passed, if_neg nofun]
    simp only [passed, Bool.false_eq_true, if_false] at done
    obtain ⟨stage, worked, done⟩ := bind_eq_ok.1 done
    obtain ⟨⟨h, u⟩, obeyed, worked⟩ := bind_eq_ok.1 worked
    cases worked
    cases done
    rw [kept] at obeyed
    have heard := inspected.trans (announce_shows stamp m _)
    obtain ⟨moved, config, shows⟩ := handle_lawful obeyed
    refine ⟨?_, config, ?_⟩
    · rw [handled, ← heard.now]
      exact moved
    · rw [handled]
      exact heard.trans shows

/-- Neither the answer to a message nor the begin of the next cycle has to do with the world. -/
lemma world_of_conclude {x : Verdict} {p : Progress (Cycle (Subsystem.Job GearIntake)) Empty}
    (done : Cycle.again (Cycle.conclude m (.finished x, r, v)) = .ok (p, r', w)) : r' = r ∧ w = v := by
  cases asked : m.replyTo with
  | none =>
    simp only [Cycle.conclude, Cycle.answer, asked] at done
    obtain ⟨same, still, -⟩ := Cycle.start_eq_ok done
    exact ⟨same, still⟩
  | some a =>
    simp only [Cycle.conclude, Cycle.answer, asked] at done
    cases done
    exact ⟨rfl, rfl⟩

/-- A cycle hears of a mode, or comes to a verdict. -/
lemma cycled_of_runOn {wake : Wake} {p : Progress (Cycle (Subsystem.Job GearIntake)) Empty}
    (done : Cycle.runOn .listening wake r v = .ok (p, r', w)) : Cycled r r' wake.message v w := by
  change Cycle.take wake.message r v >>= Cycle.again = .ok (p, r', w) at done
  cases news : wake.message.isMode with
  | true =>
    obtain ⟨mode, command, taken⟩ := Cycle.take_of_isMode (r := r) (w := v) news
    rw [taken] at done
    obtain ⟨stage, heard, done⟩ := bind_eq_ok.1 done
    obtain ⟨entered, worked, heard⟩ := bind_eq_ok.1 heard
    cases worked
    cases heard
    obtain ⟨rfl, rfl, -⟩ := Cycle.start_eq_ok done
    have act := actUpon_of_isMode r command
    refine ⟨?_, ?_, ?_⟩
    · rw [act]
      simp only [GripAct.effect, enter]
      cases mode.isEnabled <;> rfl
    · simp only [enter]
      cases mode.isEnabled <;> rfl
    · have silent : (GripAct.heard mode).effect.isSilent = true := by
        simp only [GripAct.effect]
        cases mode.isEnabled <;> rfl
      rw [act, silent]
      exact World.shows_notice v _
  | false =>
    rw [Cycle.take_of_isMode_eq_false news] at done
    obtain ⟨stage, concluded, done⟩ := bind_eq_ok.1 done
    obtain ⟨⟨progress, r'', u⟩, treated, concluded⟩ := bind_eq_ok.1 concluded
    cases concluded
    cases progress with
    | waiting wait job => exact (jobless job).elim
    | finished x =>
      obtain ⟨rfl, rfl⟩ := world_of_conclude done
      exact cycled_of_treat news treated

/-! ### Runs -/

variable {a b : Stage (Cycle (Subsystem.Job GearIntake)) Empty (Runner GearIntake)}
  {cs : List GripCycle} {span : Micros}

/-- A look at the gear intake keeps to the law of its cycles. -/
lemma chain_of_step (step : cycles.Step a cs b) :
    GripCycle.Chain a.2.1.subsystem.config.transitionTime a.2.1.subsystem.grip b.2.1.subsystem.grip cs ∧
      b.2.1.subsystem.config = a.2.1.subsystem.config := by
  cases step with
  | pending looked => exact ⟨rfl, rfl⟩
  | @woken wait wake c r v w _ looked worked =>
    obtain ⟨p, r', u⟩ := b
    cases c with
    | listening =>
      have worked : Cycle.runOn .listening wake r w = .ok (p, r', u) := worked
      have cycled := cycled_of_runOn worked
      simp only [cycles, worked]
      refine ⟨⟨rfl, ⟨cycled.moved, ?_⟩, rfl⟩, cycled.config⟩
      exact cycled.shows.switched_eq
    | entering job | handling m job => exact (jobless job).elim
    | replying =>
      obtain ⟨rfl, -⟩ := Cycle.start_eq_ok worked
      exact ⟨rfl, rfl⟩

/-- The cycles of a run form a chain from the grip at its begin to the grip at its end. -/
lemma chain_of_run (run : cycles.Run KeepsMind a cs b) :
    GripCycle.Chain a.2.1.subsystem.config.transitionTime a.2.1.subsystem.grip b.2.1.subsystem.grip cs ∧
      b.2.1.subsystem.config = a.2.1.subsystem.config := by
  induction run with
  | start => exact ⟨rfl, rfl⟩
  | look run step ih =>
    obtain ⟨chain, config⟩ := ih
    obtain ⟨next, config'⟩ := chain_of_step step
    rw [config] at next
    exact ⟨chain.append next, config'.trans config⟩
  | around run change ih =>
    obtain ⟨chain, config⟩ := ih
    obtain ⟨grip, same⟩ := change
    rw [grip]
    exact ⟨chain, same.trans config⟩

/-! ### Runs with nothing but mail -/

/-- Messages arrive a second apart, and each is taken up before the next one. -/
def secondly (commands : List Command) : List (Routine.Move (Runner GearIntake)) :=
  commands.flatMap fun c => [.look, Part.second .gearIntake, Part.deliver .gearIntake { command := c }]

/-- Plays a fresh gear intake, and checks its last cycle against those before and how it leaves the
intake. -/
def plays (commands : List Command) (good : List GripCycle → GripCycle →
    Stage (Cycle (Subsystem.Job GearIntake)) Empty (Runner GearIntake) → Bool) : Bool :=
  (Cycle.start (⟨{}, 0⟩ : Runner GearIntake) {}).toOption.any fun first =>
    (cycles.play (secondly commands) first).any fun x =>
      (cycles.look? x.2).any fun y => match y.1 with
        | [c] => good x.1 c y.2
        | _ => false

lemma eq_of_secondly {commands : List Command}
    {change : Runner GearIntake × World → Runner GearIntake × World}
    (h : .around change ∈ secondly commands) :
    change = (fun x => (x.1, { x.2 with now := x.2.now + Clock.second })) ∨
      ∃ c, change = fun x => (x.1, (x.2.offer .gearIntake { command := c }).2) := by
  obtain ⟨c, -, h⟩ := List.mem_flatMap.1 h
  simp only [List.mem_cons, reduceCtorEq, List.not_mem_nil, or_false, false_or] at h
  rcases h with h | h
  · cases h
    exact .inl rfl
  · cases h
    exact .inr ⟨c, rfl⟩

lemma exists_of_plays {commands : List Command} {good : List GripCycle → GripCycle →
      Stage (Cycle (Subsystem.Job GearIntake)) Empty (Runner GearIntake) → Bool}
    (outside : Runner GearIntake × World → Runner GearIntake × World → Prop)
    (h : plays commands good = true)
    (bounds : ∀ change, .around change ∈ secondly commands → ∀ x, outside x (change x)) :
    ∃ first cs a c b, Cycle.start (⟨{}, 0⟩ : Runner GearIntake) {} = .ok first ∧
      cycles.Run outside first cs a ∧ cycles.Step a [c] b ∧ good cs c b = true := by
  obtain ⟨first, cs, a, begun, run, looked⟩ := Routine.exists_run_of_begun outside h bounds
  obtain ⟨⟨l, b⟩, looked, passed⟩ := (Option.any_eq_true _ _).1 looked
  split at passed
  · next c one =>
    obtain rfl : l = [c] := one
    exact ⟨first, cs, a, c, b, begun, run, Routine.step_of_look? looked, passed⟩
  · cases passed

lemma keepsMind_of_secondly {commands : List Command}
    {change : Runner GearIntake × World → Runner GearIntake × World}
    (h : .around change ∈ secondly commands) (x : Runner GearIntake × World) :
    KeepsMind x (change x) := by
  rcases eq_of_secondly h with rfl | ⟨c, rfl⟩ <;> exact ⟨rfl, rfl⟩

end GearIntake

end MatchRobot
