import MatchRobot.Proofs.Subsystem.Steady
import MatchRobot.Proofs.Subsystem.Rest

/-!
# Levers

The driver works the climber, the hopper and the roller of the floor intake with a lever each. Some
messages say that the motors of a lever are to run, some that they are to stand still, and between two
messages the motors do what the last such message said (`Lever.steady`).

The climber and the hopper keep to that whatever happens. A roller that runs may miss that it is to stand
still: it takes no notice of a change of mode, and a cutoff of the arm refuses a stop like any other
command. Its part knows nothing of that until a command to the roller is carried out again, and so long
the roller is `Lever.Notes.lost`.
-/

namespace MatchRobot

/-- The levers that the driver holds. -/
inductive Lever
  | climber
  | hopper
  | roller
  deriving DecidableEq

namespace Lever

/-- The part whose motors a lever works. -/
def part : Lever → Part
  | climber => .climber
  | hopper => .hopper
  | roller => .gearFloor

/-- Whether the motors of a lever are to stand still after a command, if that says anything of it. -/
def still? : Lever → Command → Option Bool
  | _, .state _ => some true
  | climber, .climber c => match c with
    | .stop => some true
    | .up _ | .down _ => some false
    | .pulse _ => none
  | hopper, .hopper c => match c with
    | .stop => some true
    | .up _ | .down _ => some false
  | roller, .floor c => match c with
    | .stop | .hangGear => some true
    | .pullIn _ | .pushOut _ => some false
    | _ => none
  | _, _ => none

/-- What the deeds of its part tell of a lever. -/
structure Notes where
  /-- Its motors are to stand still. -/
  still : Bool := true
  /-- The command that was carried out last set its motors going. -/
  runs : Bool := false
  /-- Since then the part has heard of a mode, or a cutoff has refused to stop them. -/
  lost : Bool := false

/-- What a deed adds to that. -/
def note (l : Lever) (n : Notes) : Deed → Notes
  | .took m => ⟨(l.still? m.command).getD n.still, n.runs, n.lost || n.runs && m.isMode⟩
  | .swept m => { n with still := (l.still? m.command).getD n.still }
  | .settled m .refused => { n with lost := n.lost || n.runs && l.still? m.command == some true }
  | .settled m (.handled _) => match l.still? m.command with
    | some still => { n with runs := !still, lost := false }
    | none => n
  | .posted .. => n

/-- What the motors of a lever do during a job: the macro that hangs a gear stops the roller when it
lowers the arm. -/
def Working : (l : Lever) → l.part.Job → l.part.State → Prop
  | climber, _, _ | hopper, _, _ => True
  | roller, stage, f => match (stage : FloorIntake.HangStage) with
    | .rolling => True
    | .lowered | .raised => Part.gearFloor.AtRest f

/-- Between two messages the motors of a lever stand still if they are to, unless it is the roller and is
lost; and a roller stands still that was not set going. -/
structure Obeys (l : Lever) (n : Notes) (s : l.part.State) : Prop where
  still : n.still = true → l.part.AtRest s ∨ l = .roller ∧ n.lost = true
  unmoved : l = .roller → n.runs = false → l.part.AtRest s

/-- The account of a lever. -/
def ledger (l : Lever) : Ledger l.part.State Notes where
  note := l.note
  rest := l.Obeys
  busy _ := l.Working

section

variable (l : Lever) {n : Notes} {s : l.part.State}

lemma rest_of_atRest (h : l.part.AtRest s) : l.ledger.rest n s :=
  ⟨fun _ => .inl h, fun _ _ => h⟩

/-- Motors that were set going keep to the ledger whatever they do. -/
lemma rest_of_runs (asked : n.still = false) (moved : n.runs = true) : l.ledger.rest n s := by
  refine ⟨fun still => ?_, fun _ unmoved => ?_⟩
  · cases asked.symm.trans still
  · cases moved.symm.trans unmoved

/-- A command that says nothing of a lever changes nothing of what is known of it. -/
lemma rest_of_silent {m : Message} {reply : Reply} (news : m.isMode = false)
    (silent : l.still? m.command = none) (h : l.ledger.rest n s) :
    l.ledger.rest (l.note (l.note n (.took m)) (.settled m (.handled reply))) s := by
  simpa [note, silent, news] using h

lemma note_timeout (n : Notes) : l.note n (.took .timeout) = n := by
  have silent : l.still? (.system .msgTimeout) = none := by
    cases l <;> rfl
  simp [note, Message.timeout, Message.isMode, silent]

/-- An inspection that stops the motors or leaves them alone keeps to the ledger. -/
lemma rest_of_checked {t : l.part.State} {tripped : Bool}
    (checked : l.part.AtRest t ∨ tripped = false ∧ t = s) (h : l.ledger.rest n s) :
    l.ledger.rest n t := by
  rcases checked with rest | ⟨-, rfl⟩
  · exact l.rest_of_atRest rest
  · exact h

lemma rest_of_tripped {t : l.part.State} {tripped : Bool}
    (checked : l.part.AtRest t ∨ tripped = false ∧ t = s) (h : tripped = true) :
    l.ledger.rest n t := by
  rcases checked with rest | ⟨passed, -⟩
  · exact l.rest_of_atRest rest
  · cases passed.symm.trans h

end

/-- What the surroundings do to the devices of a part leaves its motors at rest. -/
lemma atRest_of_senses {p : Part} {s t : p.State} (h : p.AtRest s) (sensed : p.Senses s t) :
    p.AtRest t := by
  intro x hx
  rw [sensed.2] at hx
  exact h x hx

/-- What leaves motors at rest that are at rest keeps to the ledger. -/
lemma Obeys.imp {l : Lever} {n : Notes} {s t : l.part.State} (h : l.ledger.rest n s)
    (rests : l.part.AtRest s → l.part.AtRest t) : l.ledger.rest n t :=
  ⟨fun still => (h.still still).imp rests id, fun roller unmoved => rests (h.unmoved roller unmoved)⟩

lemma rest_of_senses {l : Lever} {n : Notes} {s t : l.part.State} (h : l.ledger.rest n s)
    (sensed : l.part.Senses s t) : l.ledger.rest n t :=
  Obeys.imp h fun rests => atRest_of_senses rests sensed

/-! ### The climber -/

lemma atRest_climb (c : Climber) : Part.climber.AtRest (c.climb 0) := by
  have still := c.still_climb
  simp [Part.AtRest, Part.outputs, still.1, still.2]

/-- An inspection of the climber stops it or leaves it alone. -/
lemma check_climber (c : Climber) (w : World) :
    Part.climber.AtRest (c.check w).2.1 ∨ (c.check w).1 = false ∧ (c.check w).2.1 = c := by
  unfold Climber.check
  simp only
  split
  · exact .inl (atRest_climb c)
  · exact .inr ⟨rfl, rfl⟩

/-- A pulse ends at rest. -/
lemma leads_pulse {c : Climber} {p : Climber.Pulse} {w : World}
    {stage : Stage Climber.Pulse Reply Climber} (done : c.pulse p w = .ok stage) :
    stage.1.Leads (fun _ => True) fun _ => Part.climber.AtRest stage.2.1 := by
  unfold Climber.pulse at done
  split at done
  · obtain ⟨wait, -, done⟩ := bind_eq_ok.1 done
    cases done
    trivial
  · cases done
    exact atRest_climb c

lemma leads_climber {c : Climber} {m : Message} {n : Notes} {w : World}
    {stage : Stage Climber.Pulse Reply Climber} (news : m.isMode = false)
    (h : (ledger .climber).rest n c) (done : Climber.handle m.command c w = .ok stage) :
    stage.1.Leads (fun _ => True) fun reply => (ledger .climber).rest
      (note .climber (note .climber n (.took m)) (.settled m (.handled reply))) stage.2.1 := by
  obtain ⟨command, box, call⟩ := m
  cases command with
  | climber k =>
    cases k with
    | up speed | down speed =>
      cases done
      exact rest_of_runs .climber rfl rfl
    | stop =>
      cases done
      exact rest_of_atRest .climber (atRest_climb c)
    | pulse speed =>
      obtain ⟨deadline, -, done⟩ := bind_eq_ok.1 done
      exact (leads_pulse done).imp (fun _ => id) fun _ => rest_of_atRest .climber
  | state mode => cases news
  | _ =>
    cases done
    exact rest_of_silent .climber news rfl h

lemma climber_steady : Subsystem.Steady (ledger .climber) Part.climber.Senses Part.climber.Sweeps where
  posted := rfl
  quiet := note_timeout .climber _
  enter _ _ _ := ⟨_, _, rfl, rest_of_atRest .climber (atRest_climb _)⟩
  check w h := rest_of_checked .climber (check_climber _ w) h
  refuse _ _ tripped := rest_of_tripped .climber (check_climber _ _) tripped
  handle := leads_climber
  resume _ done := (leads_pulse done).imp (fun _ => id) fun _ => rest_of_atRest .climber
  sweep h := h.elim
  sense := rest_of_senses
  feel _ _ := trivial

/-! ### The hopper -/

lemma atRest_run (h : Hopper) : Part.hopper.AtRest (h.run 0) := by
  have still : ((h.run 0).motor.value == 0) = true := h.still_run
  simp [Part.AtRest, Part.outputs, still]

lemma check_hopper (h : Hopper) (w : World) :
    Part.hopper.AtRest (h.check w).2.1 ∨ (h.check w).1 = false ∧ (h.check w).2.1 = h := by
  unfold Hopper.check
  simp only
  split
  · exact .inl (atRest_run h)
  · exact .inr ⟨rfl, rfl⟩

lemma rest_hopper {h : Hopper} {m : Message} {n : Notes} (reply : Reply) (news : m.isMode = false)
    (rest : (ledger .hopper).rest n h) : (ledger .hopper).rest
      (note .hopper (note .hopper n (.took m)) (.settled m (.handled reply))) (h.handle m.command) := by
  obtain ⟨command, box, call⟩ := m
  cases command with
  | hopper k =>
    cases k with
    | up speed | down speed => exact rest_of_runs .hopper rfl rfl
    | stop => exact rest_of_atRest .hopper (atRest_run h)
  | state mode => cases news
  | _ => exact rest_of_silent .hopper news rfl rest

lemma hopper_steady : Subsystem.Steady (ledger .hopper) Part.hopper.Senses Part.hopper.Sweeps where
  posted := rfl
  quiet := note_timeout .hopper _
  enter _ _ _ := ⟨_, _, rfl, rest_of_atRest .hopper (atRest_run _)⟩
  check w h := rest_of_checked .hopper (check_hopper _ w) h
  refuse _ _ tripped := rest_of_tripped .hopper (check_hopper _ _) tripped
  handle := by
    intro n h m w stage news k done
    cases done
    exact rest_hopper .ok news k
  resume := by
    intro n h m job
    exact nomatch job
  sweep h := h.elim
  sense := rest_of_senses
  feel _ _ := trivial

/-! ### The roller -/

lemma atRest_roll (f : FloorIntake) : Part.gearFloor.AtRest (f.roll 0) := by
  have zero : ((0 : Float32) == 0) = true := by decide
  simp [Part.AtRest, Part.outputs, FloorIntake.roll, Motor.set, zero]

/-- Moving the arm leaves the roller as it is. -/
lemma atRest_moveArm {f : FloorIntake} (h : Part.gearFloor.AtRest f) (target : ArmPosition)
    (w : World) : Part.gearFloor.AtRest (f.moveArm target w).1 := by
  have same := FloorIntake.roller_moveArm f target w
  simpa [Part.AtRest, Part.outputs, same] using h

/-- What leaves the roller as it is keeps to the ledger. -/
lemma rest_of_roller {f g : FloorIntake} {n : Notes} (h : (ledger .roller).rest n f)
    (same : g.roller = f.roller) : (ledger .roller).rest n g :=
  Obeys.imp h fun rests => by
    simpa [part, Part.AtRest, Part.outputs, same] using rests

/-- The macro that hangs a gear goes on with the roller at rest, from when it lowers the arm. -/
lemma leads_hang {f : FloorIntake} {job : FloorIntake.HangStage} {w : World}
    {stage : Stage FloorIntake.HangStage Reply FloorIntake} (h : Working .roller job f)
    (done : f.hang job w = .ok stage) :
    stage.1.Leads (fun job => Working .roller job stage.2.1) fun _ =>
      Part.gearFloor.AtRest stage.2.1 := by
  cases job with
  | rolling =>
    obtain ⟨wait, -, done⟩ := bind_eq_ok.1 done
    cases done
    exact atRest_moveArm (atRest_roll f) _ _
  | lowered =>
    obtain ⟨wait, -, done⟩ := bind_eq_ok.1 done
    cases done
    exact atRest_moveArm h _ _
  | raised =>
    cases done
    exact h

lemma leads_roller {f : FloorIntake} {m : Message} {n : Notes} {w : World}
    {stage : Stage FloorIntake.HangStage Reply FloorIntake} (news : m.isMode = false)
    (h : (ledger .roller).rest n f) (done : f.handle m.command w = .ok stage) :
    stage.1.Leads (fun job => Working .roller job stage.2.1) fun reply => (ledger .roller).rest
      (note .roller (note .roller n (.took m)) (.settled m (.handled reply))) stage.2.1 := by
  obtain ⟨command, box, call⟩ := m
  cases command with
  | floor k =>
    cases k with
    | pullIn speed | pushOut speed =>
      cases done
      exact rest_of_runs .roller rfl rfl
    | stop =>
      cases done
      exact rest_of_atRest .roller (atRest_roll f)
    | hangGear =>
      obtain ⟨wait, -, done⟩ := bind_eq_ok.1 done
      cases done
      trivial
    | _ =>
      cases done
      exact rest_of_roller (rest_of_silent .roller news rfl h) (FloorIntake.roller_moveArm f _ w)
  | state mode => cases news
  | _ =>
    cases done
    exact rest_of_silent .roller news rfl h

/-- Of a roller that is to stand still it is noted whether it is lost. -/
lemma rest_of_asked {f : FloorIntake} {n n' : Notes} (h : (ledger .roller).rest n f)
    (runs : n'.runs = n.runs) (lost : n.runs = true → n'.lost = true) :
    (ledger .roller).rest n' f := by
  refine ⟨fun _ => ?_, fun roller unmoved => h.unmoved roller (runs ▸ unmoved)⟩
  cases moved : n.runs with
  | false => exact .inl (h.unmoved rfl moved)
  | true => exact .inr ⟨rfl, lost moved⟩

/-- A command that a cutoff refuses leaves the roller as it is. -/
lemma rest_of_refused {f : FloorIntake} {n : Notes} (m : Message) (h : (ledger .roller).rest n f) :
    (ledger .roller).rest (note .roller (note .roller n (.took m)) (.settled m .refused)) f := by
  cases said : still? .roller m.command with
  | none =>
    refine ⟨fun still => ?_, fun roller unmoved => h.unmoved roller unmoved⟩
    have asked : n.still = true := by simpa [note, said] using still
    exact (h.still asked).imp id fun lost => ⟨rfl, by simp [note, lost.2]⟩
  | some still =>
    cases still with
    | true => exact rest_of_asked h rfl fun moved => by simp [note, said, moved]
    | false =>
      refine ⟨fun asked => ?_, fun roller unmoved => h.unmoved roller unmoved⟩
      simp [note, said] at asked

lemma roller_steady :
    Subsystem.Steady (ledger .roller) Part.gearFloor.Senses Part.gearFloor.Sweeps where
  posted := rfl
  quiet := note_timeout .roller _
  enter := by
    intro n f m mode w news h
    have mode : m.isMode = true := by simp [Message.isMode, news]
    have asked : (ledger .roller).rest (note .roller n (.took m)) f :=
      rest_of_asked h rfl fun moved => by simp [note, mode, moved]
    exact ⟨_, _, rfl, rest_of_roller asked (FloorIntake.roller_enter _ _ w)⟩
  check w h := rest_of_roller h (FloorIntake.roller_check _ w)
  refuse m h _ := rest_of_roller (rest_of_refused m h) (FloorIntake.roller_check _ _)
  handle := leads_roller
  resume h done := (leads_hang h done).imp (fun _ => id) fun _ => rest_of_atRest .roller
  sweep := by
    intro n f job wake w stage sweeps h done
    cases job with
    | raised =>
      cases done
      exact fun n => rest_of_atRest .roller h
    | rolling | lowered => exact sweeps.elim
  sense := rest_of_senses
  feel := by
    intro n f g job h sensed
    cases job with
    | rolling => trivial
    | lowered | raised => exact atRest_of_senses h sensed

/-- Every part keeps to what is known of its lever. -/
lemma steady (l : Lever) : Subsystem.Steady l.ledger l.part.Senses l.part.Sweeps := by
  cases l with
  | climber => exact climber_steady
  | hopper => exact hopper_steady
  | roller => exact roller_steady

end Lever

end MatchRobot
