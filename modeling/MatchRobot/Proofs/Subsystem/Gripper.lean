import MatchRobot.Proofs.Subsystem.Stops

/-!
# The stopped gripper

`Cycle.Turn` says what one look at a subsystem without jobs can do to it: nothing, or hear of a mode, or
come to a verdict on a message at once.

A stop ends the transition of the gripper and writes zero, and so does a check that finds too much current.
But nothing keeps the gear intake stopped. A stopped gripper that is closed is a closed gripper, and every
message that is handled makes the intake write the output that belongs to its grip: already the next quiet
cycle holds it with tension again. `GearIntake.stopped_iff` says when the motor of a stopped gripper stands
still, up to the next hold or release.
-/

namespace MatchRobot

/-! ### Subsystems without jobs -/

namespace Cycle

variable {σ : Type} [Subsystem σ] {fits : Subsystem.Job σ → Wait → Prop} {bin : Option Address}
  {sweeps : Subsystem.Job σ → Prop}

/-- What a look at a subsystem does to it if no work has to wait, with its deeds. -/
inductive Turn : Runner σ → List Deed → Runner σ → Prop
  | idle {r : Runner σ} : Turn r [] r
  | posts {r : Runner σ} {a : Address} {m : Message} : Turn r [.posted a m] r
  | hears {r : Runner σ} {m : Message} {mode : Mode} {s : σ} {v w : World}
      (news : m.command = .state mode)
      (entered : Subsystem.enter mode r.subsystem v = .ok (.finished (), s, w)) :
      Turn r [.took m] ⟨s, r.loops + 1⟩
  | treats {r r' : Runner σ} {m : Message} {x : Verdict} {l : List Deed} {v w : World}
      (news : m.isMode = false) (taken : l = [.took m] ∨ m = .timeout ∧ l = [])
      (treated : treat m { r with loops := r.loops + 1 } v = .ok (.finished x, r', w)) :
      Turn r (l ++ [.settled m x]) r'

/-- Taking up a message, if no work has to wait. -/
lemma turn_of_take (jobless : Subsystem.Job σ → False) {m : Message} {r r' : Runner σ} {v w : World}
    {p : Progress (Cycle (Subsystem.Job σ)) Empty} {l : List Deed}
    (taken : l = [.took m] ∨ m = .timeout ∧ l = [])
    (done : take m r v >>= again = .ok (p, r', w)) :
    Turn r (l ++ (if m.isMode then []
      else (verdictOn m (treat m { r with loops := r.loops + 1 } v)).map fun x => .settled x.1 x.2)) r' := by
  cases news : m.isMode with
  | true =>
    obtain ⟨mode, command, take_eq⟩ := take_of_isMode (r := r) (w := v) news
    rw [take_eq] at done
    obtain ⟨stage, heard, done⟩ := bind_eq_ok.1 done
    obtain ⟨⟨progress, s, u⟩, entered, same⟩ := bind_eq_ok.1 heard
    cases same
    cases progress with
    | waiting wait job => exact (jobless job).elim
    | finished x =>
      obtain ⟨rfl, -⟩ := start_eq_ok done
      rcases taken with rfl | ⟨rfl, -⟩
      · exact .hears command entered
      · cases news
  | false =>
    rw [take_of_isMode_eq_false news] at done
    obtain ⟨stage, concluded, done⟩ := bind_eq_ok.1 done
    obtain ⟨⟨progress, s, u⟩, treated, same⟩ := bind_eq_ok.1 concluded
    cases same
    cases progress with
    | waiting wait job => exact (jobless job).elim
    | finished x =>
      obtain ⟨rfl, -⟩ := calm_conclude done
      simp only [treated, Bool.false_eq_true, if_false, verdictOn, List.map_cons, List.map_nil]
      exact .treats news taken treated

/-- A look at a subsystem without jobs. -/
lemma turn_of_step (modest : Subsystem.Modest σ fits bin sweeps) (jobless : Subsystem.Job σ → False)
    {a b : Stage (Cycle (Subsystem.Job σ)) Empty (Runner σ)} {l : List Deed}
    (step : (routine σ).Step a l b)
    (fit : ∀ wait c, a.1 = .waiting wait c → Fits (Subsystem.address σ) fits c wait) :
    Turn a.2.1 l b.2.1 := by
  cases step with
  | pending looked => exact .idle
  | @woken wait wake c r v w _ looked worked =>
    obtain ⟨p, r', u⟩ := b
    have ended := World.ended_of_poll looked
    have fitting := fit _ _ rfl
    have nothing := (queue_of_runOn modest fitting worked).2
    change Turn r (deeds wait c wake r w) r'
    cases fitting with
    | @listening limit =>
      have quiet : (listening : Cycle (Subsystem.Job σ)).thrown wake r w = [] := nothing id
      have done : take wake.message r w >>= again = .ok (p, r', u) := worked
      have taken : ((Wait.receive (Subsystem.address σ) limit).taken (Subsystem.address σ) wake).map
          Deed.took = [.took wake.message] ∨ wake.message = .timeout ∧
          ((Wait.receive (Subsystem.address σ) limit).taken (Subsystem.address σ) wake).map
            Deed.took = [] := by
        cases ended with
        | received => exact .inl (by simp [Wait.taken, Wake.message])
        | missed => exact .inr ⟨rfl, rfl⟩
      have turn := turn_of_take jobless taken done
      have same : deeds (.receive (Subsystem.address σ) limit) listening wake r w =
          ((Wait.receive (Subsystem.address σ) limit).taken (Subsystem.address σ) wake).map
            Deed.took ++ (if wake.message.isMode then [] else (verdictOn wake.message
              (treat wake.message { r with loops := r.loops + 1 } w)).map
                fun x => .settled x.1 x.2) := by
        simp only [deeds, quiet, judged, Wait.posted, List.map_nil, List.append_nil]
        congr 1
        split <;> rfl
      exact same ▸ turn
    | entering | handling => exact (jobless ‹_›).elim
    | replying reply =>
      obtain ⟨rfl, -⟩ := start_eq_ok worked
      cases ended
      have quiet : (replying : Cycle (Subsystem.Job σ)).thrown .sent r' w = [] := nothing id
      simp only [deeds, quiet, judged, Wait.posted, Wait.taken, List.map_nil, List.append_nil,
        List.map_cons, List.nil_append]
      exact .posts

/-- A verdict that is come to at once: the check cuts the power, or the message is handled. -/
lemma treat_cases {m : Message} {r r' : Runner σ} {v w : World} {x : Verdict}
    (done : treat m r v = .ok (.finished x, r', w)) :
    (inspect r v).1 = true ∧ x = .refused ∧ r' = (inspect r v).2.1 ∨
      (inspect r v).1 = false ∧ ∃ reply s u, x = .handled reply ∧
        Subsystem.handle m.command (inspect r v).2.1.subsystem
          (announce (Subsystem.stamp σ) m (inspect r v).2.2) = .ok (.finished reply, s, u) ∧
        r' = { (inspect r v).2.1 with subsystem := s } := by
  unfold treat at done
  cases tripped : (inspect r v).1 with
  | true =>
    simp only [tripped, if_true] at done
    cases done
    exact .inl ⟨rfl, rfl, rfl⟩
  | false =>
    simp only [tripped, Bool.false_eq_true, if_false] at done
    obtain ⟨⟨progress, s, u⟩, worked, same⟩ := bind_eq_ok.1 done
    cases progress with
    | waiting => cases same
    | finished reply =>
      cases same
      exact .inr ⟨rfl, reply, s, _, rfl, worked, rfl⟩

end Cycle

/-! ### The gripper -/

namespace GearIntake

/-- Whether a command sets the gripper going. -/
def moves : Command → Bool
  | .gear (.hold _) | .gear (.release _) => true
  | _ => false

/-- Whether the motor has been given the output that belongs to the grip, rather than zero. -/
def driven (before : Bool) : Deed → Bool
  | .took m => match m.command with
    | .state mode => before && mode.isEnabled
    | _ => before
  | .settled _ .refused => false
  | .settled m (.handled _) => !Part.gearIntake.stops m.command
  | .swept _ | .posted _ _ => before

/-- Whether these are the deeds of a cycle that takes up a stop, or whose check cuts the power. -/
def halts (r : Runner GearIntake) (l : List Deed) : Bool :=
  match Deed.verdicts l with
  | [(m, _)] => Part.gearIntake.stops m.command || Part.gearIntake.cuts r
  | _ => false

lemma driven_took {m : Message} (news : m.isMode = false) (before : Bool) :
    driven before (.took m) = before := by
  obtain ⟨command, box, call⟩ := m
  cases command with
  | state mode => cases news
  | _ => rfl

/-- An inspection of the gear intake stops it, if it cuts the power. -/
lemma inspect_cases (r : Runner GearIntake) (v : World) :
    (Cycle.inspect r v).1 = true ∧ (Cycle.inspect r v).2.1.subsystem = r.subsystem.stop ∨
      (Cycle.inspect r v).1 = false ∧ (Cycle.inspect r v).2.1.subsystem = r.subsystem := by
  cases due : Cycle.checkDue r.loops with
  | false =>
    rw [Cycle.inspect_of_not_due due]
    exact .inr ⟨rfl, rfl⟩
  | true =>
    obtain ⟨u, inspected⟩ := Cycle.inspect_of_due due v
    rw [inspected, Part.check_eq_trips .gearIntake]
    cases tripped : Part.gearIntake.trips r.subsystem with
    | true => exact .inl ⟨rfl, Part.check_gearIntake tripped v⟩
    | false => exact .inr ⟨rfl, Part.check_of_not_trips rfl tripped v⟩

section

variable {g h : GearIntake} {driving : Bool} {r r' : Runner GearIntake} {m : Message} {v w : World}

/-- What treating a message leaves of the intake: it is stopped, or it has handled the message. -/
lemma treat_cases {x : Verdict} (done : Cycle.treat m r v = .ok (.finished x, r', w)) :
    (Cycle.inspect r v).1 = true ∧ x = .refused ∧ r'.subsystem = r.subsystem.stop ∨
      (Cycle.inspect r v).1 = false ∧ ∃ reply u u', x = .handled reply ∧
        r.subsystem.handle m.command u = .ok (r'.subsystem, u') := by
  rcases Cycle.treat_cases done with ⟨tripped, rfl, rfl⟩ | ⟨passed, reply, s, u, rfl, worked, rfl⟩
  · rcases inspect_cases r v with ⟨-, stopped⟩ | ⟨passed, -⟩
    · exact .inl ⟨tripped, rfl, stopped⟩
    · cases tripped.symm.trans passed
  · rcases inspect_cases r v with ⟨tripped, -⟩ | ⟨-, same⟩
    · cases tripped.symm.trans passed
    · rw [same] at worked
      obtain ⟨⟨i, u'⟩, handled, worked⟩ := bind_eq_ok.1 worked
      cases worked
      exact .inr ⟨passed, _, _, _, rfl, handled⟩

/-- A command that does not set the gripper going leaves it in the grip that it was stopped in. -/
lemma still_of_handle {c : Command} {x : GearIntake × World} (calm : moves c = false)
    (k : Still g driving h) (done : h.handle c w = .ok x) :
    Still g (!Part.gearIntake.stops c) x.1 := by
  cases c with
  | gear command =>
    cases command with
    | hold | release => cases calm
    | stop =>
      cases done
      exact still_stop k
  | _ => exact still_handle rfl k done

/-- A verdict on a message tells whether the motor was stopped. -/
lemma still_of_treat {x : Verdict} (calm : moves m.command = false) (k : Still g driving r.subsystem)
    (done : Cycle.treat m r v = .ok (.finished x, r', w)) :
    Still g (driven driving (.settled m x)) r'.subsystem := by
  rcases treat_cases done with ⟨-, rfl, stopped⟩ | ⟨-, reply, u, u', rfl, handled⟩
  · rw [stopped]
    exact still_stop k
  · exact still_of_handle calm k handled

/-- What a look at a stopped gripper leaves of it. -/
lemma still_of_turn {l : List Deed} (turn : Cycle.Turn r l r') (k : Still g driving r.subsystem)
    (calm : ∀ m ∈ Deed.taken l, moves m.command = false) :
    Still g (l.foldl driven driving) r'.subsystem := by
  cases turn with
  | idle | posts => exact k
  | @hears m mode s v w news entered =>
    cases entered
    have heard : driven driving (.took m) = (driving && mode.isEnabled) := by rw [driven, news]
    rw [List.foldl_cons, List.foldl_nil, heard]
    change Still g _ (r.subsystem.enter mode)
    cases enabled : mode.isEnabled with
    | true =>
      rw [enter, if_pos enabled, Bool.and_true]
      exact k
    | false =>
      rw [enter_of_disabled _ enabled, Bool.and_false]
      exact still_stop k
  | treats news taken treated =>
    rcases taken with rfl | ⟨rfl, rfl⟩
    · simp only [List.foldl_append, List.foldl_cons, List.foldl_nil, driven_took news]
      exact still_of_treat (calm _ (by simp [Deed.taken])) (r := { r with loops := r.loops + 1 }) k
        treated
    · exact still_of_treat rfl (r := { r with loops := r.loops + 1 }) k treated

lemma handle_of_stops {c : Command} (stop : Part.gearIntake.stops c = true) (g : GearIntake)
    (w : World) : g.handle c w = .ok (g.stop, w) := by
  cases c with
  | gear command =>
    cases command with
    | stop => rfl
    | hold | release => cases stop
  | _ => cases stop

/-- A cycle that takes up a stop, or whose check cuts the power, stops the gripper. -/
lemma still_of_halts {l : List Deed} (turn : Cycle.Turn r l r') (halted : halts r l = true) :
    Still r.subsystem false r'.subsystem := by
  cases turn with
  | idle | posts | hears => cases halted
  | @treats _ m x l v w news taken treated =>
    have judged : Deed.verdicts (l ++ [.settled m x]) = [(m, x)] := by
      rcases taken with rfl | ⟨-, rfl⟩ <;> rfl
    rw [halts, judged] at halted
    rcases treat_cases treated with ⟨-, -, stopped⟩ | ⟨passed, reply, u, u', -, handled⟩
    · rw [stopped]
      exact ⟨rfl, rfl, rfl⟩
    · rw [Part.inspect_eq_cuts .gearIntake] at passed
      have stop : Part.gearIntake.stops m.command = true := by simpa [passed] using halted
      have stopped := (handle_of_stops stop r.subsystem u).symm.trans handled
      simp only [Except.ok.injEq, Prod.mk.injEq] at stopped
      rw [← stopped.1]
      exact ⟨rfl, rfl, rfl⟩

/-! ### Whole runs -/

lemma jobless : Subsystem.Job GearIntake → False :=
  fun job => nomatch job

lemma still_of_run {a b : Stage (Cycle (Subsystem.Job GearIntake)) Empty (Runner GearIntake)}
    {t : List Deed} (run : (Cycle.routine GearIntake).Run (Cycle.Sensed Part.gearIntake.Senses) a t b)
    (fit : ∀ wait c, a.1 = .waiting wait c →
      Cycle.Fits (Subsystem.address GearIntake) Asleep c wait)
    (calm : ∀ m ∈ Deed.taken t, moves m.command = false) (k : Still g driving a.2.1.subsystem) :
    Still g (t.foldl driven driving) b.2.1.subsystem := by
  induction run with
  | start => exact k
  | look run step ih =>
    rw [Deed.taken_append] at calm
    have before := ih fun m hm => calm m (List.mem_append_left _ hm)
    have turn := Cycle.turn_of_step GearIntake.modest jobless step
      (Cycle.fits_of_run GearIntake.modest run fit)
    rw [List.foldl_append]
    exact still_of_turn turn before fun m hm => calm m (List.mem_append_right _ hm)
  | around run change ih => exact (restful g).sense (ih calm) change

/-- From the end of a cycle that stops the gripper, and up to the next hold or release, the gripper stays in
the grip that it was stopped in. Its motor stands still exactly if no message but a stop was handled since
it was stopped last, or the grip is open, or it is held without tension. -/
theorem stopped_iff {r : Runner GearIntake} {w : World}
    {outside : Runner GearIntake × World → Runner GearIntake × World → Prop}
    {first a b c : Stage (Cycle (Subsystem.Job GearIntake)) Empty (Runner GearIntake)}
    {t l u : List Deed} (begun : Cycle.start r w = .ok first)
    (before : (Cycle.routine GearIntake).Run outside first t a)
    (step : (Cycle.routine GearIntake).Step a l b) (halted : halts a.2.1 l = true)
    (after : (Cycle.routine GearIntake).Run (Cycle.Sensed Part.gearIntake.Senses) b u c)
    (calm : ∀ m ∈ Deed.taken u, moves m.command = false) :
    c.2.1.subsystem.grip = a.2.1.subsystem.grip.stop ∧
      (Part.gearIntake.AtRest c.2.1.subsystem ↔
        Part.gearIntake.RestsAfter a.2.1.subsystem (u.foldl driven false)) := by
  obtain ⟨progress, r', w'⟩ := first
  obtain ⟨rfl, rfl, limit, rfl⟩ := Cycle.start_eq_ok begun
  have listens := Cycle.fits_of_run GearIntake.modest before fun wait c h => by cases h; exact .listening
  have stopped := still_of_halts (Cycle.turn_of_step GearIntake.modest jobless step listens) halted
  have lasting := still_of_run after (Cycle.fits_of_step GearIntake.modest step listens) calm stopped
  exact ⟨lasting.grip, Part.atRest_iff_of_still (p := .gearIntake) lasting⟩

/-- Plays a gear intake up to the cycle that stops it, and on from there without a hold or release. -/
def playsStopped (before after : List (Routine.Move (Runner GearIntake)))
    (good : Stage (Cycle (Subsystem.Job GearIntake)) Empty (Runner GearIntake) → Bool) : Bool :=
  (Cycle.start (⟨{}, 0⟩ : Runner GearIntake) {}).toOption.any fun first =>
    ((Cycle.routine GearIntake).play before first).any fun x =>
      ((Cycle.routine GearIntake).look? x.2).any fun y => halts x.2.2.1 y.1 &&
        ((Cycle.routine GearIntake).play after y.2).any fun z =>
          (Deed.taken z.1).all (fun m => !moves m.command) && good z.2

lemma exists_of_playsStopped {before after : List (Routine.Move (Runner GearIntake))}
    {good : Stage (Cycle (Subsystem.Job GearIntake)) Empty (Runner GearIntake) → Bool}
    (h : playsStopped before after good = true) (bounds : ∀ change, .around change ∈ after →
      ∀ x, Cycle.Sensed Part.gearIntake.Senses x (change x)) :
    ∃ first t a l b u c, Cycle.start (⟨{}, 0⟩ : Runner GearIntake) {} = .ok first ∧
      (Cycle.routine GearIntake).Run (fun _ _ => True) first t a ∧
      (Cycle.routine GearIntake).Step a l b ∧ halts a.2.1 l = true ∧
      (Cycle.routine GearIntake).Run (Cycle.Sensed Part.gearIntake.Senses) b u c ∧
      (∀ m ∈ Deed.taken u, moves m.command = false) ∧ good c = true := by
  obtain ⟨first, t, a, begun, run, h⟩ :=
    Routine.exists_run_of_begun (fun _ _ => True) h fun _ _ _ => trivial
  obtain ⟨⟨l, b⟩, looked, h⟩ := (Option.any_eq_true _ _).1 h
  rw [Bool.and_eq_true] at h
  obtain ⟨u, c, later, h'⟩ := Routine.exists_run_of_play h.2 bounds
  rw [Bool.and_eq_true, List.all_eq_true] at h'
  refine ⟨first, t, a, l, b, u, c, begun, run, Routine.step_of_look? looked, h.1, later, ?_, h'.2⟩
  intro m hm
  simpa using h'.1 m hm

/-- A gripper that is stopped while it opens stands still through the quiet cycle that follows. -/
theorem opening_gripper_stops : ∃ first t a l b u c,
    Cycle.start (⟨{}, 0⟩ : Runner GearIntake) {} = .ok first ∧
      (Cycle.routine GearIntake).Run (fun _ _ => True) first t a ∧
      (Cycle.routine GearIntake).Step a l b ∧ halts a.2.1 l = true ∧
      (Cycle.routine GearIntake).Run (Cycle.Sensed Part.gearIntake.Senses) b u c ∧
      (∀ m ∈ Deed.taken u, moves m.command = false) ∧ c.2.1.loops = 3 ∧
      Part.gearIntake.AtRest c.2.1.subsystem := by
  have played : playsStopped
      [Part.deliver .gearIntake { command := .gear (.release 0.5) }, .look,
        Part.deliver .gearIntake { command := .gear .stop }]
      [.look, Part.second .gearIntake, .look]
      (fun c => c.2.1.loops == 3 && c.2.1.subsystem.grip == .opened) = true := by
    decide +kernel
  obtain ⟨first, t, a, l, b, u, c, begun, before, step, halted, after, calm, passed⟩ :=
    exists_of_playsStopped played fun change => Part.senses_second .gearIntake
  obtain ⟨third, opened⟩ := Bool.and_eq_true_iff.1 passed
  obtain ⟨grip, rests⟩ := stopped_iff begun before step halted after calm
  refine ⟨first, t, a, l, b, u, c, begun, before, step, halted, after, calm, eq_of_beq third, ?_⟩
  exact rests.2 (.inr (.inl (grip.symm.trans (eq_of_beq opened))))

/-- A gripper that is stopped while it closes is driven again in the quiet cycle that follows. -/
theorem stopped_gripper_is_driven : ¬ ∀ (r : Runner GearIntake) (w : World) first t a l b u c,
    Cycle.start r w = .ok first → (Cycle.routine GearIntake).Run (fun _ _ => True) first t a →
    (Cycle.routine GearIntake).Step a l b → halts a.2.1 l = true →
    (Cycle.routine GearIntake).Run (Cycle.Sensed Part.gearIntake.Senses) b u c →
    (∀ m ∈ Deed.taken u, moves m.command = false) → Part.gearIntake.AtRest c.2.1.subsystem := by
  intro claim
  have played : playsStopped
      [Part.deliver .gearIntake { command := .gear (.hold 0.5) }, .look,
        Part.deliver .gearIntake { command := .gear .stop }]
      [.look, Part.second .gearIntake, .look]
      (fun c => !decide (Part.gearIntake.AtRest c.2.1.subsystem)) = true := by
    decide +kernel
  obtain ⟨first, t, a, l, b, u, c, begun, before, step, halted, after, calm, runs⟩ :=
    exists_of_playsStopped played fun change => Part.senses_second .gearIntake
  have rests := claim _ _ first t a l b u c begun before step halted after calm
  rw [decide_eq_true rests] at runs
  cases runs

end

end GearIntake

end MatchRobot
