import MatchRobot.Proofs.Autonomy.Leaving

/-!
# One run for each load

A sequencer is asked to load scripts and to run them, again and again and in any order. `Sequencer.Served`
says what may become of one that starts afresh, whatever the sources are, whichever interpreter runs its
script, and whatever the surroundings of a run do to the world. Its history comes newest first.

While a run is in progress the sequencer is `Pilot.Engaged`: its script stays, and it shows as running or,
as long as a pause is on, as paused. A run that has come to its end leaves it terminated. From this
`Sequencer.stands_of_served` gets where a sequencer stands between two calls, by induction on its history,
and `Sequencer.each_load_is_run_once` says what the next call does.
-/

namespace MatchRobot

/-! ### While a run is in progress -/

namespace Pilot

variable {script : StoredScript} {p : Pilot} {w : World} {a b stage : Stage Run RunResult Pilot}
  {t : List (Address × Message)}

/-- A script is run: its sequencer shows as running until the end of the run, and as terminated then. -/
inductive Engaged (script : StoredScript) : Stage Run RunResult Pilot → Prop
  | within {wait : Wait} {r : Run} {p : Pilot} {w : World}
      (running : p.sequencer = ⟨script, .running⟩) : Engaged script (.waiting wait r, p, w)
  | ended {why : RunEnd} {p : Pilot} {w : World} (terminated : p.sequencer = ⟨script, .terminated⟩) :
      Engaged script (.finished (.ok why), p, w)

lemma engaged_finish {why : RunEnd} (running : p.sequencer = ⟨script, .running⟩) :
    Engaged script (p.finish why w) := by
  refine .ended ?_
  simp only [running]

/-- Whatever comes of a line, the sequencer is engaged until the end of the run. -/
lemma engaged_of_line {lines : List (Nat × String)} {line : Stage Evaluation Bool Interpreter}
    (running : p.sequencer = ⟨script, .running⟩)
    (rest : ∀ {q : Pilot} {u : World}, q.sequencer = ⟨script, .running⟩ →
      q.advance u lines = .ok stage → Engaged script stage)
    (done : (match line.1 with
      | .waiting wait e => pure
          (.waiting wait ⟨e, lines⟩, { p with interpreter := line.2.1 }, line.2.2)
      | .finished true => pure (finish { p with interpreter := line.2.1 } .terminated line.2.2)
      | .finished false => advance { p with interpreter := line.2.1 } line.2.2 lines :
        Except Fault (Stage Run RunResult Pilot)) = .ok stage) : Engaged script stage := by
  obtain ⟨progress, i, u⟩ := line
  have still : ({ p with interpreter := i } : Pilot).sequencer = ⟨script, .running⟩ := running
  cases progress with
  | waiting wait e =>
    cases done
    exact .within still
  | finished stop =>
    cases stop with
    | true =>
      cases done
      exact engaged_finish still
    | false => exact rest still done

/-- Walking from line to line does not touch the sequencer before the end. -/
lemma engaged_advance {lines : List (Nat × String)} (running : p.sequencer = ⟨script, .running⟩)
    (done : p.advance w lines = .ok stage) : Engaged script stage := by
  induction lines generalizing p w with
  | nil =>
    cases done
    exact engaged_finish running
  | cons head rest ih =>
    obtain ⟨n, line⟩ := head
    unfold advance at done
    split at done
    · cases done
      exact engaged_finish running
    · split at done
      · exact ih running done
      · obtain ⟨b, -, done⟩ := bind_eq_ok.1 done
        exact engaged_of_line running ih done

lemma engaged_resume {r : Run} {wake : Wake} (running : p.sequencer = ⟨script, .running⟩)
    (done : p.resume r wake w = .ok stage) : Engaged script stage := by
  obtain ⟨b, -, done⟩ := bind_eq_ok.1 done
  exact engaged_of_line running engaged_advance done

/-- A run begins with the sequencer engaged if a script is freshly loaded. -/
lemma engaged_run (loaded : p.sequencer.phase = .loading) (done : p.run w = .ok stage) :
    Engaged p.sequencer.script stage := by
  simp only [run, if_pos loaded] at done
  exact engaged_advance rfl done

/-- Without a freshly loaded script nothing happens at all. -/
lemma run_of_not_loading (used : p.sequencer.phase ≠ .loading) :
    p.run w = .ok (.finished (.error .notLoaded), p, w) := by
  simp only [run, if_neg used]

lemma engaged_of_run (begun : Engaged script a) (run : routine.Run (Around fun _ => True) a t b) :
    Engaged script b := by
  induction run with
  | start => exact begun
  | look run step ih =>
    cases step with
    | pending looked =>
      cases ih with
      | within running => exact .within running
    | woken looked worked =>
      cases ih with
      | within running => exact engaged_resume running worked
  | around run change ih =>
    obtain ⟨same, -⟩ := change
    cases ih with
    | within running => exact .within ((congrArg Pilot.sequencer same).trans running)
    | ended terminated => exact .ended ((congrArg Pilot.sequencer same).trans terminated)

/-- A run that is refused stays as it was. -/
lemma refused_of_run {e : ScriptError} (run : routine.Run (Around fun _ => True) a t b)
    (refused : a.1 = .finished (.error e)) : b.1 = .finished (.error e) ∧ b.2.1 = a.2.1 := by
  induction run with
  | start => exact ⟨refused, rfl⟩
  | look run step ih =>
    cases step with
    | pending => cases ih.1
    | woken => cases ih.1
  | around run change ih => exact ⟨ih.1, change.1.trans ih.2⟩

end Pilot

/-! ### Between two calls -/

namespace Sequencer

/-- What a sequencer has been asked to do, with the result of a run. -/
inductive Event
  | loaded (source : ScriptSource)
  | ran (result : RunResult)

/-- The event is a run that did not take place. -/
def Event.Refused (x : Event) : Prop :=
  ∃ e, x = .ran (.error e)

/-- A sequencer after these loads and completed runs, the latest first. -/
inductive Served : List Event → Sequencer → Prop
  | fresh : Served [] {}
  | load {t : List Event} {s : Sequencer} (served : Served t s) (w : World) :
      Served (.loaded w.source :: t) (s.load w).2.1
  | run {t : List Event} {s : Sequencer} {i : Interpreter} {w : World}
      {first b : Stage Run RunResult Pilot} {l : List (Address × Message)} {result : RunResult}
      (served : Served t s) (begun : (⟨s, i⟩ : Pilot).run w = .ok first)
      (run : Pilot.routine.Run (Pilot.Around fun _ => True) first l b)
      (ended : b.1 = .finished result) : Served (.ran result :: t) b.2.1.sequencer

/-- The latest event, refused runs apart, is such a one. -/
def Latest (p : Event → Prop) (t : List Event) : Prop :=
  ∃ since x before, t = since ++ x :: before ∧ p x ∧ ∀ y ∈ since, y.Refused

/-- The latest load has succeeded, and no run has come to its end since. -/
def Due : List Event → Prop :=
  Latest fun x => ∃ source script, x = .loaded source ∧ source.load = .ok script

/-- A run has come to its end, and nothing has been loaded since. -/
def Over : List Event → Prop :=
  Latest fun x => ∃ why, x = .ran (.ok why)

/-- The script of the latest load, which is empty after one that failed. -/
def lastScript : List Event → StoredScript
  | [] => {}
  | .loaded source :: _ => source.load.toOption.getD {}
  | .ran _ :: t => lastScript t

section

variable {p : Event → Prop} {x : Event} {t : List Event} {s : Sequencer}

lemma not_latest_nil : ¬ Latest p [] := by
  rintro ⟨since, x, before, h, -⟩
  simp at h

lemma latest_cons : Latest p (x :: t) ↔ p x ∨ x.Refused ∧ Latest p t := by
  constructor
  · rintro ⟨since, y, before, h, good, refused⟩
    rcases List.cons_eq_append_iff.1 h with ⟨rfl, same⟩ | ⟨later, rfl, rfl⟩
    · cases same
      exact .inl good
    · exact .inr ⟨refused x (List.mem_cons_self ..), later, y, before, rfl, good,
        fun z hz => refused z (List.mem_cons_of_mem _ hz)⟩
  · rintro (good | ⟨this, since, y, before, rfl, good, refused⟩)
    · exact ⟨[], x, t, rfl, good, by simp⟩
    · exact ⟨x :: since, y, before, rfl, good, List.forall_mem_cons.2 ⟨this, refused⟩⟩

lemma due_loaded {source : ScriptSource} :
    Due (.loaded source :: t) ↔ ∃ script, source.load = .ok script := by
  simp [Due, latest_cons, Event.Refused]

lemma due_ran {result : RunResult} : Due (.ran result :: t) ↔ (∃ e, result = .error e) ∧ Due t := by
  simp [Due, latest_cons, Event.Refused]

lemma over_loaded {source : ScriptSource} : ¬ Over (.loaded source :: t) := by
  simp [Over, latest_cons, Event.Refused]

lemma over_ran {result : RunResult} :
    Over (.ran result :: t) ↔ (∃ why, result = .ok why) ∨ (∃ e, result = .error e) ∧ Over t := by
  simp [Over, latest_cons, Event.Refused]

/-- Where a sequencer stands between two calls. -/
structure Stands (t : List Event) (s : Sequencer) : Prop where
  script : s.script = lastScript t
  due : s.phase = .loading ↔ Due t
  terminated : s.phase = .terminated ↔ Over t
  rests : s.phase ≠ .running

/-- A load leaves nothing of what was before. -/
lemma stands_load (w : World) : Stands (.loaded w.source :: t) (s.load w).2.1 := by
  unfold load
  cases read : w.source.load with
  | ok script =>
    refine ⟨?_, ?_, ?_, nofun⟩
    · simp [lastScript, read, Except.toOption]
    · simp [due_loaded, read]
    · exact iff_of_false nofun over_loaded
  | error e =>
    refine ⟨?_, ?_, ?_, nofun⟩
    · simp [lastScript, read, Except.toOption]
    · simp [due_loaded, read]
    · exact iff_of_false nofun over_loaded

/-- What comes of a run that is asked for between two calls: if one is due it takes place, and otherwise
nothing happens. -/
lemma run_cases {i : Interpreter} {w : World} {first b : Stage Run RunResult Pilot}
    {l : List (Address × Message)} (stands : Stands t s) (begun : (⟨s, i⟩ : Pilot).run w = .ok first)
    (run : Pilot.routine.Run (Pilot.Around fun _ => True) first l b) :
    Due t ∧ Pilot.Engaged s.script b ∨
      ¬ Due t ∧ b.1 = .finished (.error .notLoaded) ∧ b.2.1 = ⟨s, i⟩ := by
  by_cases loading : s.phase = .loading
  · exact .inl ⟨stands.due.1 loading, Pilot.engaged_of_run (Pilot.engaged_run loading begun) run⟩
  · have refused := Pilot.run_of_not_loading (p := ⟨s, i⟩) (w := w) loading
    cases begun.symm.trans refused
    exact .inr ⟨fun due => loading (stands.due.2 due), Pilot.refused_of_run run rfl⟩

lemma stands_of_served (served : Served t s) : Stands t s := by
  induction served with
  | fresh => exact ⟨rfl, iff_of_false nofun not_latest_nil, iff_of_false nofun not_latest_nil, nofun⟩
  | load served w ih => exact stands_load w
  | @run t s i w first b l result served begun run ended ih =>
    rcases run_cases ih begun run with ⟨due, engaged⟩ | ⟨idle, refused, same⟩
    · obtain ⟨progress, q, v⟩ := b
      cases engaged with
      | within => cases ended
      | @ended why _ _ terminated =>
        cases ended
        refine ⟨?_, ?_, ?_, ?_⟩
        · simp [terminated, lastScript, ih.script]
        · simp [terminated, due_ran]
        · simp [terminated, over_ran]
        · simp [terminated]
    · cases ended.symm.trans refused
      rw [same]
      refine ⟨?_, ?_, ?_, ih.rests⟩
      · simp [lastScript, ih.script]
      · simp [due_ran, ih.due]
      · simp [over_ran, ih.terminated]

/-- Each load that succeeds is good for one run. After any loads and completed runs, the script is that of
the latest load, and the sequencer shows as terminated if a run has come to its end since, never as
running or paused. The next load brings in the script of its source or leaves none, and the sequencer idle.
The next run takes place exactly if the latest load has succeeded and has not been run yet: meanwhile
the script stays and the sequencer shows as running, or as paused under a pause, and then as terminated.
Otherwise it is refused at once, and changes neither the sequencer nor the interpreter nor the world. -/
theorem each_load_is_run_once (served : Served t s) :
    s.script = lastScript t ∧
    (∀ w, (s.state w = .terminated ↔ Over t) ∧ s.state w ≠ .running ∧ s.state w ≠ .paused) ∧
    (∀ w : World, (∀ script, w.source.load = .ok script →
        (s.load w).1 = .ok script.length ∧ (s.load w).2.1.script = script) ∧
      ∀ e, w.source.load = .error e → (s.load w).1 = .error e ∧ (s.load w).2.1.script = {} ∧
        ∀ v, (s.load w).2.1.state v = .idle) ∧
    (¬ Due t → ∀ i w, (⟨s, i⟩ : Pilot).run w = .ok (.finished (.error .notLoaded), ⟨s, i⟩, w)) ∧
    ∀ {i w first b} {l : List (Address × Message)}, (⟨s, i⟩ : Pilot).run w = .ok first →
      Pilot.routine.Run (Pilot.Around fun _ => True) first l b →
      (∀ result, b.1 = .finished result → ((∃ why, result = .ok why) ↔ Due t)) ∧
      (Due t → b.2.1.sequencer.script = s.script ∧ ∀ v, b.2.1.sequencer.state v =
        if b.1.isWaiting then if v.control.paused then .paused else .running else .terminated) := by
  obtain ⟨script, due, terminated, rests⟩ := stands_of_served served
  refine ⟨script, fun w => ?_, fun w => ⟨fun script read => ?_, fun e read => ?_⟩, fun idle i w => ?_, ?_⟩
  · rw [← terminated]
    unfold state
    cases phase : s.phase with
    | running => exact absurd phase rests
    | _ => simp
  · simp [load, read]
  · simp [load, read, state]
  · exact Pilot.run_of_not_loading fun loading => idle (due.1 loading)
  · intro i w first b l begun run
    rcases run_cases ⟨script, due, terminated, rests⟩ begun run with ⟨due, engaged⟩ | ⟨idle, refused, same⟩
    · cases engaged with
      | within running =>
        refine ⟨fun result ended => ?_, fun _ => ⟨by simp only [running], fun v => ?_⟩⟩
        · cases ended
        · simp [running, state, Progress.isWaiting]
      | ended terminated =>
        refine ⟨fun result ended => ?_, fun _ => ⟨by simp only [terminated], fun v => ?_⟩⟩
        · cases ended
          exact iff_of_true ⟨_, rfl⟩ due
        · simp [terminated, state, Progress.isWaiting]
    · refine ⟨fun result ended => ?_, fun due => absurd due idle⟩
      cases ended.symm.trans refused
      refine iff_of_false ?_ idle
      rintro ⟨why, same⟩
      cases same

end

/-- A load that fails, one that succeeds, and a run of its script. -/
def history : List Event :=
  [.ran (.ok .exhausted), .loaded (.text "NOP\n"), .loaded .missing]

/-- After it, the sequencer shows as terminated, and another run is refused. -/
theorem second_run_is_refused : ∃ s, Served history s ∧ (∀ w, s.state w = .terminated) ∧
    ∀ i w, (⟨s, i⟩ : Pilot).run w = .ok (.finished (.error .notLoaded), ⟨s, i⟩, w) := by
  let w : World := { mode := .autonomous, source := .text "NOP\n" }
  let s := ((({} : Sequencer).load { source := .missing }).2.1.load w).2.1
  have loaded : Served [.loaded (.text "NOP\n"), .loaded .missing] s :=
    (Served.fresh.load { source := .missing }).load w
  obtain ⟨first, begun, ended⟩ : ∃ first,
      (⟨s, .fresh {} 0⟩ : Pilot).run w = .ok first ∧ first.1 = .finished (.ok .exhausted) :=
    ⟨_, rfl, rfl⟩
  have served := loaded.run begun (.start first) ended
  obtain ⟨-, states, -, refused, -⟩ := each_load_is_run_once served
  refine ⟨_, served, fun v => (states v).1.2 ?_, refused ?_⟩
  · simp [over_ran]
  · simp [due_ran]

end Sequencer

end MatchRobot
