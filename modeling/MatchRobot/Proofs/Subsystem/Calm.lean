import MatchRobot.Proofs.Subsystem.Deeds

/-!
# Cycles that nothing rouses

A subsystem is roused by the news of a mode in which it may run, and by the commands of its own family.
Between two such messages it only hears of modes in which it may not run, and handles quiet cycles and
messages that are none of its business; none of this takes it to a job.

`Subsystem.Restful` says what of the state of a subsystem lasts through such a time. It may depend on
whether the last cycle handled a message, or stopped the subsystem (`Deed.driving`), for there are
subsystems that write their outputs anew in each cycle. `Cycle.still_of_run` is the invariant of a whole
stretch of a run.
-/

namespace MatchRobot

/-- Whether the last cycle handled a message, rather than hearing of a mode or cutting the power. -/
def Deed.driving (before : Bool) : Deed → Bool
  | took m => before && !m.isMode
  | settled _ (.handled _) => true
  | settled _ .refused => false
  | swept _ | posted _ _ => before

/-- What a verdict makes of that. -/
def Verdict.driving : Verdict → Bool
  | handled _ => true
  | refused => false

lemma Deed.driving_settled (before : Bool) (m : Message) (x : Verdict) :
    Deed.driving before (settled m x) = x.driving := by
  cases x <;> rfl

/-- What lasts of the state of a kind of subsystem that nothing rouses: `still` knows whether the last
cycle handled a message, and `sensed` says what the surroundings may do to the state. -/
structure Subsystem.Restful (σ : Type) [Subsystem σ] (rouses : Command → Bool)
    (sensed : σ → σ → Prop) (still : Bool → σ → Prop) : Prop where
  quiet : rouses (.system .msgTimeout) = false
  enter : ∀ {mode driving} {s : σ} w, rouses (.state mode) = false → still driving s →
    ∃ s' u, Subsystem.enter mode s w = .ok (.finished (), s', u) ∧ still false s'
  check : ∀ {driving} {s : σ} w, still driving s →
    still (driving && !(Subsystem.check s w).1) (Subsystem.check s w).2.1
  handle : ∀ {c driving} {s : σ} {w stage}, rouses c = false → still driving s →
    Subsystem.handle c s w = .ok stage → ∃ reply s' u, stage = (.finished reply, s', u) ∧ still true s'
  sense : ∀ {driving} {s s' : σ}, still driving s → sensed s s' → still driving s'

namespace Cycle

variable {σ : Type} [Subsystem σ] {fits : Subsystem.Job σ → Wait → Prop} {bin : Option Address}
  {sweeps : Subsystem.Job σ → Prop} {rouses : Command → Bool} {sensed : σ → σ → Prop}
  {still : Bool → σ → Prop} {v w : World} {r r' : Runner σ} {driving : Bool}

/-- A cycle that is at no job. -/
def Calm {ι : Type} : Cycle ι → Prop
  | listening | replying => True
  | _ => False

/-! ### One cycle -/

/-- An inspection that cuts the power stops the subsystem. -/
lemma still_inspect (restful : Subsystem.Restful σ rouses sensed still) (w : World)
    (h : still driving r.subsystem) :
    still (driving && !(inspect r w).1) (inspect r w).2.1.subsystem := by
  unfold inspect
  split
  · exact restful.check w h
  · simpa using h

/-- A message that rouses nobody comes to a verdict at once. -/
lemma still_treat (restful : Subsystem.Restful σ rouses sensed still) {m : Message}
    (calm : rouses m.command = false) (h : still driving r.subsystem)
    {stage : Stage (Subsystem.Job σ) Verdict (Runner σ)} (done : treat m r w = .ok stage) :
    ∃ v r' u, stage = (.finished v, r', u) ∧ still v.driving r'.subsystem := by
  have lasting := still_inspect restful w h
  unfold treat at done
  simp only at done
  split at done
  · next tripped =>
    cases done
    rw [tripped, Bool.not_true, Bool.and_false] at lasting
    exact ⟨_, _, _, rfl, lasting⟩
  · obtain ⟨⟨p, s, u⟩, worked, done⟩ := bind_eq_ok.1 done
    obtain ⟨reply, s', u', heq, lasts⟩ := restful.handle calm lasting worked
    cases heq
    cases done
    exact ⟨_, _, _, rfl, lasts⟩

/-- After a verdict, a cycle listens again or answers. -/
lemma calm_conclude {m : Message} {x : Verdict} {p : Progress (Cycle (Subsystem.Job σ)) Empty}
    (done : again (conclude m (.finished x, r, v)) = .ok (p, r', w)) :
    r' = r ∧ ∃ wait c, p = .waiting wait c ∧ Calm c := by
  cases asked : m.replyTo with
  | none =>
    simp only [conclude, answer, asked] at done
    obtain ⟨rfl, -, limit, rfl⟩ := start_eq_ok done
    exact ⟨rfl, _, _, rfl, trivial⟩
  | some a =>
    simp only [conclude, answer, asked] at done
    cases done
    exact ⟨rfl, _, _, rfl, trivial⟩

/-- Taking up a message that rouses nobody. -/
lemma still_take (restful : Subsystem.Restful σ rouses sensed still) {m : Message}
    (calm : rouses m.command = false) (h : still driving r.subsystem)
    {p : Progress (Cycle (Subsystem.Job σ)) Empty} (done : take m r v >>= again = .ok (p, r', w)) :
    (∃ wait c, p = .waiting wait c ∧ Calm c) ∧
      (m.isMode = true → still false r'.subsystem) ∧
      (m.isMode = false → ∃ x : Verdict, still x.driving r'.subsystem ∧
        verdictOn m (treat m { r with loops := r.loops + 1 } v) = [(m, x)]) := by
  cases mode : m.isMode with
  | true =>
    obtain ⟨new, hm, taken⟩ := take_of_isMode (r := r) (w := v) mode
    obtain ⟨s, u, entered, lasts⟩ :=
      restful.enter (v.notice (.modeHeard (Subsystem.stamp σ) new)) (hm ▸ calm) h
    rw [taken, entered] at done
    obtain ⟨rfl, -, limit, rfl⟩ := start_eq_ok done
    exact ⟨⟨_, _, rfl, trivial⟩, fun _ => lasts, nofun⟩
  | false =>
    rw [take_of_isMode_eq_false mode] at done
    obtain ⟨stage, concluded, done⟩ := bind_eq_ok.1 done
    obtain ⟨stage', worked, concluded⟩ := bind_eq_ok.1 concluded
    obtain ⟨x, r'', u, rfl, lasts⟩ :=
      still_treat (r := { r with loops := r.loops + 1 }) restful calm h worked
    cases concluded
    obtain ⟨rfl, next⟩ := calm_conclude done
    refine ⟨next, nofun, fun _ => ⟨x, lasts, ?_⟩⟩
    rw [worked]
    rfl

/-- What deeds make of whether the subsystem drives: only those about messages taken and judged
count. -/
lemma driving_deeds (wait : Wait) (c : Cycle (Subsystem.Job σ)) (wake : Wake) (r : Runner σ)
    (w : World) : (deeds wait c wake r w).foldl Deed.driving driving =
      ((c.judged wake r w).map fun x => Deed.settled x.1 x.2).foldl Deed.driving
        (((wait.taken (Subsystem.address σ) wake).map .took).foldl Deed.driving driving) := by
  simp only [deeds, List.foldl_append, List.foldl_map, Deed.driving, List.foldl_fixed]

/-- One stretch of work of a cycle that nothing rouses. -/
lemma still_runOn (restful : Subsystem.Restful σ rouses sensed still) {wait : Wait} {wake : Wake}
    {c : Cycle (Subsystem.Job σ)} {p : Progress (Cycle (Subsystem.Job σ)) Empty} {u : World}
    (fit : Fits (Subsystem.address σ) fits c wait) (calm : Calm c) (ended : u.Ended wait wake v)
    (still_asleep : ∀ m ∈ wait.taken (Subsystem.address σ) wake, rouses m.command = false)
    (h : still driving r.subsystem) (done : c.runOn wake r v = .ok (p, r', w)) :
    (∃ wait' c', p = .waiting wait' c' ∧ Calm c') ∧
      still ((deeds wait c wake r v).foldl Deed.driving driving) r'.subsystem := by
  rw [driving_deeds]
  cases fit with
  | @listening limit =>
    cases ended with
    | @received _ _ m _ taken =>
      have mine : Wait.taken (Subsystem.address σ) (.receive (Subsystem.address σ) limit)
        (.received m limit) = [m] := if_pos rfl
      rw [mine] at still_asleep ⊢
      obtain ⟨next, heard, judged⟩ := still_take restful (still_asleep m (by simp)) h done
      refine ⟨next, ?_⟩
      cases mode : m.isMode with
      | true =>
        simpa [Cycle.judged, Wake.message, mode, Deed.driving] using heard mode
      | false =>
        obtain ⟨x, lasts, verdict⟩ := judged mode
        simpa [Cycle.judged, Wake.message, mode, verdict, Deed.driving_settled] using lasts
    | missed =>
      have done : take .timeout r _ >>= again = .ok (p, r', w) := done
      obtain ⟨next, -, judged⟩ := still_take restful restful.quiet h done
      refine ⟨next, ?_⟩
      have mode : Message.timeout.isMode = false := rfl
      obtain ⟨x, lasts, verdict⟩ := judged mode
      simpa [Cycle.judged, Wake.message, Wait.taken, mode, verdict, Deed.driving_settled] using lasts
  | replying reply =>
    obtain ⟨rfl, -, limit, rfl⟩ := start_eq_ok done
    exact ⟨⟨_, _, rfl, trivial⟩, by simpa [Cycle.judged, Wait.taken] using h⟩
  | entering fit => exact calm.elim
  | handling news fit => exact calm.elim

/-- A subsystem that is not roused by a mode is calm from the end of the cycle that hears of it. -/
lemma still_of_heard (modest : Subsystem.Modest σ fits bin sweeps)
    {a b : Stage (Cycle (Subsystem.Job σ)) Empty (Runner σ)} {l : List Deed} {m : Message}
    {mode : Mode} (step : (routine σ).Step a l b)
    (fit : ∀ wait c, a.1 = .waiting wait c → Fits (Subsystem.address σ) fits c wait)
    (taken : Deed.taken l = [m]) (news : m.command = .state mode)
    (heard : ∀ w, ∃ s u, Subsystem.enter mode a.2.1.subsystem w = .ok (.finished (), s, u) ∧
      still false s) :
    (∃ wait c, b.1 = .waiting wait c ∧ Calm c) ∧ still false b.2.1.subsystem := by
  obtain ⟨p, r', w'⟩ := b
  cases step with
  | pending looked => cases taken
  | @woken wait wake c r v u _ looked worked =>
    have fitting := fit _ _ rfl
    have ended := World.ended_of_poll looked
    rw [routine, taken_deeds] at taken
    cases fitting with
    | @listening limit =>
      cases ended with
      | @received _ _ m' _ mail =>
        have mine : Wait.taken (Subsystem.address σ) (.receive (Subsystem.address σ) limit)
          (.received m' limit) = [m'] := if_pos rfl
        cases mine.symm.trans taken
        have mode_news : m.isMode = true := by simp [Message.isMode, news]
        obtain ⟨new, hm, take_eq⟩ := take_of_isMode (r := r) (w := u) mode_news
        cases news.symm.trans hm
        obtain ⟨s, u', entered, lasts⟩ := heard (u.notice (.modeHeard (Subsystem.stamp σ) mode))
        have done : take m r u >>= again = .ok (p, r', w') := worked
        rw [take_eq, entered] at done
        obtain ⟨rfl, -, limit', rfl⟩ := start_eq_ok done
        exact ⟨⟨_, _, rfl, trivial⟩, lasts⟩
      | missed => cases taken
    | entering fit' =>
      rw [Wait.taken_eq_nil fun limit => modest.reads fit'] at taken
      cases taken
    | handling news fit' =>
      rw [Wait.taken_eq_nil fun limit => modest.reads fit'] at taken
      cases taken
    | replying reply => cases taken

/-! ### A stretch of a run -/

/-- What the surroundings may do to a subsystem that runs: whatever they like to the world, and to its
state what they can sense it to. -/
def Sensed (sensed : σ → σ → Prop) (a b : Runner σ × World) : Prop :=
  sensed a.1.subsystem b.1.subsystem

/-- What lasts of a subsystem that nothing rouses lasts all through the run. -/
lemma still_of_run (modest : Subsystem.Modest σ fits bin sweeps)
    (restful : Subsystem.Restful σ rouses sensed still)
    {a b : Stage (Cycle (Subsystem.Job σ)) Empty (Runner σ)} {t : List Deed}
    (run : (routine σ).Run (Sensed sensed) a t b)
    (fit : ∀ wait c, a.1 = .waiting wait c → Fits (Subsystem.address σ) fits c wait)
    (calm : ∃ wait c, a.1 = .waiting wait c ∧ Calm c)
    (asleep : ∀ m ∈ Deed.taken t, rouses m.command = false) (h : still driving a.2.1.subsystem) :
    (∃ wait c, b.1 = .waiting wait c ∧ Calm c) ∧
      still (t.foldl Deed.driving driving) b.2.1.subsystem := by
  induction run with
  | start => exact ⟨calm, h⟩
  | look run step ih =>
    rw [Deed.taken_append] at asleep
    obtain ⟨⟨wait, c, at_, resting⟩, lasting⟩ := ih fun m hm => asleep m (List.mem_append_left _ hm)
    have fitting := fits_of_run modest run fit
    cases step with
    | pending looked =>
      cases at_
      exact ⟨⟨_, c, rfl, resting⟩, by simpa using lasting⟩
    | woken looked worked =>
      cases at_
      rw [List.foldl_append]
      refine still_runOn restful (fitting _ _ rfl) resting (World.ended_of_poll looked) ?_ lasting worked
      intro m hm
      exact asleep m (List.mem_append_right _ (by rw [routine, taken_deeds]; exact hm))
  | around run change ih =>
    obtain ⟨resting, lasting⟩ := ih asleep
    exact ⟨resting, restful.sense lasting change⟩

end Cycle

end MatchRobot
