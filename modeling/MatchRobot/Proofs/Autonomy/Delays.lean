import Mathlib.Algebra.Order.Floor.Div
import MatchRobot.Proofs.Autonomy.Lines
import MatchRobot.Proofs.Task.Timed

/-!
# How long a delay takes

A delay is slept through in slices, and a pause takes hold between two of them. So the time that a
delay takes falls into two parts: the slices, which are as many as it takes to cover the delay, and the
time that it is held, which counts for nothing. A pause that comes in the middle of a slice does not
interrupt it; that slice is slept to its end, and counts.

`Interpreter.Stands` says where a delay stands after a number of slices. One look at the task keeps to
it (`stands_of_step`), and so does a run (`stands_of_run`), whatever the surroundings do to the world.
That a delay ends takes surroundings that let it: `Lenient` asks for no more than that it is looked at
again when its wait is over, and without a pause if it was held.
-/

namespace MatchRobot

/-! ### Time spent in waits of a kind -/

/-- Whether a wait is for nothing but time. -/
def Wait.isSleep : Wait → Bool
  | .sleep _ => true
  | _ => false

/-- Whether a wait is for the operator's resume. -/
def Wait.isHold : Wait → Bool
  | .resume _ => true
  | _ => false

namespace Passage

variable {ε : Type}

/-- The time that a task spent in waits of a kind. -/
def spent (kind : Wait → Bool) (t : List (Passage ε)) : Micros :=
  (t.filterMap fun | elapsed wait span => if kind wait then some span else none | _ => none).sum

@[simp] lemma spent_nil (kind : Wait → Bool) : spent kind ([] : List (Passage ε)) = 0 :=
  rfl

@[simp] lemma spent_append (kind : Wait → Bool) (t l : List (Passage ε)) :
    spent kind (t ++ l) = spent kind t + spent kind l := by
  rw [spent, List.filterMap_append, List.sum_append]
  rfl

@[simp] lemma spent_noted (kind : Wait → Bool) (l : List ε) : spent kind (l.map .noted) = 0 := by
  simp [spent, List.filterMap_map, List.filterMap_none]

@[simp] lemma spent_elapsed (kind : Wait → Bool) (wait : Wait) (span : Micros) :
    spent kind [(elapsed wait span : Passage ε)] = if kind wait then span else 0 := by
  cases h : kind wait <;> simp [spent, h]

end Passage

/-! ### The pause switch -/

namespace World

variable {v w : World} {wait wait' : Wait} {wake : Wake}

/-- Waiting does not touch the pause switch. -/
lemma paused_of_pending (h : v.poll wait = .pending wait' w) :
    w.control.paused = v.control.paused := by
  cases asked_of_poll h
  rfl

end World

namespace Interpreter

/-! ### The delay as a task -/

/-- A delay that is about to begin. -/
def aboutToDelay (i : Interpreter) (total : Micros) (w : World) :
    Stage Evaluation Bool Interpreter :=
  (.waiting .none (.delayHeld 0 total), i, w)

/-- Whether a slice begins where a piece of work stops, and whether a pause is on then. -/
def sliceBegun : Stage Evaluation Bool Interpreter → List Bool
  | (.waiting _ e, _, w) => match e with
    | .delaying _ _ => [w.control.paused]
    | _ => []
  | (.finished _, _, _) => []

/-- A delay as a routine. Noted is for each slice that begins whether a pause is on. -/
def delays : Routine Evaluation Bool Interpreter Bool where
  resume e wake i w := i.resume e wake w
  notes _ e wake i w := match i.resume e wake w with
    | .ok stage => sliceBegun stage
    | .error _ => []

variable {i : Interpreter} {waited total : Micros} {w : World}
  {stage a b : Stage Evaluation Bool Interpreter}

lemma notes_of_resume {e : Evaluation} {wake : Wake} (wait : Wait)
    (worked : i.resume e wake w = .ok stage) : delays.notes wait e wake i w = sliceBegun stage := by
  simp only [delays, worked]

/-- A delay that goes on is held by a pause, begins a slice or is over. -/
lemma delay_cases (done : i.delay waited total w = .ok stage) :
    (waited < total ∧ w.control.paused = true ∧
      ∃ limit, stage = (.waiting (.resume limit) (.delayHeld waited total), i, w)) ∨
    (waited < total ∧ w.control.paused = false ∧ stage =
      (.waiting (.sleep ⟨w.now + i.config.delaySlice, false⟩) (.delaying waited total), i, w)) ∨
    (total ≤ waited ∧ stage = (.finished false, i, w)) := by
  unfold delay at done
  by_cases short : waited < total
  · rw [if_pos short] at done
    cases paused : w.control.paused with
    | true =>
      rw [paused, if_pos rfl] at done
      obtain ⟨wait, held, done⟩ := bind_eq_ok.1 done
      obtain ⟨limit, rfl⟩ := Wait.eq_resume_of_resumeFor held
      cases done
      exact .inl ⟨short, rfl, limit, rfl⟩
    | false =>
      rw [paused, if_neg nofun] at done
      obtain ⟨wait, slept, done⟩ := bind_eq_ok.1 done
      obtain rfl := Wait.eq_of_sleepFor slept
      cases done
      exact .inr (.inl ⟨short, rfl, rfl⟩)
  · rw [if_neg short] at done
    cases done
    exact .inr (.inr ⟨Nat.le_of_not_lt short, rfl⟩)

/-- Without a pause, a delay that is not over begins a slice. -/
lemma delay_begins (short : waited < total) (free : w.control.paused = false)
    (time : w.now + i.config.delaySlice < Clock.limit) : i.delay waited total w = .ok
      (.waiting (.sleep ⟨w.now + i.config.delaySlice, false⟩) (.delaying waited total), i, w) := by
  have in_time : Clock.after w.now i.config.delaySlice = .ok (w.now + i.config.delaySlice) :=
    if_pos time
  simp only [delay, short, if_true, free, Bool.false_eq_true, if_false, Wait.sleepFor, in_time]
  rfl

/-- The clock is all that can stop a delay: the next wait would end beyond it. -/
lemma delay_eq_error_iff {fault : Fault} :
    i.delay waited total w = .error fault ↔ fault = .clockOverflow ∧ waited < total ∧
      Clock.limit ≤ w.now +
        if w.control.paused then i.config.pausePoll else i.config.delaySlice := by
  unfold delay
  by_cases short : waited < total
  · simp only [short, if_true, true_and]
    cases w.control.paused with
    | true => exact bind_pure_eq_error_iff.trans (bind_pure_eq_error_iff.trans Clock.after_eq_error_iff)
    | false => exact bind_pure_eq_error_iff.trans Wait.sleepFor_eq_error_iff
  · simp [short]

/-! ### Where a delay stands -/

/-- Where a delay stands at an instant, after `n` slices were begun and some time was slept away: it is
held or over between two slices, or it sleeps, and the alarm rings when the last slice is full. That
there are too few slices for the delay, but for the last one, is how often they are begun. -/
inductive Stands (slice total : Micros) (n slept now : Nat) : Progress Evaluation Bool → Prop
  | held {wait : Wait} (few : n * slice < total + slice) (whole : slept = n * slice)
      (kind : wait = .none ∨ ∃ limit, wait = .resume limit) :
      Stands slice total n slept now (.waiting wait (.delayHeld (n * slice) total))
  | delaying {alarm : Alarm} {waited : Micros} (short : waited < total)
      (begun : n * slice = waited + slice) (rest : slept + (alarm.time - now) = n * slice)
      (early : now ≤ alarm.time) (near : alarm.time ≤ now + slice) :
      Stands slice total n slept now (.waiting (.sleep alarm) (.delaying waited total))
  | ended (few : n * slice < total + slice) (whole : slept = n * slice) (enough : total ≤ n * slice) :
      Stands slice total n slept now (.finished false)

variable {slice : Micros} {n slept now : Nat}

/-- All that is slept are slices that were begun, and there are never too many of them. -/
lemma Stands.few {p : Progress Evaluation Bool} (h : Stands slice total n slept now p) :
    n * slice < total + slice := by
  cases h with
  | held few | ended few => exact few
  | delaying short begun =>
    rw [begun]
    exact Nat.add_lt_add_right short slice

lemma Stands.slept_le {p : Progress Evaluation Bool} (h : Stands slice total n slept now p) :
    slept ≤ n * slice := by
  cases h with
  | held _ whole | ended _ whole => exact whole.le
  | delaying _ _ rest => exact rest ▸ Nat.le_add_right _ _

/-- At most one slice is still to be slept through. -/
lemma Stands.le_slept {p : Progress Evaluation Bool} (h : Stands slice total n slept now p) :
    n * slice ≤ slept + slice := by
  cases h with
  | held _ whole | ended _ whole => exact whole ▸ Nat.le_add_right _ _
  | delaying _ _ rest _ near =>
    rw [← rest]
    exact Nat.add_le_add_left (Nat.sub_le_iff_le_add'.2 near) _

/-- What a delay comes to from between two slices. -/
lemma stands_of_delay (few : n * i.config.delaySlice < total + i.config.delaySlice)
    (done : i.delay (n * i.config.delaySlice) total w = .ok stage) :
    Stands i.config.delaySlice total (n + (sliceBegun stage).length) (n * i.config.delaySlice) w.now
        stage.1 ∧
      stage.2 = (i, w) ∧
      ∀ paused ∈ sliceBegun stage, paused = false ∧ w.control.paused = false := by
  rcases delay_cases done with ⟨-, -, limit, rfl⟩ | ⟨short, free, rfl⟩ | ⟨enough, rfl⟩
  · exact ⟨.held few rfl (.inr ⟨limit, rfl⟩), rfl, nofun⟩
  · have next : (n + 1) * i.config.delaySlice = n * i.config.delaySlice + i.config.delaySlice :=
      Nat.succ_mul _ _
    refine ⟨.delaying short next ?_ (Nat.le_add_right _ _) (Nat.le_refl _), rfl, ?_⟩
    · rw [Nat.add_sub_cancel_left]
      exact next.symm
    · rw [sliceBegun, free]
      intro paused among
      exact ⟨List.mem_singleton.1 among, rfl⟩
  · exact ⟨.ended few rfl enough, rfl, nofun⟩

/-- A wait of a delay ends between two slices, and the work goes on there. -/
lemma Stands.woken {wait : Wait} {e : Evaluation} {wake : Wake} {v : World}
    (before : Stands i.config.delaySlice total n slept w.now (.waiting wait e))
    (looked : w.poll wait = .over wake v) :
    slept = n * i.config.delaySlice ∧ v.now = w.now ∧ v.control.paused = w.control.paused ∧
      i.resume e wake v = i.delay (n * i.config.delaySlice) total v := by
  have ended := World.ended_of_poll looked
  cases before with
  | held few whole kind =>
    rcases kind with rfl | ⟨limit, rfl⟩
    · cases ended
      exact ⟨whole, rfl, rfl, rfl⟩
    · cases ended <;> exact ⟨whole, rfl, rfl, rfl⟩
  | @delaying alarm waited short begun rest =>
    obtain ⟨due, rfl⟩ := World.poll_sleep_eq_over looked
    rw [Nat.sub_eq_zero_of_le due, Nat.add_zero] at rest
    exact ⟨rest, rfl, rfl, by rw [begun]; rfl⟩

/-- A look at a delay begins at most one slice, and none under a pause. It leaves the clock and the
switch alone. -/
lemma stands_of_step {p : Progress Evaluation Bool} {l : List Bool}
    (before : Stands i.config.delaySlice total n slept w.now p) (step : delays.Step (p, i, w) l b) :
    Stands i.config.delaySlice total (n + l.length) slept b.2.2.now b.1 ∧ b.2.1 = i ∧
      b.2.2.now = w.now ∧ b.2.2.control.paused = w.control.paused ∧
      ∀ paused ∈ l, paused = false ∧ w.control.paused = false := by
  cases step with
  | @pending wait wait' _ _ _ v looked =>
    obtain ⟨rearmed, kept⟩ := World.rearmed_of_poll looked
    refine ⟨?_, rfl, kept.now, World.paused_of_pending looked, nofun⟩
    rw [kept.now]
    cases before with
    | held few whole kind =>
      rcases kind with rfl | ⟨limit, rfl⟩
      · cases rearmed
      · cases rearmed
        exact .held few whole (.inr ⟨_, rfl⟩)
    | delaying short begun rest early near =>
      obtain ⟨rfl, -⟩ := World.poll_sleep_eq_pending looked
      exact .delaying short begun rest early near
  | @woken wait wake e _ _ v _ looked worked =>
    obtain ⟨whole, still, switch, goes_on⟩ := before.woken looked
    have worked : i.resume e wake v = .ok b := worked
    have noted := notes_of_resume wait worked
    rw [goes_on] at worked
    obtain ⟨stands, same, free⟩ := stands_of_delay before.few worked
    rw [noted, whole, same, ← switch]
    exact ⟨stands, rfl, still, rfl, free⟩

/-- A stretch of time that a delay waits through is slept or spent held. -/
lemma Stands.tick {wait : Wait} {e : Evaluation} {time : Micros}
    (before : Stands slice total n slept w.now (.waiting wait e)) (lasts : wait.Lasts w time) :
    Stands slice total n (slept + if wait.isSleep then time - w.now else 0) time (.waiting wait e) ∧
      time = w.now + (if wait.isSleep then time - w.now else 0) +
        if wait.isHold then time - w.now else 0 := by
  have later := lasts.later
  cases before with
  | held few whole kind =>
    rcases kind with rfl | ⟨limit, rfl⟩
    · obtain ⟨wait', v, pending⟩ := lasts.pending
      cases pending
    · refine ⟨.held few whole (.inr ⟨limit, rfl⟩), ?_⟩
      simp only [Wait.isSleep, Wait.isHold, Bool.false_eq_true, if_false, if_true, Nat.add_zero]
      exact (Nat.add_sub_cancel' later).symm
  | @delaying alarm waited short begun rest _ near =>
    have before_alarm := (lasts.quiet alarm rfl).2
    refine ⟨.delaying short begun ?_ before_alarm (near.trans (Nat.add_le_add_right later _)), ?_⟩
    · calc slept + (time - w.now) + (alarm.time - time)
        _ = slept + ((alarm.time - time) + (time - w.now)) := by rw [Nat.add_assoc, Nat.add_comm (time - _)]
        _ = slept + (alarm.time - w.now) := by rw [Nat.sub_add_sub_cancel before_alarm later]
        _ = n * slice := rest
    · simp only [Wait.isSleep, Wait.isHold, Bool.false_eq_true, if_false, if_true, Nat.add_zero]
      exact (Nat.add_sub_cancel' later).symm

/-- All through a run, a delay stands where its slices put it, the clock shows what was slept and what
was spent held, and no slice was begun under a pause. -/
lemma stands_of_run {t : List (Passage Bool)} (run : delays.TimedRun Aside a t b)
    {m asleep : Nat} (before : Stands a.2.1.config.delaySlice total m asleep a.2.2.now a.1) :
    Stands a.2.1.config.delaySlice total (m + (Passage.notes t).length)
        (asleep + Passage.spent Wait.isSleep t) b.2.2.now b.1 ∧
      b.2.1 = a.2.1 ∧
      b.2.2.now = a.2.2.now + Passage.spent Wait.isSleep t + Passage.spent Wait.isHold t ∧
      ∀ paused ∈ Passage.notes t, paused = false := by
  induction run with
  | start => exact ⟨before, rfl, rfl, nofun⟩
  | @look b c t l run step ih =>
    obtain ⟨stands, same, clock, free⟩ := ih
    obtain ⟨p, i, w⟩ := b
    subst same
    obtain ⟨stands', same', still, -, free'⟩ := stands_of_step stands step
    simp only [Passage.notes_append, Passage.notes_noted, Passage.spent_append, Passage.spent_noted,
      List.length_append, Nat.add_zero]
    rw [← Nat.add_assoc]
    refine ⟨stands', same', still.trans clock, fun paused among => ?_⟩
    rcases List.mem_append.1 among with earlier | here
    · exact free paused earlier
    · exact (free' paused here).1
  | @around t p s s' w w' run change still ih =>
    obtain ⟨stands, same, clock, free⟩ := ih
    cases change
    refine ⟨?_, same, still.trans clock, free⟩
    rw [still]
    exact stands
  | @tick t wait e s w time run lasts ih =>
    obtain ⟨stands, same, clock, free⟩ := ih
    obtain ⟨stands', passed⟩ := stands.tick lasts
    simp only [Passage.notes_append, Passage.notes_elapsed, Passage.spent_append,
      Passage.spent_elapsed, List.append_nil]
    rw [← Nat.add_assoc]
    refine ⟨stands', same, ?_, free⟩
    have sums : ∀ p q r x y : Nat, p + q + r + x + y = p + (q + x) + (r + y) := by omega
    exact passed.trans ((congrArg (· + _ + _) clock).trans (sums ..))

/-! ### Pauses -/

/-- The surroundings leave the operator's pause switch alone, too. -/
def Unswitched (x y : Interpreter × World) : Prop :=
  Aside x y ∧ y.2.control.paused = x.2.control.paused

/-- As long as a pause is on, no slice begins. -/
lemma idle_of_run {u : List (Passage Bool)} (run : delays.TimedRun Unswitched a u b)
    (before : Stands a.2.1.config.delaySlice total n slept a.2.2.now a.1)
    (paused : a.2.2.control.paused = true) :
    Passage.notes u = [] ∧ b.2.2.control.paused = true := by
  induction run with
  | start => exact ⟨rfl, paused⟩
  | @look b c t l run step ih =>
    obtain ⟨idle, on⟩ := ih
    obtain ⟨stands, same, -⟩ := stands_of_run (run.mono fun _ _ aside => aside.1) before
    obtain ⟨p, i, w⟩ := b
    subst same
    obtain ⟨-, -, -, switch, free⟩ := stands_of_step stands step
    refine ⟨?_, switch.trans on⟩
    rw [Passage.notes_append, Passage.notes_noted, idle, List.nil_append]
    refine List.eq_nil_iff_forall_not_mem.2 fun noted among => ?_
    cases (free noted among).2.symm.trans on
  | around run change still ih => exact ⟨ih.1, change.2.trans ih.2⟩
  | tick run lasts ih =>
    rw [Passage.notes_append, Passage.notes_elapsed, List.append_nil]
    exact ih

/-! ### A delay goes on and ends -/

/-- A delay that is about to begin has begun no slice. -/
lemma stands_at_begin (pos : 0 < i.config.delaySlice) :
    Stands i.config.delaySlice total 0 0 w.now (i.aboutToDelay total w).1 := by
  have held : Stands i.config.delaySlice total 0 0 w.now
      (.waiting .none (.delayHeld (0 * i.config.delaySlice) total)) :=
    .held (by rw [Nat.zero_mul]; exact Nat.add_pos_right _ pos) (Nat.zero_mul _).symm (.inl rfl)
  rwa [Nat.zero_mul] at held

/-- A look that finds a wait over goes on, unless the clock is at its end. -/
lemma exists_step {wait : Wait} {e : Evaluation} {wake : Wake} {v : World}
    (before : Stands i.config.delaySlice total n slept w.now (.waiting wait e))
    (looked : w.poll wait = .over wake v)
    (time : w.now + max i.config.pausePoll i.config.delaySlice < Clock.limit) :
    ∃ l c, delays.Step (.waiting wait e, i, w) l c := by
  obtain ⟨-, still, -, goes_on⟩ := before.woken looked
  cases worked : i.delay (n * i.config.delaySlice) total v with
  | ok stage => exact ⟨_, stage, .woken looked (goes_on.trans worked)⟩
  | error fault =>
    obtain ⟨-, -, late⟩ := delay_eq_error_iff.1 worked
    rw [still] at late
    have span : (if v.control.paused then i.config.pausePoll else i.config.delaySlice) ≤
        max i.config.pausePoll i.config.delaySlice := by
      split
      · exact Nat.le_max_left _ _
      · exact Nat.le_max_right _ _
    exact absurd (late.trans (Nat.add_le_add_left span _)) (Nat.not_le_of_lt time)

/-- How far a delay is from its end while it waits. Being held counts one more than sleeping. -/
def toGo : Evaluation → Nat
  | .delayHeld waited total => 2 * (total - waited) + 1
  | .delaying waited total => 2 * (total - waited)
  | _ => 0

/-- How far a delay is from its end. -/
def distance : Progress Evaluation Bool → Nat
  | .waiting _ e => toGo e
  | .finished _ => 0

/-- From between two slices a delay comes no further from its end, and nearer unless it is held. -/
lemma distance_of_delay (done : i.delay waited total w = .ok stage) :
    distance stage.1 ≤ 2 * (total - waited) + 1 ∧
      (w.control.paused = false → distance stage.1 ≤ 2 * (total - waited)) := by
  rcases delay_cases done with ⟨-, paused, limit, rfl⟩ | ⟨-, -, rfl⟩ | ⟨-, rfl⟩
  · exact ⟨Nat.le_refl _, fun free => nomatch paused.symm.trans free⟩
  · exact ⟨Nat.le_succ _, fun _ => Nat.le_refl _⟩
  · exact ⟨Nat.zero_le _, fun _ => Nat.zero_le _⟩

/-- A look that lets a delay go on: it finds its wait over, and no pause on if the delay was held. -/
def LetOn (a b : Stage Evaluation Bool Interpreter) : Prop :=
  ∃ wait e i w wake v l, a = (.waiting wait e, i, w) ∧ w.poll wait = .over wake v ∧
    ((∃ waited total, e = .delayHeld waited total) → v.control.paused = false) ∧
    delays.Step a l b

/-- A schedule that lets a delay go on: as long as it waits, there will be a look that does. -/
structure Lenient (s : Nat → Stage Evaluation Bool Interpreter) : Prop where
  linked : ∀ n, ∃ t, delays.TimedRun Aside (s n) t (s (n + 1))
  letOn : ∀ n, (s n).1.isWaiting = true → ∃ m, n ≤ m ∧ LetOn (s m) (s (m + 1))

/-- A wait that is over takes a delay no further from its end, and nearer if it lets it go on. -/
lemma distance_of_woken {wait : Wait} {e : Evaluation} {wake : Wake} {v : World}
    (pos : 0 < i.config.delaySlice)
    (before : Stands i.config.delaySlice total n slept w.now (.waiting wait e))
    (looked : w.poll wait = .over wake v) (worked : i.resume e wake v = .ok stage) :
    distance stage.1 ≤ distance (.waiting wait e) ∧
      (((∃ waited total, e = .delayHeld waited total) → v.control.paused = false) →
        distance stage.1 < distance (.waiting wait e)) := by
  obtain ⟨-, -, -, goes_on⟩ := before.woken looked
  rw [goes_on] at worked
  obtain ⟨no_further, nearer⟩ := distance_of_delay worked
  cases before with
  | held few => exact ⟨no_further, fun free => Nat.lt_succ_of_le (nearer (free ⟨_, _, rfl⟩))⟩
  | @delaying alarm waited short begun =>
    -- the slice that is over brought the delay nearer, even if it is held now
    have slice_over : 2 * (total - n * i.config.delaySlice) + 1 < 2 * (total - waited) := by
      rw [begun]
      exact (by omega : ∀ t x y : Nat, 0 < y → x < t → 2 * (t - (x + y)) + 1 < 2 * (t - x)) _ _ _ pos short
    have nearer := no_further.trans_lt slice_over
    exact ⟨nearer.le, fun _ => nearer⟩

/-- No run takes a delay further from its end. -/
lemma distance_of_run {t : List (Passage Bool)} (pos : 0 < a.2.1.config.delaySlice)
    (run : delays.TimedRun Aside a t b)
    (before : Stands a.2.1.config.delaySlice total n slept a.2.2.now a.1) :
    distance b.1 ≤ distance a.1 := by
  induction run with
  | start => exact Nat.le_refl _
  | @look b c t l run step ih =>
    refine Nat.le_trans ?_ ih
    obtain ⟨stands, same, -⟩ := stands_of_run run before
    obtain ⟨p, i, w⟩ := b
    subst same
    cases step with
    | pending looked => exact Nat.le_refl _
    | woken looked worked => exact (distance_of_woken pos stands looked worked).1
  | around run change still ih => exact ih
  | tick run lasts ih => exact ih

section

variable {s : Nat → Stage Evaluation Bool Interpreter}

/-- All along a schedule the delay stands somewhere. -/
lemma Lenient.stands (lenient : Lenient s) (pos : 0 < i.config.delaySlice)
    (begun : s 0 = i.aboutToDelay total w) (m : Nat) : (s m).2.1 = i ∧ ∃ k slept,
      Stands (s m).2.1.config.delaySlice total k slept (s m).2.2.now (s m).1 := by
  have reached : ∃ t, delays.TimedRun Aside (i.aboutToDelay total w) t (s m) := by
    induction m with
    | zero => exact ⟨[], begun ▸ .start _⟩
    | succ m ih =>
      obtain ⟨t, run⟩ := ih
      obtain ⟨u, more⟩ := lenient.linked m
      exact ⟨t ++ u, run.trans more⟩
  obtain ⟨t, run⟩ := reached
  obtain ⟨stands, same, -⟩ := stands_of_run run (stands_at_begin pos)
  rw [← same] at stands
  exact ⟨same, _, _, stands⟩

lemma Lenient.no_further (lenient : Lenient s) (pos : 0 < i.config.delaySlice)
    (begun : s 0 = i.aboutToDelay total w) {n m : Nat} (later : n ≤ m) :
    distance (s m).1 ≤ distance (s n).1 := by
  induction m, later using Nat.le_induction with
  | base => exact Nat.le_refl _
  | succ m later ih =>
    obtain ⟨t, run⟩ := lenient.linked m
    obtain ⟨same, k, slept, stands⟩ := lenient.stands pos begun m
    rw [← same] at pos
    exact (distance_of_run pos run stands).trans ih

/-- A look that lets a delay go on brings it nearer to its end. -/
lemma distance_of_letOn {a b : Stage Evaluation Bool Interpreter} (lets : LetOn a b)
    (pos : 0 < a.2.1.config.delaySlice)
    (before : Stands a.2.1.config.delaySlice total n slept a.2.2.now a.1) :
    distance b.1 < distance a.1 := by
  obtain ⟨wait, e, i, w, wake, v, l, rfl, looked, free, step⟩ := lets
  cases step with
  | pending pending => cases looked.symm.trans pending
  | woken looked' worked =>
    cases looked.symm.trans looked'
    exact (distance_of_woken pos before looked worked).2 free

/-- A delay that is let go on ends. -/
lemma ends_of_lenient (pos : 0 < i.config.delaySlice) (begun : s 0 = i.aboutToDelay total w)
    (lenient : Lenient s) : ∃ n, (s n).1 = .finished false := by
  suffices ends : ∀ d n, distance (s n).1 = d → ∃ m, (s m).1 = .finished false from ends _ 0 rfl
  intro d
  induction d using Nat.strong_induction_on with
  | _ d ih =>
    intro n at_distance
    cases waits : (s n).1.isWaiting with
    | false =>
      obtain ⟨-, k, slept, stands⟩ := lenient.stands pos begun n
      refine ⟨n, ?_⟩
      generalize (s n).1 = p at waits stands
      cases stands with
      | ended => rfl
      | held | delaying => cases waits
    | true =>
      obtain ⟨m, later, lets⟩ := lenient.letOn n waits
      obtain ⟨same, k, slept, stands⟩ := lenient.stands pos begun m
      have nearer : distance (s (m + 1)).1 < distance (s m).1 :=
        distance_of_letOn lets (by rwa [same]) stands
      have closer := nearer.trans_le (lenient.no_further pos begun later)
      exact ih _ (at_distance ▸ closer) (m + 1) rfl

end

/-! ### The whole delay -/

/-- What a delay has come to since it was about to begin. -/
structure Account (i : Interpreter) (total start : Micros) (t : List (Passage Bool))
    (b : Stage Evaluation Bool Interpreter) : Prop where
  /-- No slice begins while a pause is on. -/
  free : ∀ paused ∈ Passage.notes t, paused = false
  /-- There are never more slices than it takes to cover the delay. -/
  few : (Passage.notes t).length ≤ total ⌈/⌉ i.config.delaySlice
  /-- All the time is slept or spent held. -/
  clock : b.2.2.now = start + Passage.spent Wait.isSleep t + Passage.spent Wait.isHold t
  /-- In the end exactly as many slices as it takes are slept, however long it was held. -/
  ended : ∀ result, b.1 = .finished result → result = false ∧
    (Passage.notes t).length = total ⌈/⌉ i.config.delaySlice ∧
    Passage.spent Wait.isSleep t = (Passage.notes t).length * i.config.delaySlice ∧
    total ≤ Passage.spent Wait.isSleep t ∧
    Passage.spent Wait.isSleep t < total + i.config.delaySlice

/-- Fewer slices than it takes, and one more. -/
lemma le_ceilDiv {n total slice : Nat} (pos : 0 < slice) (few : n * slice < total + slice) :
    n ≤ total ⌈/⌉ slice := by
  by_contra more
  have enough : total ≤ slice * (total ⌈/⌉ slice) := (ceilDiv_le_iff_le_mul pos).1 le_rfl
  have one_more : slice * (total ⌈/⌉ slice + 1) ≤ slice * n :=
    Nat.mul_le_mul_left slice (Nat.lt_of_not_le more)
  rw [Nat.mul_comm n] at few
  rw [Nat.mul_succ] at one_more
  omega

lemma account_of_run {t : List (Passage Bool)} (pos : 0 < i.config.delaySlice)
    (run : delays.TimedRun Aside (i.aboutToDelay total w) t b) : i.Account total w.now t b := by
  obtain ⟨stands, -, clock, free⟩ := stands_of_run run (stands_at_begin pos)
  simp only [Nat.zero_add] at stands
  refine ⟨free, le_ceilDiv pos stands.few, clock, fun result finished => ?_⟩
  rw [finished] at stands
  cases stands with
  | ended few whole enough =>
    refine ⟨rfl, le_antisymm (le_ceilDiv pos few) ?_, whole, whole ▸ enough, whole ▸ few⟩
    rw [ceilDiv_le_iff_le_mul pos, Nat.mul_comm]
    exact enough

/-- How a delay goes, if slices take any time. It sleeps through exactly as many slices as it takes to
cover it, none of which begins under a pause, and for the rest it is held; only the end of the clock
can stop it. While a pause is on, no slice begins, and at most what is left of the slice under way is
slept and counts. It ends under every schedule that lets it go on whenever it is held. -/
theorem delay_in_slices (i : Interpreter) (total : Micros) (w : World)
    (pos : 0 < i.config.delaySlice) :
    (∀ t b, delays.TimedRun Aside (i.aboutToDelay total w) t b →
      i.Account total w.now t b ∧
      (∀ wait e j v wake v', b = (.waiting wait e, j, v) → v.poll wait = .over wake v' →
        v.now + max i.config.pausePoll i.config.delaySlice < Clock.limit →
        ∃ l c, delays.Step b l c) ∧
      (b.2.2.control.paused = true → ∀ u c, delays.TimedRun Unswitched b u c →
        Passage.notes u = [] ∧ Passage.spent Wait.isSleep u ≤ i.config.delaySlice ∧
        Passage.spent Wait.isSleep t + Passage.spent Wait.isSleep u ≤
          (Passage.notes t).length * i.config.delaySlice)) ∧
    ∀ s, s 0 = i.aboutToDelay total w → Lenient s → ∃ n, (s n).1 = .finished false := by
  refine ⟨fun t b run => ⟨account_of_run pos run, ?_, ?_⟩, fun s begun => ends_of_lenient pos begun⟩
  · rintro wait e j v wake v' rfl looked time
    obtain ⟨stands, rfl, -⟩ := stands_of_run run (stands_at_begin pos)
    exact exists_step stands looked time
  · intro paused u c rest
    obtain ⟨stands, same, -⟩ := stands_of_run run (stands_at_begin pos)
    rw [← same] at stands
    obtain ⟨idle, -⟩ := idle_of_run rest stands paused
    obtain ⟨stands', -⟩ := stands_of_run (rest.mono fun _ _ aside => aside.1) stands
    have within := stands'.slept_le
    have begun := stands.le_slept
    rw [same, idle, List.length_nil, Nat.add_zero, Nat.zero_add, Nat.zero_add] at within
    rw [same, Nat.zero_add, Nat.zero_add] at begun
    exact ⟨idle, Nat.le_of_add_le_add_left (within.trans begun), within⟩

/-- A delay of one slice that begins in one world and is looked at again in another. -/
def oneSlice (i : Interpreter) (total : Micros) (w v : World) :
    Nat → Stage Evaluation Bool Interpreter
  | 0 => i.aboutToDelay total w
  | 1 => (.waiting (.sleep ⟨w.now + i.config.delaySlice, true⟩) (.delaying 0 total), i, v)
  | _ + 2 => (.finished false, i, v)

/-- There is a schedule that lets a delay of one slice go on: it begins without a pause and is looked at
again when the slice is over. -/
lemma exists_lenient (short : 0 < total) (one : total ≤ i.config.delaySlice)
    (free : w.control.paused = false) (time : w.now + i.config.delaySlice < Clock.limit) :
    ∃ s, s 0 = i.aboutToDelay total w ∧ Lenient s := by
  have begun : i.resume (.delayHeld 0 total) .go w = _ := delay_begins short free time
  obtain ⟨t, v, sleeps, -, due⟩ := Routine.exists_run_to_alarm delays Aside
    ⟨w.now + i.config.delaySlice, false⟩ (.delaying 0 total) i (w := w) (Nat.le_add_right _ _)
  have looked : v.poll (.sleep ⟨w.now + i.config.delaySlice, true⟩) = .over .rang v := by
    simp [World.poll, World.pollAlarm, Alarm.rings, due]
  have last : i.resume (.delaying 0 total) .rang v = .ok (.finished false, i, v) :=
    if_neg (by rw [Nat.zero_add]; exact Nat.not_lt_of_le one)
  have let_on : LetOn (oneSlice i total w v 1) (oneSlice i total w v 2) := by
    refine ⟨_, _, _, _, _, _, _, rfl, looked, ?_, .woken looked last⟩
    rintro ⟨waited, total', held⟩
    cases held
  refine ⟨oneSlice i total w v, rfl, ?_, ?_⟩
  · rintro (_ | _ | n)
    · exact ⟨_, ((Routine.TimedRun.start _).look (.woken rfl begun)).trans sleeps⟩
    · exact ⟨_, (Routine.TimedRun.start _).look (.woken looked last)⟩
    · exact ⟨_, .start _⟩
  · rintro (_ | _ | n) waits
    · exact ⟨1, Nat.zero_le _, let_on⟩
    · exact ⟨1, Nat.le_refl _, let_on⟩
    · cases waits

/-- A delay of 25 milliseconds that is paused in the second of its slices and held for another 15, and
a schedule under which a delay ends. -/
theorem held_delay_takes_three_slices :
    (∃ t b, delays.TimedRun Aside ((fresh {} 0).aboutToDelay 25000 {}) t b ∧
      (fresh {} 0).Account 25000 0 t b ∧ b.1.result? = some false ∧
      (Passage.notes t).length = 3 ∧ Passage.spent Wait.isHold t = 15000 ∧ b.2.2.now = 45000) ∧
    ∃ s, s 0 = (fresh {} 0).aboutToDelay 1 {} ∧ Lenient s ∧ ∃ n, (s n).1 = .finished false := by
  constructor
  · have played : ((delays.playTimed [.look, .look, .tick 10000, .look, .look, .tick 12000,
        .around World.pause, .tick 20000, .look, .look, .tick 35000, .around World.unpause,
        .look, .look, .tick 45000, .look] ((fresh {} 0).aboutToDelay 25000 {})).any fun y =>
          y.2.1.result? == some false && (Passage.notes y.1).length == 3 &&
            Passage.spent Wait.isHold y.1 == 15000 && y.2.2.2.now == 45000) = true := by
      decide +kernel
    obtain ⟨⟨t, b⟩, played, passed⟩ := (Option.any_eq_true _ _).1 played
    simp only [Bool.and_eq_true, beq_iff_eq] at passed
    obtain ⟨⟨⟨ended, slices⟩, held⟩, time⟩ := passed
    have run : delays.TimedRun Aside ((fresh {} 0).aboutToDelay 25000 {}) t b :=
      Routine.timedRun_of_playTimed (fun _ _ _ => rfl) played
    obtain ⟨account, -⟩ := (delay_in_slices (fresh {} 0) 25000 {} (by decide)).1 t b run
    exact ⟨t, b, run, account, ended, slices, held, time⟩
  · obtain ⟨s, begun, lenient⟩ := exists_lenient (i := fresh {} 0) Nat.zero_lt_one (by decide)
      (rfl : ({} : World).control.paused = false) (by decide)
    exact ⟨s, begun, lenient, (delay_in_slices (fresh {} 0) 1 {} (by decide)).2 s begun lenient⟩

/-- A tick that is played is a run in any surroundings. -/
lemma timedRun_of_tick {outside : Interpreter × World → Interpreter × World → Prop} {time : Micros}
    {u : List (Passage Bool)} (h : delays.playTimed [.tick time] a = some (u, b)) :
    delays.TimedRun outside a u b := by
  obtain ⟨_ | _, i, w⟩ := a
  · simp only [Routine.playTimed, Routine.timedMove?, Option.bind_eq_bind] at h
    split at h
    · next lasts =>
      cases h
      exact (Routine.TimedRun.start _).tick (Routine.lasts_of_lasts? lasts)
    · cases h
  · cases h

/-- Not all paused time is added to a delay: a pause from 10 to 40 milliseconds, in the middle of a
slice of 50, does not prolong a delay of 100. -/
theorem short_pause_is_slept : ¬ ∀ (i : Interpreter) (total : Micros) (w : World) t a u b v c,
    0 < i.config.delaySlice → delays.TimedRun Aside (i.aboutToDelay total w) t a →
    a.2.2.control.paused = true → delays.TimedRun Unswitched a u b →
    delays.TimedRun Aside b v c → c.1 = .finished false →
    w.now + total + (b.2.2.now - a.2.2.now) ≤ c.2.2.now := by
  intro all
  let i := fresh { delaySlice := 50000 } 0
  have played : ((delays.playTimed [.look, .look, .tick 10000, .around World.pause]
      (i.aboutToDelay 100000 {})).any fun x => x.2.2.2.control.paused &&
        (delays.playTimed [.tick 40000] x.2).any fun y =>
          (delays.playTimed [.around World.unpause, .tick 50000, .look, .look, .tick 100000, .look]
            y.2).any fun z => z.2.1.result? == some false &&
              decide (z.2.2.2.now < 100000 + (y.2.2.2.now - x.2.2.2.now))) = true := by
    decide +kernel
  obtain ⟨⟨t, a⟩, before, passed⟩ := (Option.any_eq_true _ _).1 played
  obtain ⟨paused, passed⟩ := Bool.and_eq_true_iff.1 passed
  obtain ⟨⟨u, b⟩, meanwhile, passed⟩ := (Option.any_eq_true _ _).1 passed
  obtain ⟨⟨v, c⟩, after, passed⟩ := (Option.any_eq_true _ _).1 passed
  obtain ⟨ended, early⟩ := Bool.and_eq_true_iff.1 passed
  have late := all i 100000 {} t a u b v c (by decide)
    (Routine.timedRun_of_playTimed (fun _ _ _ => rfl) before) paused (timedRun_of_tick meanwhile)
    (Routine.timedRun_of_playTimed (fun _ _ _ => rfl) after)
    (Progress.result?_eq_some_iff.1 (beq_iff_eq.1 ended))
  rw [Nat.zero_add] at late
  exact absurd late (Nat.not_le_of_lt (of_decide_eq_true early))

end Interpreter

end MatchRobot
