import MatchRobot.Proofs.Autonomy.Evaluation

/-!
# Leaving autonomous

A script run looks at the mode flag between two lines only. A line that is under way when the robot
leaves autonomous is carried on to its end, even if a pause has held it since before it did anything;
no other line is begun, and the run ends where the line does.

`Pilot.line_is_last_out_of_auto` says so of every stretch of a run in which the flag stays away from
autonomous. `Pilot.line_runs_out_of_auto` shows that the line under way may indeed still be dispatched
there and post its message, and that the run goes on as if nothing had happened once the flag is back
before the line ends.
-/

namespace MatchRobot

namespace Pilot

variable {p : Pilot} {w : World} {stage : Stage Run RunResult Pilot}

/-! ### Between two lines -/

/-- How a run ends between two lines when the flag is out of autonomous there. -/
def stopBefore : List (Nat × String) → RunEnd
  | [] => .exhausted
  | _ :: _ => .leftAuto

/-- Out of autonomous, no line is begun. -/
lemma advance_of_out (p : Pilot) (lines : List (Nat × String)) (out : w.mode.inAuto = false) :
    ∃ u, u.mode = w.mode ∧ p.advance w lines = .ok (p.finish (stopBefore lines) u) := by
  cases lines with
  | nil => exact ⟨w, rfl, rfl⟩
  | cons head rest =>
    refine ⟨w.notice (.leftAuto head.1), rfl, ?_⟩
    simp [advance, out, stopBefore]

/-! ### A line under way -/

/-- What has become of a run in which no line was begun: it is still in the line that it was in, or
it ended there, because the line asked for it or because the run stops before the next one. -/
inductive SameLine : Progress Run RunResult → Progress Run RunResult → Prop
  | within {wait wait' : Wait} {r r' : Run} (rest : r'.rest = r.rest) :
      SameLine (.waiting wait r) (.waiting wait' r')
  | ended {wait : Wait} {r : Run} {why : RunEnd}
      (cause : why = .terminated ∨ why = stopBefore r.rest) :
      SameLine (.waiting wait r) (.finished (.ok why))
  | finished {result : RunResult} : SameLine (.finished result) (.finished result)

lemma SameLine.refl (progress : Progress Run RunResult) : SameLine progress progress := by
  cases progress with
  | waiting wait r => exact .within rfl
  | finished result => exact .finished

lemma SameLine.trans {a b c : Progress Run RunResult} (h : SameLine a b) (k : SameLine b c) :
    SameLine a c := by
  cases h with
  | within rest =>
    cases k with
    | within rest' => exact .within (rest'.trans rest)
    | ended cause => exact .ended (rest ▸ cause)
  | ended cause => cases k; exact .ended cause
  | finished => exact k

/-- Going on with a run out of autonomous carries the line under way on, and begins no other. -/
lemma resume_of_out {r : Run} {wait : Wait} {wake : Wake} (fit : r.line.Fits wait)
    (out : w.mode.inAuto = false) (done : p.resume r wake w = .ok stage) :
    stage.2.2.mode = w.mode ∧ SameLine (.waiting wait r) stage.1 ∧
      stage.2.1.interpreter.dispatched + stage.1.left (fun r => r.line.toDispatch) =
        p.interpreter.dispatched + r.line.toDispatch ∧
      stage.1.left (fun r => r.line.toPost) ≤ r.line.toPost - (wait.posted wake).length := by
  obtain ⟨⟨progress, i, u⟩, resumed, done⟩ := bind_eq_ok.1 done
  have advanced := Interpreter.advances_resume fit resumed
  have still : u.mode = w.mode := advanced.kept.mode
  cases progress with
  | waiting wait' e =>
    cases done
    exact ⟨still, .within rfl, advanced.dispatched, advanced.posts⟩
  | finished stop =>
    cases stop with
    | true =>
      cases done
      exact ⟨still, .ended (.inl rfl), advanced.dispatched, advanced.posts⟩
    | false =>
      obtain ⟨u', hu', stopped⟩ :=
        advance_of_out { p with interpreter := i } r.rest (by rw [still]; exact out)
      cases stopped.symm.trans done
      exact ⟨hu'.trans still, .ended (.inr rfl), advanced.dispatched, advanced.posts⟩

/-! ### Runs of a script -/

/-- A script run as a routine; noted are the messages that it posts. -/
def routine : Routine Run RunResult Pilot (Address × Message) where
  resume r wake p w := p.resume r wake w
  notes wait _ wake _ _ := wait.posted wake

/-- What the surroundings of a script run may do: whatever they like to the world, as long as the
mode flag ends up where it is allowed to be. -/
def Around (allowed : Mode → Prop) (a b : Pilot × World) : Prop :=
  b.1 = a.1 ∧ allowed b.2.mode

/-- All through a run, the place in the line fits what the run waits for. -/
lemma fits_of_run {allowed : Mode → Prop} {a b : Stage Run RunResult Pilot}
    {t : List (Address × Message)} (run : routine.Run (Around allowed) a t b)
    (begun : ∀ wait r, a.1 = .waiting wait r → r.line.Fits wait) :
    ∀ wait r, b.1 = .waiting wait r → r.line.Fits wait := by
  refine run.fitting Evaluation.Fits.rearmed (fun fit worked => ?_) begun
  exact (keeps_resume _ fit _ _ _ worked).2

/-- What a stretch of a run out of autonomous has led to: the line under way is the same, or the run
is over, and the dispatches and posts are those that the line had still to do. -/
structure Lingers (a b : Stage Run RunResult Pilot) (posted : List (Address × Message)) : Prop where
  out : b.2.2.mode.inAuto = false
  line : SameLine a.1 b.1
  dispatched : b.2.1.interpreter.dispatched + b.1.left (fun r => r.line.toDispatch) =
    a.2.1.interpreter.dispatched + a.1.left (fun r => r.line.toDispatch)
  posts : posted.length + b.1.left (fun r => r.line.toPost) ≤ a.1.left (fun r => r.line.toPost)

lemma lingers_of_run {a b : Stage Run RunResult Pilot} {t : List (Address × Message)}
    (fits : ∀ wait r, a.1 = .waiting wait r → r.line.Fits wait) (out : a.2.2.mode.inAuto = false)
    (run : routine.Run (Around fun m => m.inAuto = false) a t b) : Lingers a b t := by
  induction run with
  | start => exact ⟨out, .refl _, rfl, by simp⟩
  | look run step ih =>
    have fit := fits_of_run run fits
    cases step with
    | pending looked =>
      have kept := (World.rearmed_of_poll looked).2
      refine ⟨by rw [kept.mode]; exact ih.out, ih.line.trans (.within rfl), ih.dispatched, ?_⟩
      rw [List.append_nil]
      exact ih.posts
    | @woken wait wake r s v u stage looked worked =>
      have woken : u.mode.inAuto = false := by
        rw [(World.ended_of_poll looked).mode]
        exact ih.out
      obtain ⟨mode, line, dispatched, posts⟩ := resume_of_out (fit _ _ rfl) woken worked
      refine ⟨by rw [mode]; exact woken, ih.line.trans line, dispatched.trans ih.dispatched, ?_⟩
      have now := (fit _ _ rfl).posted_le_toPost wake
      have before := ih.posts
      rw [List.length_append]
      change _ + (wait.posted wake).length + _ ≤ _
      change _ + r.line.toPost ≤ _ at before
      omega
  | around run change ih => exact ⟨change.2, ih.line, by rw [change.1]; exact ih.dispatched, ih.posts⟩

/-! ### The last line -/

/-- From any moment at which the flag is out of autonomous, for as long as it stays there, no line is
begun: the one under way is dispatched at most once more, if a pause held it before it did anything,
it posts one message at most, and the run ends where it does. -/
theorem line_is_last_out_of_auto {first a b : Stage Run RunResult Pilot}
    {t l : List (Address × Message)} (begun : p.run w = .ok first)
    (before : routine.Run (Around fun _ => True) first t a) (left : a.2.2.mode.inAuto = false)
    (after : routine.Run (Around fun m => m.inAuto = false) a l b) :
    Lingers a b l ∧ b.2.1.interpreter.dispatched ≤ a.2.1.interpreter.dispatched + 1 ∧
      l.length ≤ 1 := by
  have fits := fits_of_run before (keeps_run p w _ _ _ begun).2
  have lingers := lingers_of_run fits left after
  refine ⟨lingers, ?_, ?_⟩
  · have dispatched := lingers.dispatched
    have once := a.1.left_le_one fun r => r.line.toDispatch_le_one
    omega
  · have posts := lingers.posts
    have once := a.1.left_le_one fun r => r.line.toPost_le_one
    omega

/-! ### Two runs that are held -/

/-- A pilot that has just loaded a script. -/
def loaded (lines : List String) : Pilot :=
  { fresh {} 0 with sequencer := { script := ⟨lines⟩, phase := .loading } }

/-- The robot is in autonomous, and a pause is on. -/
def pausedInAuto : World :=
  { mode := .autonomous, control := { paused := true } }

/-- The flag moves to a mode. -/
def flag (m : Mode) : Routine.Move Pilot :=
  .around fun x => (x.1, { x.2 with mode := m })

/-- The operator lets the script go on, out of autonomous. -/
def goOn : Routine.Move Pilot :=
  .around fun x => (x.1, { x.2.unpause with mode := .teleoperated })

/-- Plays a script that a pause holds until the robot leaves autonomous, and looks at how it goes on
from there. -/
def heldUntilTeleop (lines : List String) (later : List (Routine.Move Pilot))
    (good : Stage Run RunResult Pilot → List (Address × Message) → Stage Run RunResult Pilot → Bool) :
    Bool :=
  ((loaded lines).run pausedInAuto).toOption.any fun first =>
    (routine.play [.look, flag .teleoperated] first).any fun y =>
      !y.2.2.2.mode.inAuto && (routine.play later y.2).any fun z => good y.2 z.1 z.2

lemma exists_of_heldUntilTeleop {lines : List String} {later : List (Routine.Move Pilot)}
    {good : Stage Run RunResult Pilot → List (Address × Message) → Stage Run RunResult Pilot → Bool}
    {allowed : Mode → Prop} (h : heldUntilTeleop lines later good = true)
    (bounds : ∀ change, .around change ∈ later → ∀ x, Around allowed x (change x)) :
    ∃ first t a l b, (loaded lines).run pausedInAuto = .ok first ∧
      routine.Run (Around fun _ => True) first t a ∧ a.2.2.mode.inAuto = false ∧
      routine.Run (Around allowed) a l b ∧ good a l b = true := by
  have anywhere : ∀ change, .around change ∈ [.look, flag .teleoperated] →
      ∀ x, Around (fun _ => True) x (change x) := by
    simp [flag, Around]
  obtain ⟨first, t, a, begun, before, h⟩ := Routine.exists_run_of_begun _ h anywhere
  rw [Bool.and_eq_true, Bool.not_eq_true'] at h
  obtain ⟨l, b, after, passed⟩ := Routine.exists_run_of_play h.2 bounds
  exact ⟨first, t, a, l, b, begun, before, h.1, after, passed⟩

/-- The line that the pause held is dispatched out of autonomous, and posts its message. -/
lemma exists_held : ∃ first t a l b, (loaded ["RGEAR"]).run pausedInAuto = .ok first ∧
    routine.Run (Around fun _ => True) first t a ∧ a.2.2.mode.inAuto = false ∧
    routine.Run (Around fun m => m.inAuto = false) a l b ∧
    (a.2.1.interpreter.dispatched == 0 && b.2.1.interpreter.dispatched == 1 && l.length == 1)
      = true := by
  have played : heldUntilTeleop ["RGEAR"] [goOn, .look, .look] (fun a l b =>
      a.2.1.interpreter.dispatched == 0 && b.2.1.interpreter.dispatched == 1 && l.length == 1)
      = true := by
    decide +kernel
  exact exists_of_heldUntilTeleop played (by simp [goOn, Around, Mode.inAuto])

theorem line_is_last_of_held : ∃ first t a l b, (loaded ["RGEAR"]).run pausedInAuto = .ok first ∧
    routine.Run (Around fun _ => True) first t a ∧ a.2.2.mode.inAuto = false ∧
    routine.Run (Around fun m => m.inAuto = false) a l b ∧ Lingers a b l ∧ l.length = 1 := by
  obtain ⟨first, t, a, l, b, begun, before, left, after, passed⟩ := exists_held
  simp only [Bool.and_eq_true, beq_iff_eq] at passed
  exact ⟨first, t, a, l, b, begun, before, left, after,
    (line_is_last_out_of_auto begun before left after).1, passed.2⟩

/-- A run that has been out of autonomous may still dispatch a line there and post its message, and
once the flag is back before the line under way ends, it begins others. -/
theorem line_runs_out_of_auto :
    (¬ ∀ (p : Pilot) (w : World) first t a l b, p.run w = .ok first →
      routine.Run (Around fun _ => True) first t a → a.2.2.mode.inAuto = false →
      routine.Run (Around fun m => m.inAuto = false) a l b →
      b.2.1.interpreter.dispatched = a.2.1.interpreter.dispatched ∧ l = []) ∧
    (¬ ∀ (p : Pilot) (w : World) first t a l b, p.run w = .ok first →
      routine.Run (Around fun _ => True) first t a → a.2.2.mode.inAuto = false →
      routine.Run (Around fun _ => True) a l b → SameLine a.1 b.1) := by
  constructor
  · intro claim
    obtain ⟨first, t, a, l, b, begun, before, left, after, passed⟩ := exists_held
    obtain ⟨-, rfl⟩ := claim _ _ first t a l b begun before left after
    simp at passed
  · intro claim
    have played : heldUntilTeleop ["NOP", "RGEAR"] [goOn, flag .autonomous, .look] (fun a _ b =>
        match a.1, b.1 with
        | .waiting _ r, .waiting _ r' => r.rest.length != r'.rest.length
        | _, _ => false) = true := by
      decide +kernel
    have anywhere : ∀ change, .around change ∈ [goOn, flag .autonomous, .look] →
        ∀ x, Around (fun _ => True) x (change x) := by
      simp [goOn, flag, Around]
    obtain ⟨first, t, a, l, b, begun, before, left, after, passed⟩ :=
      exists_of_heldUntilTeleop played anywhere
    have same := claim _ _ first t a l b begun before left after
    cases ha : a.1 with
    | finished result => rw [ha] at passed; cases passed
    | waiting wait r =>
      cases hb : b.1 with
      | finished result => rw [ha, hb] at passed; cases passed
      | waiting wait' r' =>
        rw [ha, hb] at same passed
        cases same with
        | within rest => simp [rest] at passed

end Pilot

end MatchRobot
