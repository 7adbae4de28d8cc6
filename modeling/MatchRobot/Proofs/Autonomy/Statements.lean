import MatchRobot.Proofs.Autonomy.Course
import MatchRobot.Proofs.Subsystem.Modest

/-!
# What a script can post

A script run waits to post nothing but what a statement posts. This is a bound on the autonomous task
too, whatever the script says, whether the robot is in autonomous and however the run is held up
(`Autonomous.modest_stated`).
-/

namespace MatchRobot

/-- Some statement posts this. -/
def Outline.Stated (o : Outline) : Prop :=
  ∃ config s, o ∈ Statement.outlines config s

/-- The line waits for what fits its place, and if that is to post a message, for one that some statement
posts. -/
structure Evaluation.Stated (e : Evaluation) (wait : Wait) : Prop where
  fits : e.Fits wait
  posts : ∀ a m, wait = .send a m → (Outline.of (a, m)).Stated

/-- What a line posts is posted by its statement. -/
lemma Reading.stated_of_share {config : AutoConfig} {r : Reading} {o : Outline}
    (h : o ∈ (r.share config).posts) : o.Stated := by
  cases r with
  | passed | refused e => cases h
  | command key args =>
    simp only [share] at h
    split at h
    · next s _ => exact ⟨config, s, h⟩
    · cases h

/-- Whether its alarm is armed makes no difference to what a line waits for. -/
lemma Evaluation.Stated.rearmed {e : Evaluation} {wait wait' : Wait} (h : e.Stated wait)
    (r : wait.Rearmed wait') : e.Stated wait' := by
  refine ⟨h.fits.rearmed r, fun a m hm => h.posts a m ?_⟩
  cases r <;> first | exact hm | cases hm

namespace Interpreter

variable {config : AutoConfig} {os : List Outline} {ends : Bool}
  {stage : Stage Evaluation Bool Interpreter}

/-- Work that keeps to what statements post waits for nothing else. -/
lemma stated_of_follows (follows : Follows config os ends stage) (stated : ∀ o ∈ os, o.Stated)
    {wait : Wait} {e : Evaluation} (waits : stage.1 = .waiting wait e) (fit : e.Fits wait) :
    e.Stated wait := by
  refine ⟨fit, ?_⟩
  rintro a m rfl
  refine stated _ ?_
  rw [← (follows.waiting _ e waits).1]
  exact List.mem_cons_self ..

end Interpreter

namespace Pilot

variable {v w : World}

/-- Walking from line to line, a run stops at what statements post. -/
lemma stated_advance (p : Pilot) (lines : List (Nat × String))
    (h : World.Kept (some .autoParser) v w) :
    Keeps (fun r : Run => r.line.Stated) (some .autoParser) v (p.advance w lines) := by
  induction lines generalizing p w with
  | nil => exact keeps_finished (World.kept_notice _ h)
  | cons head rest ih =>
    obtain ⟨n, line⟩ := head
    unfold advance
    split
    · exact keeps_finished (World.kept_notice _ (World.kept_notice _ h))
    · split
      · exact ih p h
      · next carried =>
        refine keeps_bind fun b evaluated => ?_
        obtain ⟨d, -, -, advanced⟩ := Interpreter.advances_evaluate h evaluated
        obtain ⟨follows, -⟩ := Interpreter.follows_evaluate (by simpa using carried) evaluated
        obtain ⟨progress, i, u⟩ := b
        cases progress with
        | waiting wait e =>
          have stated := Interpreter.stated_of_follows follows (fun o => Reading.stated_of_share) rfl
            (advanced.fits wait e rfl)
          exact keeps_waiting advanced.kept stated
        | finished stop =>
          cases stop with
          | true => exact keeps_finished (World.kept_notice _ advanced.kept)
          | false => exact ih _ advanced.kept

lemma stated_run (p : Pilot) (w : World) :
    Keeps (fun r : Run => r.line.Stated) (some .autoParser) w (p.run w) := by
  unfold run
  split
  · exact stated_advance _ _ (.refl w)
  · exact keeps_finished (.refl w)

lemma stated_resume (p : Pilot) {r : Run} {wait : Wait} {wake : Wake} (fit : r.line.Fits wait) :
    Keeps (fun r : Run => r.line.Stated) (some .autoParser) w (p.resume r wake w) := by
  refine keeps_bind fun b resumed => ?_
  have advanced := Interpreter.advances_resume fit resumed
  have follows := Interpreter.follows_resume fit resumed
  obtain ⟨progress, i, u⟩ := b
  cases progress with
  | waiting wait' e =>
    have later : ∀ o ∈ r.line.later p.interpreter.config, o.Stated := by
      intro o ho
      cases line : r.line with
      | held key args text =>
        rw [line] at ho
        exact Reading.stated_of_share ho
      | _ =>
        rw [line] at ho
        cases ho
    exact keeps_waiting advanced.kept
      (Interpreter.stated_of_follows follows later rfl (advanced.fits wait' e rfl))
  | finished stop =>
    cases stop with
    | true => exact keeps_finished (World.kept_notice _ advanced.kept)
    | false => exact stated_advance _ _ advanced.kept

end Pilot

namespace Autonomous

/-- The autonomous task waits to post nothing but what statements post. -/
lemma modest_stated : Subsystem.Modest Autonomous (fun r : Run => r.line.Stated) (some .autoParser)
    fun _ => False where
  elsewhere := nofun
  rearmed := Evaluation.Stated.rearmed
  mild h := h.fits.mild
  reads h same := nomatch Evaluation.Fits.reads h.fits same
  enter := keeps_enter Pilot.stated_run
  check _ w := World.kept_tell _ (.refl w)
  handle := keeps_handle Pilot.stated_run
  resume _ a _ h _ := keeps_resume a (Pilot.stated_resume a.pilot h.fits)
  sweep _ _ _ _ h := h.elim

end Autonomous

end MatchRobot
