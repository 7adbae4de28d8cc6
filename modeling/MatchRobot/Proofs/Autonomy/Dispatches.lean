import Mathlib.Data.List.TakeWhile
import Mathlib.Tactic.ByContra
import MatchRobot.Proofs.Autonomy.Course

/-!
# How often the lines of a script are dispatched

Two tests tell a line that carries no command. The sequencer passes over a line whose first character
that is no delimiter opens a comment, or that has no such character (`Script.isSkippable`). The
interpreter passes over a line whose first character that is not blank opens a comment
(`Interpreter.isComment`). Blanks are more than delimiters, so a comment may be `Script.isMasked` from
the sequencer: it is handed over as a command, and nothing is dispatched for it.

`Pilot.dispatches_of_finished` counts the dispatches of a run: every line that the sequencer hands over is
dispatched once, up to the line that ends the script, masked comments apart.
-/

namespace MatchRobot

namespace Script

/-! ### Lines with a command -/

/-- Whether the sequencer hands a line over to the interpreter. -/
def isCommand (line : String) : Bool :=
  !isSkippable line.toList

/-- Whether a line that the sequencer hands over is a comment to the interpreter. -/
def isMasked (line : String) : Bool :=
  isCommand line && Interpreter.isComment line.toList

/-- A comment is masked by the blanks before it, if one of them is no delimiter. -/
lemma isMasked_iff {line : String} : isMasked line = true ↔
    ∃ blanks text, line.toList = blanks ++ comment :: text ∧
      (∀ c ∈ blanks, Text.isBlank c = true) ∧ ∃ c ∈ blanks, isDelimiter c = false := by
  unfold isMasked isCommand
  rw [Bool.and_eq_true, Bool.not_eq_true']
  constructor
  · rintro ⟨carried, marked⟩
    obtain ⟨text, left⟩ := List.head?_eq_some_iff.1 (beq_iff_eq.1 marked)
    have split : line.toList = line.toList.takeWhile Text.isBlank ++ comment :: text := by
      rw [← left, Text.dropBlanks, List.takeWhile_append_dropWhile]
    refine ⟨_, text, split, fun c hc => List.mem_takeWhile_imp hc, ?_⟩
    by_contra none
    -- Delimiters alone would not have kept the sequencer from seeing the comment.
    have delimiters : ∀ c ∈ line.toList.takeWhile Text.isBlank, isDelimiter c = true := by
      simpa using none
    have seen : skip line.toList = comment :: text := by
      rw [split, skip, List.dropWhile_append_of_pos delimiters]
      rfl
    simp [isSkippable, seen] at carried
  · rintro ⟨blanks, text, split, blank, other⟩
    have marked : Text.dropBlanks line.toList = comment :: text := by
      rw [split, Text.dropBlanks, List.dropWhile_append_of_pos blank]
      rfl
    have stuck : skip blanks ≠ [] := by
      intro all
      obtain ⟨c, hc, hd⟩ := other
      have delimiter := List.dropWhile_eq_nil_iff.1 all c hc
      rw [hd] at delimiter
      cases delimiter
    obtain ⟨c, more, left⟩ := List.exists_cons_of_ne_nil stuck
    have covered : skip line.toList = c :: (more ++ comment :: text) := by
      rw [split, skip, List.dropWhile_append]
      simp only [skip] at left
      simp [left]
    have distinct : c ≠ comment := by
      have kept : c ∈ skip blanks := left ▸ List.mem_cons_self ..
      have blank := blank c ((List.dropWhile_sublist _).mem kept)
      rintro rfl
      exact absurd blank (by decide)
    refine ⟨?_, by simp [Interpreter.isComment, marked]⟩
    simpa [isSkippable, covered] using distinct

/-! ### Counting -/

variable {config : AutoConfig}

/-- A line that does not end the script is dispatched if it carries a command and is not masked. -/
lemma dispatches_of_goes_on {line : String} (h : (share config line).ends = false) :
    (share config line).dispatches + (isMasked line).toNat = (isCommand line).toNat := by
  unfold share reading at h ⊢
  cases carried : isSkippable line.toList <;> cases marked : Interpreter.isComment line.toList <;>
    simp only [carried, marked, isMasked, isCommand, Bool.or_self, Bool.or_true, Bool.or_false,
       if_true, Bool.false_eq_true, if_false] at h ⊢
  · cases found : splitKeyword config.keywordMatch line.toList with
    | error e =>
      rw [found] at h
      cases h
    | ok x => rfl
  all_goals rfl

/-- A line that ends the script has no keyword and is not dispatched, or has the one that ends it. -/
lemma dispatches_of_ends {line : String} (h : (share config line).ends = true) :
    (∃ e, reading config.keywordMatch line.toList = .refused e ∧
        (share config line).dispatches = 0) ∨
      ∃ args, reading config.keywordMatch line.toList = .command .finish args ∧
        (share config line).dispatches = 1 := by
  unfold share at h ⊢
  cases taken : reading config.keywordMatch line.toList with
  | passed =>
    rw [taken] at h
    cases h
  | refused e => exact .inl ⟨e, rfl, rfl⟩
  | command key args =>
    rw [taken] at h
    obtain rfl : key = .finish := beq_iff_eq.1 h
    exact .inr ⟨args, rfl, rfl⟩

/-- A script is over with a line: the line ends it, and none of those before does. -/
structure StopsAt (config : AutoConfig) (lines before : List String) (line : String) : Prop where
  split : ∃ after, lines = before ++ line :: after
  goes_on : ∀ l ∈ before, (share config l).ends = false
  ends : (share config line).ends = true

/-- A script goes through all its lines or is over with one of them, and its dispatches are those of the
lines that it has gone through. -/
lemma course_cases (config : AutoConfig) (lines : List String) :
    ((course config lines).ending = .exhausted ∧
        (course config lines).dispatches + lines.countP isMasked = lines.countP isCommand) ∨
      (course config lines).ending = .terminated ∧ ∃ before line, StopsAt config lines before line ∧
        (course config lines).dispatches + before.countP isMasked =
          before.countP isCommand + (share config line).dispatches := by
  induction lines with
  | nil => exact .inl ⟨rfl, rfl⟩
  | cons head rest ih =>
    unfold course
    cases stop : (share config head).ends with
    | true =>
      rw [Share.before_of_ends stop]
      have stops : StopsAt config (head :: rest) [] head :=
        ⟨⟨rest, rfl⟩, by simp, stop⟩
      exact .inr ⟨rfl, [], head, stops, (Nat.zero_add _).symm⟩
    | false =>
      rw [Share.before_of_goes_on stop]
      have first := dispatches_of_goes_on stop
      have count : ∀ (q : String → Bool) (ls : List String),
          (head :: ls).countP q = ls.countP q + (q head).toNat := by
        intro q ls
        rw [List.countP_cons]
        cases q head <;> rfl
      rcases ih with ⟨ending, dispatches⟩ | ⟨ending, before, line, stops, dispatches⟩
      · refine .inl ⟨ending, ?_⟩
        rw [count, count]
        simp only
        omega
      · obtain ⟨⟨after, rfl⟩, goes_on, ends⟩ := stops
        have later : StopsAt config (head :: (before ++ line :: after)) (head :: before) line :=
          ⟨⟨after, rfl⟩, List.forall_mem_cons.2 ⟨stop, goes_on⟩, ends⟩
        refine .inr ⟨ending, head :: before, line, later, ?_⟩
        rw [count, count]
        simp only
        omega

end Script

/-! ### Script runs -/

namespace Pilot

/-- When a run is over in autonomous, the lines that carry a command have been dispatched once each,
masked comments apart: all lines of the script if it is exhausted, and otherwise those before the line
that ends it, and that line too if it has a keyword. -/
theorem dispatches_of_finished {p : Pilot} {w : World} {first b : Stage Run RunResult Pilot}
    {t : List (Address × Message)} {why : RunEnd} (auto : w.mode.inAuto = true)
    (begun : p.run w = .ok first)
    (run : routine.Run (Around fun m => m.inAuto = true) first t b)
    (ended : b.1 = .finished (.ok why)) :
    (why = .exhausted ∧
        b.2.1.interpreter.dispatched + p.sequencer.script.lines.countP Script.isMasked =
          p.sequencer.script.lines.countP Script.isCommand) ∨
      why = .terminated ∧ ∃ before line,
        Script.StopsAt p.interpreter.config p.sequencer.script.lines before line ∧
        ((∃ e, Script.reading p.interpreter.config.keywordMatch line.toList = .refused e ∧
            b.2.1.interpreter.dispatched + before.countP Script.isMasked =
              before.countP Script.isCommand) ∨
          ∃ args, Script.reading p.interpreter.config.keywordMatch line.toList =
              .command .finish args ∧
            b.2.1.interpreter.dispatched + before.countP Script.isMasked =
              before.countP Script.isCommand + 1) := by
  have course := course_of_finished rfl auto begun run ended
  rcases Script.course_cases p.interpreter.config p.sequencer.script.lines with
    ⟨ending, dispatches⟩ | ⟨ending, before, line, stops, dispatches⟩
  · rw [course] at ending dispatches
    exact .inl ⟨ending, dispatches⟩
  · rw [course] at ending dispatches
    refine .inr ⟨ending, before, line, stops, ?_⟩
    rcases Script.dispatches_of_ends stops.ends with ⟨e, taken, once⟩ | ⟨args, taken, once⟩
    · rw [once] at dispatches
      exact .inl ⟨e, taken, dispatches⟩
    · rw [once] at dispatches
      exact .inr ⟨args, taken, dispatches⟩

/-- A script of a masked comment and a command. -/
def masked : Pilot :=
  loaded ["\u00a0# warm up", "NOP"]

/-- It runs to its end at once, with one line dispatched. -/
lemma exists_masked_run : ∃ first, masked.run { mode := .autonomous } = .ok first ∧
    first.1 = .finished (.ok .exhausted) ∧ first.2.1.interpreter.dispatched = 1 :=
  ⟨_, rfl, rfl, rfl⟩

theorem dispatches_of_masked : ∃ first, masked.run { mode := .autonomous } = .ok first ∧
    routine.Run (Around fun m => m.inAuto = true) first [] first ∧
    first.1 = .finished (.ok .exhausted) ∧
    first.2.1.interpreter.dispatched + masked.sequencer.script.lines.countP Script.isMasked =
      masked.sequencer.script.lines.countP Script.isCommand := by
  obtain ⟨first, begun, ended, -⟩ := exists_masked_run
  refine ⟨first, begun, .start first, ended, ?_⟩
  rcases dispatches_of_finished rfl begun (.start first) ended with ⟨-, sum⟩ | ⟨other, -⟩
  · exact sum
  · cases other

/-- A masked comment is handed over and never dispatched, so a script with one has fewer dispatches
than lines that carry a command. -/
theorem masked_is_not_dispatched : ¬ ∀ (p : Pilot) (w : World) first t b,
    w.mode.inAuto = true → p.run w = .ok first →
    routine.Run (Around fun m => m.inAuto = true) first t b →
    b.1 = .finished (.ok .exhausted) →
    b.2.1.interpreter.dispatched = p.sequencer.script.lines.countP Script.isCommand := by
  intro claim
  obtain ⟨first, begun, ended, count⟩ := exists_masked_run
  have handed := claim masked _ first [] first rfl begun (.start first) ended
  rw [count] at handed
  exact absurd handed (by decide +kernel)

end Pilot

end MatchRobot
