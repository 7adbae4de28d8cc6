import MatchRobot.Proofs.Autonomy.Lines
import MatchRobot.Proofs.Number.Limits
import MatchRobot.Proofs.Script.Grammar

/-!
# Raw wheel speeds

A raw move asks for wheel speeds between -1 and 1, and the parser turns away what is beyond them. It does
so by a test that asks whether a speed is too large, which is not the same as a test whether it is
within the limits: `NaN` compares with nothing and passes. `Interpreter.raw_speeds_within` says that
nothing else does, neither in a statement nor in a message, and `Statement.nan_is_raw_speed` is the script
line that it lets through.
-/

namespace MatchRobot

/-- A wheel speed that a script may ask for. -/
def IsRawSpeed (x : Float32) : Prop :=
  -1 ≤ x ∧ x ≤ 1

/-- What passes the test of the parser is a speed, unless it is no number. -/
lemma isRawSpeed_iff {x : Float32} (slow : ¬ 1 < x.abs) : IsRawSpeed x ↔ x.isNaN = false :=
  Single.within_iff (by decide) slow

namespace Statement

variable {how : KeywordMatch} {line : List Char} {left right : Float32}

/-- The parser turns away a raw move with a speed that is too large. -/
lemma slow_of_ofLine (parsed : ofLine how line = .ok (.move left right)) :
    ∀ x ∈ [left, right], ¬ 1 < x.abs := by
  obtain ⟨key, xs, ⟨k, ts, extra, -, -, -, -, slow⟩, carries⟩ := accepts_of_ofLine parsed
  cases carries
  exact slow rfl

end Statement

namespace Interpreter

variable {i : Interpreter} {config : AutoConfig} {line : String} {w : World}
  {first b : Stage Evaluation Bool Interpreter} {t : List (Address × Message)}

/-- What a line posts is posted by the statement that it is read as. -/
lemma exists_statement {how : KeywordMatch} {cs : List Char} {r : Reading} {o : Outline}
    (taken : Takes how cs r) (posts : o ∈ (r.share config).posts) :
    ∃ s, Statement.ofLine how cs = .ok s ∧ o ∈ s.outlines config := by
  cases taken with
  | passed | refused => cases posts
  | @command key args found =>
    simp only [Reading.share] at posts
    split at posts
    · next s parsed => exact ⟨s, bind_eq_ok.2 ⟨(key, args), found, parsed⟩, posts⟩
    · cases posts

/-- Everything that is posted while a line is worked on is posted by its statement. -/
lemma stated_of_run (begun : i.evaluate line w = .ok first) (run : routine.Run Aside first t b)
    {m : Address × Message} (posted : m ∈ t) :
    ∃ s, Statement.ofLine i.config.keywordMatch line.toList = .ok s ∧
      Outline.of m ∈ s.outlines i.config := by
  obtain ⟨r, taken, follows, -, fits⟩ := takes_of_evaluate begun
  obtain ⟨os, whole, -⟩ := follows_of_run ⟨follows, rfl, fits⟩ run
  refine exists_statement taken ?_
  rw [← whole]
  exact List.mem_append_left _ (List.mem_map_of_mem posted)

/-- The speeds of a raw move that is posted pass the test too, the left one turned about. -/
lemma slow_of_run (begun : i.evaluate line w = .ok first) (run : routine.Run Aside first t b)
    {m : Address × Message} {left right : Float32} (posted : m ∈ t)
    (moves : m.2.command = .drive (.autoMove left right)) : ∀ x ∈ [left, right], ¬ 1 < x.abs := by
  obtain ⟨s, parsed, posts⟩ := stated_of_run begun run posted
  rw [Outline.of, moves] at posts
  cases s with
  | move left' right' =>
    obtain ⟨-, same, -⟩ := Outline.mk.inj (List.mem_singleton.1 posts)
    cases same
    have slow := Statement.slow_of_ofLine parsed
    intro x hx
    rcases List.mem_pair.1 hx with rfl | rfl
    · rw [Single.abs_neg_eq]
      exact slow left' (List.mem_cons_self ..)
    · exact slow x (by simp)
  | _ => simp [Statement.outlines] at posts

/-- The raw speeds of the statement that a line is read as, and those of a message that is posted while
the line is worked on, are between -1 and 1, unless they are no numbers. -/
theorem raw_speeds_within (how : KeywordMatch) (line : String) :
    (∀ {left right}, Statement.ofLine how line.toList = .ok (.move left right) →
      ∀ x ∈ [left, right], IsRawSpeed x ↔ x.isNaN = false) ∧
    ∀ {i : Interpreter} {w first t b}, i.config.keywordMatch = how → i.evaluate line w = .ok first →
      routine.Run Aside first t b → ∀ {m left right}, m ∈ t →
      m.2.command = .drive (.autoMove left right) →
      ∀ x ∈ [left, right], IsRawSpeed x ↔ x.isNaN = false := by
  constructor
  · intro left right parsed x hx
    exact isRawSpeed_iff (Statement.slow_of_ofLine parsed x hx)
  · intro i w first t b _ begun run m left right posted moves x hx
    exact isRawSpeed_iff (slow_of_run begun run posted moves x hx)

/-- The speeds of a message, if it asks for a raw move. -/
def rawSpeeds? (m : Address × Message) : Option (Float32 × Float32) :=
  match m.2.command with
  | .drive (.autoMove left right) => some (left, right)
  | _ => none

lemma command_of_rawSpeeds {m : Address × Message} {left right : Float32}
    (h : rawSpeeds? m = some (left, right)) : m.2.command = .drive (.autoMove left right) := by
  unfold rawSpeeds? at h
  split at h
  · next left' right' command =>
    cases h
    exact command
  · cases h

/-- A raw move is posted, and its speeds are numbers. -/
def postsNumbers (t : List (Address × Message)) : Bool :=
  t.any fun m => (rawSpeeds? m).any fun (left, right) => !left.isNaN && !right.isNaN

/-- A line that asks for speeds within the limits posts them. -/
theorem raw_move_within : ∃ first t b m left right,
    (fresh {} 0).evaluate "MOVE 0.5 -1" {} = .ok first ∧ routine.Run Aside first t b ∧ m ∈ t ∧
    m.2.command = .drive (.autoMove left right) ∧ IsRawSpeed left ∧ IsRawSpeed right := by
  have played : (((fresh {} 0).evaluate "MOVE 0.5 -1" {}).toOption.any fun first =>
      (routine.play [.look] first).any fun y => postsNumbers y.1) = true := by
    decide +kernel
  obtain ⟨first, t, b, begun, run, passed⟩ :=
    Routine.exists_run_of_begun Aside played (by simp)
  obtain ⟨m, posted, numbers⟩ := List.any_eq_true.1 passed
  obtain ⟨⟨left, right⟩, speeds, numbers⟩ := (Option.any_eq_true _ _).1 numbers
  simp only [Bool.and_eq_true, Bool.not_eq_true'] at numbers
  have moves := command_of_rawSpeeds speeds
  have within := (raw_speeds_within .exact "MOVE 0.5 -1").2 rfl begun run posted moves
  exact ⟨first, t, b, m, left, right, begun, run, posted, moves,
    (within left (by simp)).2 numbers.1, (within right (by simp)).2 numbers.2⟩

end Interpreter

/-! ### What passes the test -/

namespace Statement

/-- The left speed of a line that is read as a raw move. -/
def leftSpeed? (line : List Char) : Option Float32 :=
  match ofLine .exact line with
  | .ok (.move left _) => some left
  | _ => none

/-- The word for what is no number is read as a number, and passes the test of the parser. -/
lemma exists_nan_speed : ∃ left right, ofLine .exact "MOVE nan 0".toList = .ok (.move left right) ∧
    left.isNaN = true := by
  have read : (leftSpeed? "MOVE nan 0".toList).any Float32.isNaN = true := by
    decide +kernel
  obtain ⟨left, speed, nan⟩ := (Option.any_eq_true _ _).1 read
  unfold leftSpeed? at speed
  split at speed
  · next left' right parsed =>
    cases speed
    exact ⟨left, right, parsed, nan⟩
  · cases speed

/-- So not every raw move keeps to the limits. -/
theorem nan_is_raw_speed : ¬ ∀ how line left right, ofLine how line = .ok (.move left right) →
    IsRawSpeed left ∧ IsRawSpeed right := by
  intro claim
  obtain ⟨left, right, parsed, nan⟩ := exists_nan_speed
  have number := Single.isNaN_of_le (claim _ _ left right parsed).1.2
  rw [nan] at number
  cases number

end Statement

end MatchRobot
