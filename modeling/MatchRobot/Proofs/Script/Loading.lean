import Mathlib
import MatchRobot.Script.Storage

/-!
# Which texts become scripts

A script holds a bounded number of lines, each with a bounded number of bytes. Loading a text pushes its
lines one after the other, and the first that is refused decides what becomes of the text. Two bounds meet
here: the line after the last that fits is refused for want of room, unless it is too long as well, which
is noticed first. `StoredScript.parse_of_text` says which texts are loaded, that nothing of them is lost or
cut, and which line and which bound the error is about if there is one.

A line that is refused leaves the script as it was, so lines that are pushed whether or not the ones before
them were refused end up in the script in order, as far as they fit (`StoredScript.lines_addAll`).
-/

namespace MatchRobot

namespace StoredScript

open Settings (lineCapacity scriptCapacity)

/-! ## One line -/

/-- A line with more bytes than a script takes. -/
def TooLong (line : String) : Prop :=
  lineCapacity < line.utf8ByteSize

instance (line : String) : Decidable (TooLong line) :=
  inferInstanceAs (Decidable (_ < _))

/-- What is said about a line that is refused by a script of some length. -/
def refusal (count : Nat) (line : String) : ScriptError :=
  if TooLong line then .lineTooLong (count + 1) else .tooManyLines scriptCapacity

variable {s : StoredScript} {line : String}

/-- A line is added if it is short enough and there is room for it; otherwise nothing happens. -/
lemma run_add (s : StoredScript) (line : String) :
    (add line).run s =
      if ¬ TooLong line ∧ s.length < scriptCapacity then (.ok (), ⟨s.lines ++ [line]⟩)
      else (.error (refusal s.length line), s) := by
  have known : (add line).run s =
      ((if TooLong line then pure (.error (.lineTooLong (s.length + 1)))
        else if scriptCapacity ≤ s.length then pure (.error (.tooManyLines scriptCapacity))
        else do
          set (StoredScript.mk (s.lines ++ [line]))
          return .ok ()) : StateM StoredScript (Except ScriptError Unit)).run s := rfl
  rw [known, refusal]
  by_cases long : TooLong line
  · rw [if_pos long, if_pos long, if_neg fun fits => fits.1 long]
    rfl
  · rw [if_neg long, if_neg long]
    by_cases full : scriptCapacity ≤ s.length
    · rw [if_pos full, if_neg fun fits => Nat.not_le_of_lt fits.2 full]
      rfl
    · rw [if_neg full, if_pos ⟨long, Nat.lt_of_not_le full⟩]
      rfl

lemma push_of_fits (short : ¬ TooLong line) (room : s.length < scriptCapacity) :
    s.push line = .ok ⟨s.lines ++ [line]⟩ := by
  simp only [push, run_add, if_pos (And.intro short room)]
  rfl

lemma push_of_refused (refused : TooLong line ∨ scriptCapacity ≤ s.length) :
    s.push line = .error (refusal s.length line) := by
  have unfit : ¬ (¬ TooLong line ∧ s.length < scriptCapacity) := by
    rintro ⟨short, room⟩
    exact refused.elim short (Nat.not_le_of_lt room)
  simp only [push, run_add, if_neg unfit]
  rfl

/-! ## All lines of a text -/

/-- The lines of a text, as strings. -/
def linesOf (content : String) : List String :=
  (Text.lines content.toList).map String.ofList

/-- Lines that a script has room for. -/
def Fits (lines : List String) : Prop :=
  lines.length ≤ scriptCapacity ∧ ∀ line ∈ lines, ¬ TooLong line

instance (lines : List String) : Decidable (Fits lines) :=
  inferInstanceAs (Decidable (_ ∧ _))

/-- Pushing lines that fit behind those that are there loses none of them. -/
lemma pushAll_of_fits {lines : List String} (room : s.length + lines.length ≤ scriptCapacity)
    (short : ∀ line ∈ lines, ¬ TooLong line) : s.pushAll lines = .ok ⟨s.lines ++ lines⟩ := by
  induction lines generalizing s with
  | nil => rw [List.append_nil]; rfl
  | cons line more ih =>
    rw [List.length_cons] at room
    have pushed := push_of_fits (short line List.mem_cons_self) (s := s) (by omega)
    have length : StoredScript.length ⟨s.lines ++ [line]⟩ = s.length + 1 := List.length_append
    rw [pushAll, pushed]
    refine (ih (by rw [length]; omega) fun l among => short l (List.mem_cons_of_mem line among)).trans ?_
    rw [List.append_assoc]
    rfl

/-- A line that is the first to be too long or beyond the room is the one that lines are refused for. -/
lemma pushAll_of_refused {lines : List String} {i : Nat} (inside : i < lines.length)
    (room : s.length + i ≤ scriptCapacity)
    (refused : TooLong lines[i] ∨ s.length + i = scriptCapacity)
    (first : ∀ j (earlier : j < i), ¬ TooLong lines[j]) :
    s.pushAll lines = .error (refusal (s.length + i) lines[i]) := by
  induction lines generalizing s i with
  | nil => cases inside
  | cons line more ih =>
    cases i with
    | zero =>
      have pushed : s.push line = .error (refusal s.length line) :=
        push_of_refused (refused.imp_right fun full => full.ge)
      rw [pushAll, pushed]
      rfl
    | succ i =>
      have pushed : s.push line = .ok ⟨s.lines ++ [line]⟩ :=
        push_of_fits (first 0 (Nat.succ_pos i)) (by omega)
      have length : StoredScript.length ⟨s.lines ++ [line]⟩ = s.length + 1 := List.length_append
      have next : s.length + (i + 1) = s.length + 1 + i := by omega
      rw [next, ← length] at room refused ⊢
      rw [pushAll, pushed]
      exact ih (Nat.lt_of_succ_lt_succ inside) room refused
        fun j earlier => first (j + 1) (Nat.succ_lt_succ earlier)

/-- Lines that do not fit have a first one that is too long or beyond the room. -/
lemma exists_first {lines : List String} (h : ¬ Fits lines) :
    ∃ i, ∃ inside : i < lines.length, (TooLong lines[i] ∨ i = scriptCapacity) ∧
      ∀ j (earlier : j < i), ¬ TooLong lines[j] ∧ j ≠ scriptCapacity := by
  classical
  have some_place : ∃ i, ∃ inside : i < lines.length, TooLong lines[i] ∨ i = scriptCapacity := by
    rw [Fits, not_and_or, Nat.not_le] at h
    rcases h with more | long
    · exact ⟨scriptCapacity, more, .inr rfl⟩
    · simp only [not_forall, not_not] at long
      obtain ⟨line, among, long⟩ := long
      obtain ⟨i, inside, rfl⟩ := List.getElem_of_mem among
      exact ⟨i, inside, .inl long⟩
  obtain ⟨inside, refused⟩ := Nat.find_spec some_place
  refine ⟨_, inside, refused, fun j earlier => ?_⟩
  exact not_or.1 (not_exists.1 (Nat.find_min some_place earlier) (earlier.trans inside))

/-! ## Lines that are added whatever becomes of the others -/

/-- Adds lines one after the other, whether or not the ones before them were refused. -/
def addAll (lines : List String) : StateM StoredScript (List (Except ScriptError Unit)) :=
  lines.mapM add

lemma run_addAll_cons (s : StoredScript) (line : String) (more : List String) :
    ((addAll (line :: more)).run s).2 = ((addAll more).run ((add line).run s).2).2 := by
  rw [addAll, List.mapM_cons]
  rfl

/-- The lines that are short enough end up in the script in order, as far as there is room. -/
lemma lines_addAll (s : StoredScript) (lines : List String) :
    ((addAll lines).run s).2.lines =
      s.lines ++ (lines.filter fun line => ¬ TooLong line).take (scriptCapacity - s.length) := by
  induction lines generalizing s with
  | nil =>
    rw [List.filter_nil, List.take_nil, List.append_nil]
    rfl
  | cons line more ih =>
    rw [run_addAll_cons, ih, run_add]
    by_cases long : TooLong line
    · rw [if_neg fun fits => fits.1 long, List.filter_cons_of_neg (by simpa using long)]
    · rw [List.filter_cons_of_pos (by simpa using long)]
      by_cases room : s.length < scriptCapacity
      · have length : StoredScript.length ⟨s.lines ++ [line]⟩ = s.length + 1 := List.length_append
        have left : scriptCapacity - s.length = scriptCapacity - (s.length + 1) + 1 := by omega
        rw [if_pos ⟨long, room⟩, length, left, List.take_succ_cons, List.append_assoc]
        rfl
      · have none : scriptCapacity - s.length = 0 := by omega
        rw [if_neg fun fits => room fits.2, none, List.take_zero, List.take_zero]

/-- What becomes of a text. It is a script exactly if its lines fit, and the script is its lines then, in
order and as they are. Otherwise there is a first line that is too long or one more than a script has room
for, and the error is about it: about its length if it is too long, else about the room. And a line that is
refused leaves the script that it was to be added to as it was, so that lines which are added whatever
becomes of the others are in the script in order, as far as they fit. -/
theorem parse_of_text (content : String) :
    (∀ s, parse content = .ok s ↔ Fits (linesOf content) ∧ s.lines = linesOf content) ∧
    (¬ Fits (linesOf content) → ∃ i, ∃ inside : i < (linesOf content).length,
      (TooLong (linesOf content)[i] ∨ i = scriptCapacity) ∧
      (∀ j (earlier : j < i), ¬ TooLong (linesOf content)[j] ∧ j ≠ scriptCapacity) ∧
      parse content = .error (if TooLong (linesOf content)[i] then .lineTooLong (i + 1)
        else .tooManyLines scriptCapacity)) ∧
    (∀ (s : StoredScript) (line : String) (e : ScriptError),
      ((add line).run s).1 = .error e → ((add line).run s).2 = s) ∧
    ∀ (s : StoredScript) (lines : List String), ((addAll lines).run s).2.lines =
      s.lines ++ (lines.filter fun line => ¬ TooLong line).take (scriptCapacity - s.length) := by
  have start : StoredScript.length {} = 0 := rfl
  have refused : ¬ Fits (linesOf content) → ∃ i, ∃ inside : i < (linesOf content).length,
      (TooLong (linesOf content)[i] ∨ i = scriptCapacity) ∧
      (∀ j (earlier : j < i), ¬ TooLong (linesOf content)[j] ∧ j ≠ scriptCapacity) ∧
      parse content = .error (refusal i (linesOf content)[i]) := by
    intro unfit
    obtain ⟨i, inside, reason, first⟩ := exists_first unfit
    have room : i ≤ scriptCapacity := by
      by_contra beyond
      exact (first scriptCapacity (Nat.lt_of_not_le beyond)).2 rfl
    have pushed := pushAll_of_refused (s := {}) inside (by rwa [start, Nat.zero_add])
      (by rwa [start, Nat.zero_add]) fun j earlier => (first j earlier).1
    rw [start, Nat.zero_add] at pushed
    exact ⟨i, inside, reason, first, pushed⟩
  refine ⟨fun s => ?_, refused, ?_, lines_addAll⟩
  · by_cases fits : Fits (linesOf content)
    · have loaded : parse content = .ok ⟨linesOf content⟩ :=
        pushAll_of_fits (by rw [start, Nat.zero_add]; exact fits.1) fits.2
      rw [loaded]
      constructor
      · intro same
        cases same
        exact ⟨fits, rfl⟩
      · rintro ⟨-, same⟩
        rw [← same]
    · obtain ⟨i, inside, -, -, failed⟩ := refused fits
      rw [failed]
      exact iff_of_false nofun fun h => fits h.1
  · intro s line e failed
    rw [run_add] at failed ⊢
    split at failed
    · cases failed
    · next unfit => rw [if_neg unfit]

/-- A comment and a blank line are lines of the script. A second line of 54 characters, each of three
bytes, is too long, and the text is refused for it. -/
theorem second_line_is_too_long :
    parse "# home\n\nstop" = .ok ⟨["# home", "", "stop"]⟩ ∧
      parse ("stop\n" ++ String.ofList (List.replicate 54 '€')) = .error (.lineTooLong 2) := by
  constructor
  · exact ((parse_of_text "# home\n\nstop").1 _).2 ⟨by decide +kernel, by decide +kernel⟩
  · let content := "stop\n" ++ String.ofList (List.replicate 54 '€')
    have lines : linesOf content = ["stop", String.ofList (List.replicate 54 '€')] := by
      decide +kernel
    have short : ¬ TooLong "stop" := by decide
    have long : TooLong (String.ofList (List.replicate 54 '€')) := by decide +kernel
    have unfit : ¬ Fits (linesOf content) := by
      rw [lines]
      exact fun fits => fits.2 _ (by simp) long
    obtain ⟨i, inside, reason, -, failed⟩ := (parse_of_text content).2.1 unfit
    simp only [lines] at inside reason failed
    cases i with
    | zero => exact absurd reason (not_or.2 ⟨short, nofun⟩)
    | succ i =>
      obtain rfl : i = 0 := by
        simp only [List.length_cons, List.length_nil] at inside
        omega
      exact failed.trans (congrArg _ (if_pos long))

end StoredScript

end MatchRobot
