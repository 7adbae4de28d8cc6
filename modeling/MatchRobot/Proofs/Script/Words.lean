import Mathlib.Data.List.TakeWhile
import Mathlib.Tactic.Lemma
import MatchRobot.Script.Word

/-!
# The words of a text

The words of a text are its longest runs without delimiters. `Script.Splits` says so by a relation: a text
is a gap of delimiters, or a gap, a run that goes on to a delimiter or to the end, and what follows it. The
list of words that it leaves is the one that `Script.words` computes (`Script.words_eq_iff`).

`Script.next` cuts the same words off one after the other, and what it leaves of a text has the other words
of it (`Script.next_cases`). Delimiters at the ends of a text make no difference to its words, so trimming
them keeps the words too (`Script.words_trim`).
-/

namespace MatchRobot

namespace Script

/-- The words `ws` are the longest runs without delimiters of a text, in order. -/
inductive Splits : List Char → List (List Char) → Prop
  | gap {gap : List Char} (blank : ∀ c ∈ gap, isDelimiter c = true) : Splits gap []
  | run {gap w rest : List Char} {ws : List (List Char)} (blank : ∀ c ∈ gap, isDelimiter c = true)
      (filled : w ≠ []) (solid : ∀ c ∈ w, isDelimiter c = false)
      (bounded : ∀ c ∈ rest.head?, isDelimiter c = true) (more : Splits rest ws) :
      Splits (gap ++ (w ++ rest)) (w :: ws)

section

variable {c : Char} {cs gap w rest : List Char} {ws : List (List Char)}

/-! ### What `words` computes -/

lemma words_cons_of_delimiter (h : isDelimiter c = true) : words (c :: cs) = words cs := by
  simp [words, runs, h, closeWord]

/-- Delimiters before a text make no difference to its words. -/
lemma words_gap_append (blank : ∀ c ∈ gap, isDelimiter c = true) : words (gap ++ cs) = words cs := by
  induction gap with
  | nil => rfl
  | cons c gap ih =>
    rw [List.cons_append, words_cons_of_delimiter (blank c (List.mem_cons_self ..))]
    exact ih fun d hd => blank d (List.mem_cons_of_mem _ hd)

/-- No run stands at the start of a text that begins with a delimiter. -/
lemma runs_of_bounded (bounded : ∀ c ∈ rest.head?, isDelimiter c = true) :
    runs rest = ([], words rest) := by
  cases rest with
  | nil => rfl
  | cons c cs =>
    have h : isDelimiter c = true := bounded c rfl
    simp [words, runs, h, closeWord]

lemma runs_solid_append (solid : ∀ c ∈ w, isDelimiter c = false) :
    runs (w ++ rest) = (w ++ (runs rest).1, (runs rest).2) := by
  induction w with
  | nil => rfl
  | cons c w ih =>
    have h : isDelimiter c = false := solid c (List.mem_cons_self ..)
    simp [runs, h, ih fun d hd => solid d (List.mem_cons_of_mem _ hd)]

/-- A run that goes on to a delimiter or to the end is the first word. -/
lemma words_run (filled : w ≠ []) (solid : ∀ c ∈ w, isDelimiter c = false)
    (bounded : ∀ c ∈ rest.head?, isDelimiter c = true) : words (w ++ rest) = w :: words rest := by
  rw [words, runs_solid_append solid, runs_of_bounded bounded, List.append_nil, closeWord, if_neg filled]

lemma words_of_splits (h : Splits cs ws) : words cs = ws := by
  induction h with
  | gap blank =>
    have none : words (_ ++ []) = words [] := words_gap_append blank
    rwa [List.append_nil] at none
  | run blank filled solid bounded more ih =>
    rw [words_gap_append blank, words_run filled solid bounded, ih]

/-! ### The first word -/

/-- Where dropping stops, the test fails. -/
lemma head_dropWhile {p : Char → Bool} (h : c ∈ (cs.dropWhile p).head?) : p c = false := by
  have stop := List.head?_dropWhile_not p cs
  rwa [h] at stop

/-- Where skipping stops there is no delimiter. -/
lemma head_skip (cs : List Char) (h : c ∈ (skip cs).head?) : isDelimiter c = false :=
  head_dropWhile h

lemma gap_append_skip (cs : List Char) : cs.takeWhile isDelimiter ++ skip cs = cs :=
  List.takeWhile_append_dropWhile

/-- A text is a gap, or it has a first word. -/
lemma exists_run (cs : List Char) : (∀ c ∈ cs, isDelimiter c = true) ∨
    ∃ gap w rest, cs = gap ++ (w ++ rest) ∧ (∀ c ∈ gap, isDelimiter c = true) ∧ w ≠ [] ∧
      (∀ c ∈ w, isDelimiter c = false) ∧ ∀ c ∈ rest.head?, isDelimiter c = true := by
  cases left : skip cs with
  | nil => exact .inl (List.dropWhile_eq_nil_iff.1 left)
  | cons c more =>
    have start : isDelimiter c = false := head_skip cs (by rw [left]; rfl)
    have cut : word (c :: more) ++ (c :: more).dropWhile (fun d => !isDelimiter d) = c :: more :=
      List.takeWhile_append_dropWhile
    refine .inr ⟨cs.takeWhile isDelimiter, word (c :: more),
      (c :: more).dropWhile fun d => !isDelimiter d, ?_, ?_, ?_, ?_, ?_⟩
    · rw [cut, ← left, gap_append_skip]
    · exact fun d hd => List.mem_takeWhile_imp hd
    · simp [word, start]
    · intro d hd
      simpa using List.mem_takeWhile_imp hd
    · intro d hd
      simpa using head_dropWhile hd

lemma splits_words (cs : List Char) : Splits cs (words cs) := by
  rcases exists_run cs with blank | ⟨gap, w, rest, whole, blank, filled, solid, bounded⟩
  · rw [words_of_splits (.gap blank)]
    exact .gap blank
  · have shorter : rest.length < cs.length := by
      have some_char := List.length_pos_iff.2 filled
      rw [whole, List.length_append, List.length_append]
      omega
    rw [whole, words_gap_append blank, words_run filled solid bounded]
    exact .run blank filled solid bounded (splits_words rest)
termination_by cs.length

/-- The words of a text are its longest runs without delimiters, in order. -/
theorem words_eq_iff : words cs = ws ↔ Splits cs ws := by
  constructor
  · rintro rfl
    exact splits_words cs
  · exact words_of_splits

/-! ### Words one after the other -/

lemma next_of_gap (blank : ∀ c ∈ gap, isDelimiter c = true) : next gap = (none, []) := by
  have skipped : skip gap = [] := List.dropWhile_eq_nil_iff.2 blank
  simp [next, skipped]

/-- Skipping stops at the first run. -/
lemma skip_of_run (blank : ∀ c ∈ gap, isDelimiter c = true) (filled : w ≠ [])
    (solid : ∀ c ∈ w, isDelimiter c = false) : skip (gap ++ (w ++ rest)) = w ++ rest := by
  obtain ⟨c, more, rfl⟩ := List.exists_cons_of_ne_nil filled
  have start : isDelimiter c = false := solid c (List.mem_cons_self ..)
  rw [skip, List.dropWhile_append_of_pos blank, List.cons_append]
  exact List.dropWhile_cons_of_neg (by simp [start])

/-- The next word is the first run, and the one delimiter behind it is swallowed. -/
lemma next_of_run (blank : ∀ c ∈ gap, isDelimiter c = true) (filled : w ≠ [])
    (solid : ∀ c ∈ w, isDelimiter c = false) (bounded : ∀ c ∈ rest.head?, isDelimiter c = true) :
    next (gap ++ (w ++ rest)) = (some w, rest.drop 1) := by
  obtain ⟨c, more, rfl⟩ := List.exists_cons_of_ne_nil filled
  have skipped : skip (gap ++ (c :: more ++ rest)) = c :: (more ++ rest) :=
    skip_of_run blank filled solid
  have inside : ∀ d ∈ c :: more, (!isDelimiter d) = true := fun d hd => by simp [solid d hd]
  have stop : rest.takeWhile (fun d => !isDelimiter d) = [] ∧
      rest.dropWhile (fun d => !isDelimiter d) = rest := by
    cases rest with
    | nil => exact ⟨rfl, rfl⟩
    | cons d tail =>
      have delimiter : isDelimiter d = true := bounded d rfl
      simp [delimiter]
  simp only [next, skipped]
  rw [← List.cons_append, word, afterWord, List.takeWhile_append_of_pos inside,
    List.dropWhile_append_of_pos inside, stop.1, stop.2, List.append_nil]

/-- The next word of a text is the first of its words, and the others are left. -/
lemma next_cases (cs : List Char) : next cs = (none, []) ∧ words cs = [] ∨
    ∃ w rest, next cs = (some w, rest) ∧ words cs = w :: words rest := by
  rcases exists_run cs with blank | ⟨gap, w, rest, rfl, blank, filled, solid, bounded⟩
  · exact .inl ⟨next_of_gap blank, words_of_splits (.gap blank)⟩
  · refine .inr ⟨w, rest.drop 1, next_of_run blank filled solid bounded, ?_⟩
    have swallowed : words (rest.drop 1) = words rest := by
      cases rest with
      | nil => rfl
      | cons d tail => exact (words_cons_of_delimiter (bounded d rfl)).symm
    rw [words_gap_append blank, words_run filled solid bounded, swallowed]

/-! ### Trimming -/

/-- Delimiters behind a text make no difference to its words. -/
lemma Splits.append_gap (h : Splits cs ws) (blank : ∀ c ∈ gap, isDelimiter c = true) :
    Splits (cs ++ gap) ws := by
  induction h with
  | @gap front fore =>
    refine .gap fun c hc => ?_
    exact (List.mem_append.1 hc).elim (fore c) (blank c)
  | @run front w rest ws fore filled solid bounded more ih =>
    rw [List.append_assoc, List.append_assoc]
    refine .run fore filled solid (fun c hc => ?_) ih
    rw [List.head?_append] at hc
    cases rest with
    | nil => exact blank c (List.mem_of_mem_head? hc)
    | cons d tail => exact bounded c hc

lemma words_skip (cs : List Char) : words (skip cs) = words cs := by
  have gap : ∀ c ∈ cs.takeWhile isDelimiter, isDelimiter c = true := fun c hc =>
    List.mem_takeWhile_imp hc
  calc words (skip cs) = words (cs.takeWhile isDelimiter ++ skip cs) := (words_gap_append gap).symm
    _ = words cs := by rw [gap_append_skip]

/-- What trimming leaves, and the gap that it takes away behind. -/
lemma exists_trim (cs : List Char) :
    ∃ gap, (∀ c ∈ gap, isDelimiter c = true) ∧ trim cs ++ gap = skip cs := by
  refine ⟨((skip cs).reverse.takeWhile isDelimiter).reverse, fun c hc => ?_, ?_⟩
  · exact List.mem_takeWhile_imp (List.mem_reverse.1 hc)
  · rw [trim, ← List.reverse_append, gap_append_skip, List.reverse_reverse]

lemma words_trim (cs : List Char) : words (trim cs) = words cs := by
  obtain ⟨gap, blank, whole⟩ := exists_trim cs
  rw [← words_skip cs, ← whole, words_of_splits ((splits_words (trim cs)).append_gap blank)]

/-- A text that is trimmed does not begin with a delimiter. -/
lemma head_trim (h : c ∈ (trim cs).head?) : isDelimiter c = false := by
  obtain ⟨gap, -, whole⟩ := exists_trim cs
  refine head_skip cs ?_
  rw [← whole, List.head?_append, h]
  rfl

/-- A text that is trimmed does not end with a delimiter. -/
lemma getLast_trim (h : c ∈ (trim cs).getLast?) : isDelimiter c = false := by
  rw [trim, List.getLast?_reverse] at h
  exact head_skip _ h

end

end Script

end MatchRobot
