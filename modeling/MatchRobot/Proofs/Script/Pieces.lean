import Mathlib.Logic.Function.Iterate
import MatchRobot.Proofs.Script.Words

/-!
# Words as the pieces of a text

A text that is cut at each of its delimiters falls into pieces, of which those that are not empty are its
words (`Script.pieces_eq_words`). Calling `Script.next` again and again takes exactly these off, one for
each call, and then nothing any more (`Script.calls_yield_pieces`).

Texts are lists of characters here, but a text in memory is a list of bytes, and a cut in the middle of a
character fails. `Script.nextBySlices` takes a word off with such cuts: one before the first delimiter and
one a single byte behind it. Neither can fail, since a delimiter takes one byte
(`Script.nextBySlices_eq_next`).
-/

namespace MatchRobot

namespace Script

/-! ### Pieces -/

/-- The pieces of a text that is cut at each blank, comma, bracket, parenthesis, end of a line and tabulator,
without the empty ones. -/
def pieces (cs : List Char) : List (List Char) :=
  (cs.splitOnP [' ', ',', '[', ']', '(', ')', '\r', '\n', '\t'].contains).filter (· ≠ [])

/-- What several calls of `next` leave of a text. -/
def left (n : Nat) (cs : List Char) : List Char :=
  (fun rest => (next rest).2)^[n] cs

section

variable {c : Char} {cs front rest w : List Char}

/-- The first piece is the run at the start of the text, and the others that are not empty are the words
behind it. -/
lemma exists_splitOnP (cs : List Char) : ∃ more, cs.splitOnP isDelimiter = (runs cs).1 :: more ∧
    more.filter (· ≠ []) = (runs cs).2 := by
  induction cs with
  | nil => exact ⟨[], rfl, rfl⟩
  | cons c cs ih =>
    obtain ⟨more, split, others⟩ := ih
    rw [List.splitOnP_cons_eq_if_modifyHead, split]
    by_cases delimiter : isDelimiter c = true
    · refine ⟨(runs cs).1 :: more, by simp [runs, delimiter], ?_⟩
      by_cases empty : (runs cs).1 = []
      · simp [runs, delimiter, closeWord, empty, ← others]
      · simp [runs, delimiter, closeWord, empty, ← others]
    · refine ⟨more, by simp [runs, delimiter], ?_⟩
      simpa [runs, delimiter] using others

lemma pieces_eq_words (cs : List Char) : pieces cs = words cs := by
  obtain ⟨more, split, others⟩ := exists_splitOnP cs
  have cut : pieces cs = (cs.splitOnP isDelimiter).filter (· ≠ []) := rfl
  rw [cut, split, words, closeWord, ← others]
  by_cases empty : (runs cs).1 = []
  · simp [empty]
  · simp [empty]

lemma mem_pieces (h : w ∈ pieces cs) : w ≠ [] ∧ ∀ c ∈ w, isDelimiter c = false := by
  rw [pieces_eq_words] at h
  have cut := splits_words cs
  generalize words cs = ws at h cut
  induction cut with
  | gap blank => cases h
  | run blank filled solid bounded more ih =>
    rcases List.mem_cons.1 h with rfl | later
    · exact ⟨filled, solid⟩
    · exact ih later

/-! ### Calls of `next` -/

lemma next_fst (cs : List Char) : (next cs).1 = (words cs).head? := by
  rcases next_cases cs with ⟨found, none⟩ | ⟨w, rest, found, all⟩
  · rw [found, none]
    rfl
  · rw [found, all]
    rfl

lemma words_next_snd (cs : List Char) : words (next cs).2 = (words cs).tail := by
  rcases next_cases cs with ⟨found, none⟩ | ⟨w, rest, found, all⟩
  · rw [found, none]
    rfl
  · rw [found, all]
    rfl

lemma next_snd_suffix (cs : List Char) : (next cs).2 <:+ cs := by
  have skipped : skip cs <:+ cs := List.dropWhile_suffix isDelimiter
  unfold next
  split
  · exact List.nil_suffix
  · next start =>
    rw [← start]
    have behind : afterWord (skip cs) <:+ skip cs :=
      (List.drop_suffix 1 _).trans (List.dropWhile_suffix _)
    exact behind.trans skipped

lemma left_succ (n : Nat) (cs : List Char) : left (n + 1) cs = (next (left n cs)).2 :=
  Function.iterate_succ_apply' _ n cs

lemma words_left (n : Nat) (cs : List Char) : words (left n cs) = (words cs).drop n := by
  induction n with
  | zero => rfl
  | succ n ih => rw [left_succ, words_next_snd, ih, List.tail_drop]

lemma left_suffix (n : Nat) (cs : List Char) : left n cs <:+ cs := by
  induction n with
  | zero => exact List.suffix_rfl
  | succ n ih =>
    rw [left_succ]
    exact (next_snd_suffix _).trans ih

lemma next_left (n : Nat) (cs : List Char) : (next (left n cs)).1 = (words cs)[n]? := by
  rw [next_fst, words_left, List.head?_drop]

/-- The calls up to the first that finds no word are one more than there are words. -/
lemma steps_eq_calls (cs : List Char) :
    steps cs = (List.range ((words cs).length + 1)).map fun n => next (left n cs) := by
  fun_induction steps cs with
  | case1 cs rest found =>
    rcases next_cases cs with ⟨-, none⟩ | ⟨w, rest', found', -⟩
    · simp [none, left, found]
    · rw [found] at found'
      cases found'
  | case2 cs w rest found ih =>
    rcases next_cases cs with ⟨found', -⟩ | ⟨w', rest', found', all⟩
    · rw [found] at found'
      cases found'
    · rw [found] at found'
      cases found'
      have onward : ∀ n, left (n + 1) cs = left n rest := by
        intro n
        have again : left (n + 1) cs = left n (next cs).2 := Function.iterate_succ_apply _ n cs
        rw [again, found]
      have counted : List.range ((words rest).length + 1 + 1) =
          0 :: (List.range ((words rest).length + 1)).map Nat.succ := List.range_succ_eq_map
      rw [ih, all, List.length_cons, counted, List.map_cons, List.map_map]
      congr 1
      · exact found.symm
      · refine List.map_congr_left fun n _ => ?_
        rw [Function.comp_apply, onward]

/-! ### Cuts between bytes -/

/-- The number of bytes of a text. -/
def size (cs : List Char) : Nat :=
  (String.ofList cs).utf8ByteSize

/-- Cuts a text behind so many bytes. There is no cut inside a character or beyond the end. -/
def cutAt : Nat → List Char → Option (List Char × List Char)
  | 0, cs => some ([], cs)
  | _ + 1, [] => none
  | n + 1, c :: cs =>
    if c.utf8Size ≤ n + 1 then
      (cutAt (n + 1 - c.utf8Size) cs).map fun (front, rest) => (c :: front, rest)
    else none

/-- The byte at which the first delimiter of a text begins. -/
def delimiterAt? : List Char → Option Nat
  | [] => none
  | c :: cs => if isDelimiter c then some 0 else (delimiterAt? cs).map (c.utf8Size + ·)

/-- Takes the first word off a text by cutting between bytes: before the delimiter behind the word, and one
byte further on. The answer is `none` if a cut fails. -/
def nextBySlices (cs : List Char) : Option (Option (List Char) × List Char) :=
  let start := skip cs
  if start = [] then some (none, [])
  else match delimiterAt? start with
    | none => some (some start, [])
    | some n => do
      let (w, tail) ← cutAt n start
      let (_, rest) ← cutAt 1 tail
      return (some w, rest)

lemma size_cons (c : Char) (cs : List Char) : size (c :: cs) = c.utf8Size + size cs := by
  have joined : String.ofList (c :: cs) = String.singleton c ++ String.ofList cs := by
    rw [← List.singleton_append, String.ofList_append]
    rfl
  rw [size, joined, String.utf8ByteSize_append, String.utf8ByteSize_singleton]
  rfl

/-- A cut splits a text into two, the first of which has as many bytes as asked for. -/
lemma cutAt_size_append (front rest : List Char) :
    cutAt (size front) (front ++ rest) = some (front, rest) := by
  induction front with
  | nil =>
    have none : size [] = 0 := rfl
    rw [none, List.nil_append, cutAt]
  | cons c front ih =>
    have filled : 0 < c.utf8Size := c.utf8Size_pos
    obtain ⟨n, bytes⟩ : ∃ n, size (c :: front) = n + 1 := ⟨size (c :: front) - 1, by
      rw [size_cons]
      omega⟩
    have others : n + 1 - c.utf8Size = size front := by
      rw [← bytes, size_cons]
      omega
    have enough : c.utf8Size ≤ n + 1 := by
      rw [← bytes, size_cons]
      omega
    rw [bytes, List.cons_append, cutAt, if_pos enough, others, ih]
    rfl

/-- A delimiter takes one byte. -/
lemma utf8Size_of_delimiter (h : isDelimiter c = true) : c.utf8Size = 1 := by
  have each : delimiters.all (fun d => d.utf8Size == 1) = true := by decide
  exact beq_iff_eq.1 (List.all_eq_true.1 each c (List.contains_iff_mem.1 h))

lemma delimiterAt?_of_solid (solid : ∀ c ∈ w, isDelimiter c = false) : delimiterAt? w = none := by
  induction w with
  | nil => rfl
  | cons c w ih =>
    have inside : isDelimiter c = false := solid c (List.mem_cons_self ..)
    rw [delimiterAt?, inside, ih fun d hd => solid d (List.mem_cons_of_mem _ hd)]
    rfl

lemma delimiterAt?_of_run (solid : ∀ c ∈ w, isDelimiter c = false) (h : isDelimiter c = true) :
    delimiterAt? (w ++ c :: rest) = some (size w) := by
  induction w with
  | nil =>
    rw [List.nil_append, delimiterAt?, if_pos h]
    rfl
  | cons d w ih =>
    have inside : isDelimiter d = false := solid d (List.mem_cons_self ..)
    rw [List.cons_append, delimiterAt?, inside, ih fun d hd => solid d (List.mem_cons_of_mem _ hd),
      size_cons]
    rfl

/-- Cutting between bytes never fails, and takes the same word off. -/
lemma nextBySlices_eq_next (cs : List Char) : nextBySlices cs = some (next cs) := by
  rcases exists_run cs with blank | ⟨gap, w, rest, rfl, blank, filled, solid, bounded⟩
  · have skipped : skip cs = [] := List.dropWhile_eq_nil_iff.2 blank
    simp only [nextBySlices, skipped, if_pos, next_of_gap blank]
  · have skipped : skip (gap ++ (w ++ rest)) = w ++ rest := skip_of_run blank filled solid
    have some_word : w ++ rest ≠ [] := by
      rw [Ne, List.append_eq_nil_iff]
      exact fun none => filled none.1
    rw [next_of_run blank filled solid bounded]
    simp only [nextBySlices, skipped, if_neg some_word]
    cases rest with
    | nil => rw [List.append_nil, delimiterAt?_of_solid solid, List.drop_nil]
    | cons d tail =>
      have delimiter : isDelimiter d = true := bounded d rfl
      have one_byte : size [d] = 1 := by
        rw [size_cons, utf8Size_of_delimiter delimiter]
        rfl
      have behind : cutAt 1 (d :: tail) = some ([d], tail) := by
        rw [← one_byte]
        exact cutAt_size_append [d] tail
      simp only [delimiterAt?_of_run solid delimiter, cutAt_size_append, Option.bind_eq_bind,
        Option.bind_some, behind, List.drop_succ_cons, List.drop_zero]
      rfl

/-- What is left of a text begins at a border between two characters. -/
lemma isValid_of_suffix (h : rest <:+ cs) :
    (⟨size cs - size rest⟩ : String.Pos.Raw).IsValid (String.ofList cs) := by
  obtain ⟨front, rfl⟩ := h
  rw [String.Pos.Raw.isValid_iff_exists_append]
  refine ⟨String.ofList front, String.ofList rest, String.ofList_append, ?_⟩
  have bytes : size (front ++ rest) = size front + size rest := by
    rw [size, String.ofList_append, String.utf8ByteSize_append]
    rfl
  rw [bytes, Nat.add_sub_cancel]
  rfl

end

/-- Calling `next` again and again on what it leaves is cutting a text at its delimiters. The calls up to
the first without a word are finitely many, and each of them finds the next piece that is not empty. No
such piece contains a delimiter. What a call leaves is the end of the text from the border of a character
on, its pieces are the ones that are still to come, and cutting it between bytes does not fail. After a
call without a word no further call finds one. -/
theorem calls_yield_pieces (line : List Char) :
    steps line = (List.range ((pieces line).length + 1)).map (fun n => next (left n line)) ∧
    (∀ w ∈ pieces line, w ≠ [] ∧ ∀ c ∈ w, isDelimiter c = false) ∧
    ∀ n, (next (left n line)).1 = (pieces line)[n]? ∧
      pieces (left n line) = (pieces line).drop n ∧
      left n line <:+ line ∧
      (⟨size line - size (left n line)⟩ : String.Pos.Raw).IsValid (String.ofList line) ∧
      nextBySlices (left n line) = some (next (left n line)) ∧
      ((next (left n line)).1 = none → ∀ m, n ≤ m → (next (left m line)).1 = none) := by
  have answer : ∀ n, (next (left n line)).1 = (pieces line)[n]? := by
    intro n
    rw [pieces_eq_words, next_left]
  refine ⟨?_, fun w => mem_pieces, fun n => ⟨answer n, ?_, left_suffix n line,
    isValid_of_suffix (left_suffix n line), nextBySlices_eq_next _, ?_⟩⟩
  · rw [pieces_eq_words, steps_eq_calls]
  · rw [pieces_eq_words, pieces_eq_words, words_left]
  · intro none m later
    rw [answer, List.getElem?_eq_none_iff] at none ⊢
    exact none.trans later

/-- A line with a letter of two bytes between its delimiters. -/
def accented : List Char :=
  " MOVE(é,, 24]\r\n".toList

theorem accented_falls_into_pieces :
    pieces accented = ["MOVE".toList, "é".toList, "24".toList] ∧
    (next (left 1 accented)).1 = some "é".toList ∧
    ("é".toList ≠ [] ∧ ∀ c ∈ "é".toList, isDelimiter c = false) ∧
    nextBySlices (left 1 accented) = some (next (left 1 accented)) ∧
    (next (left 3 accented)).1 = none ∧ (next (left 5 accented)).1 = none := by
  have cut : pieces accented = ["MOVE".toList, "é".toList, "24".toList] := by decide +kernel
  obtain ⟨-, solid, calls⟩ := calls_yield_pieces accented
  obtain ⟨second, -, -, -, sliced, -⟩ := calls 1
  obtain ⟨fourth, -, -, -, -, ended⟩ := calls 3
  rw [cut] at second fourth solid
  exact ⟨cut, second, solid _ (by simp), sliced, fourth, ended fourth 5 (by decide)⟩

end Script

end MatchRobot
