/-!
# Words of a script line

A line is a keyword followed by its parameters. Any run of delimiters separates two words, so
`MMOVE 0.5, 24, 3.0`, `MMOVE(0.5 24 3.0)` and `MMOVE [0.5,24,3.0]` read the same.

`next` takes one word off a text: it skips delimiters, takes the characters up to the next delimiter
and swallows that one delimiter. `words` lists all words of a text by their definition, the maximal
runs without delimiters, and does not go through `next`.
-/

namespace MatchRobot

namespace Script

/-- The nine characters that separate words. -/
def delimiters : List Char :=
  [' ', ',', '[', ']', '(', ')', '\r', '\n', '\t']

/-- Whether a character separates words. -/
def isDelimiter (c : Char) : Bool :=
  delimiters.contains c

/-- The character that opens a comment. -/
def comment : Char := '#'

/-- The text from its first character that is no delimiter. -/
def skip (cs : List Char) : List Char :=
  cs.dropWhile isDelimiter

/-- The characters before the first delimiter. -/
def word (cs : List Char) : List Char :=
  cs.takeWhile fun c => ! isDelimiter c

/-- What follows the first word of a text and the one delimiter behind it. -/
def afterWord (cs : List Char) : List Char :=
  (cs.dropWhile fun c => ! isDelimiter c).drop 1

/-- The first word of a text, if there is one, and the text behind it. -/
def next (cs : List Char) : Option (List Char) × List Char :=
  match skip cs with
  | [] => (none, [])
  | c :: rest => (some (word (c :: rest)), afterWord (c :: rest))

/-- The text without the delimiters at its two ends. -/
def trim (cs : List Char) : List Char :=
  (skip (skip cs).reverse).reverse

/-- Whether a line carries no command: it is blank or a comment. -/
def isSkippable (cs : List Char) : Bool :=
  match skip cs with
  | [] => true
  | c :: _ => c == comment

/-! ### All words of a text -/

/-- Puts the first word of what follows in front of the words `more`, unless it is empty. -/
def closeWord (w : List Char) (more : List (List Char)) : List (List Char) :=
  if w = [] then more else w :: more

/-- The run without delimiters at the start of a text, and the words behind that run. -/
def runs : List Char → List Char × List (List Char)
  | [] => ([], [])
  | c :: rest =>
    let (w, more) := runs rest
    if isDelimiter c then ([], closeWord w more) else (c :: w, more)

/-- The maximal runs without delimiters of a text, in order. -/
def words (cs : List Char) : List (List Char) :=
  closeWord (runs cs).1 (runs cs).2

/-! ### How `next` cuts a text -/

theorem length_afterWord_lt {c : Char} {rest : List Char} :
    (afterWord (c :: rest)).length < (c :: rest).length := by
  have h : ((c :: rest).dropWhile fun c => ! isDelimiter c).length ≤ (c :: rest).length :=
    (List.dropWhile_sublist _).length_le
  simp only [afterWord, List.length_drop, List.length_cons] at h ⊢
  omega

theorem length_skip_le (cs : List Char) : (skip cs).length ≤ cs.length :=
  (List.dropWhile_sublist _).length_le

/-- A word that is found leaves less text behind. -/
theorem length_next_lt {cs w rest : List Char} (h : next cs = (some w, rest)) :
    rest.length < cs.length := by
  unfold next at h
  split at h
  · simp at h
  · next c r hs =>
    simp only [Prod.mk.injEq, Option.some.injEq] at h
    have h1 : (afterWord (c :: r)).length < (c :: r).length := length_afterWord_lt
    have h2 := length_skip_le cs
    rw [hs] at h2
    rw [← h.2]
    omega

/-- The steps of `next` on a text up to the first that finds no word, each with what it leaves. -/
def steps (cs : List Char) : List (Option (List Char) × List Char) :=
  match _h : next cs with
  | (none, rest) => [(none, rest)]
  | (some w, rest) => (some w, rest) :: steps rest
termination_by cs.length
decreasing_by exact length_next_lt ‹_›

end Script

end MatchRobot
