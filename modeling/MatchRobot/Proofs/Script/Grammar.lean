import Mathlib.Data.List.Forall2
import MatchRobot.Proofs.Script.Words
import MatchRobot.Proofs.Task.Kept
import MatchRobot.Script.Statement

/-!
# The grammar of script lines

A line is read word by word, and what comes of it is settled by its words. `Script.Accepts` is the grammar:
the first word is a keyword, as many words as it has parameters follow and are literals, and the parameters
of a raw move are not too fast. `Script.Fails` says which error a line without such words has: that of the
keyword, or else that of the first parameter that is missing or malformed. Each list of words has one of
the two (`Script.fails_or_accepts`).

`Statement.ofLine_of_splits` says that the parser follows the grammar, error by error. Of the layout of a
line it sees nothing but the text of a message, which is trimmed and otherwise kept.
-/

namespace MatchRobot

namespace Statement

/-- The statement of a line. -/
def ofLine (how : KeywordMatch) (line : List Char) : Except ParseError Statement := do
  let (key, args) ← Script.splitKeyword how line
  parse key args

/-- What a statement of a keyword makes of its parameters. -/
inductive Carries : Keyword → List Float32 → Statement → Prop
  /-- The block is cut to a whole number. -/
  | mode (x : Float32) : Carries .mode [x] (.mode (Single.toInt32 x))
  /-- Zero turns the listing off. -/
  | debug (x : Float32) : Carries .debug [x] (.debug (x != 0))
  | message (text : String) : Carries .message [] (.message text)
  | begin : Carries .begin [] .begin
  | finish : Carries .finish [] .finish
  | delay (secs : Float32) : Carries .delay [secs] (.delay secs)
  | move (left right : Float32) : Carries .move [left, right] (.move left right)
  | measuredMove (speed distance timeout : Float32) :
      Carries .measuredMove [speed, distance, timeout] (.measuredMove ⟨speed, distance, timeout⟩)
  | proximityMove (speed distance timeout : Float32) :
      Carries .proximityMove [speed, distance, timeout] (.proximityMove ⟨speed, distance, timeout⟩)
  | timedMove (speed time : Float32) : Carries .timedMove [speed, time] (.timedMove speed time)
  | turn (angle timeout : Float32) : Carries .turn [angle, timeout] (.turn angle timeout)
  | releaseGear : Carries .releaseGear [] .releaseGear
  | holdGear : Carries .holdGear [] .holdGear
  | hangGear : Carries .hangGear [] .hangGear
  | climber : Carries .climber [] .climber
  | nop : Carries .nop [] .nop

/-- Two results of reading a line that are the same but for the layout of a message. -/
inductive Alike : Except ParseError Statement → Except ParseError Statement → Prop
  | same (r : Except ParseError Statement) : Alike r r
  | message {text text' : String} (words : Script.words text.toList = Script.words text'.toList) :
      Alike (.ok (.message text)) (.ok (.message text'))

end Statement

namespace Script

/-! ### The grammar -/

/-- The words are literals of these numbers. -/
def Reads : List (List Char) → List Float32 → Prop :=
  List.Forall₂ fun w x => Literal.read? w = some x

/-- The words are a keyword, its parameters, and others. -/
def Accepts (how : KeywordMatch) (ws : List (List Char)) (key : Keyword) (xs : List Float32) : Prop :=
  ∃ k ts extra, ws = k :: (ts ++ extra) ∧ Keyword.lookup how k = some key ∧ ts.length = key.arity ∧
    Reads ts xs ∧ (key = .move → ∀ x ∈ xs, ¬ 1 < x.abs)

/-- The words are those of no statement, with the first error among them. -/
inductive Fails (how : KeywordMatch) : List (List Char) → ParseError → Prop
  | nothing : Fails how [] .missingToken
  | unknown {k : List Char} {ws : List (List Char)} (none : Keyword.lookup how k = none) :
      Fails how (k :: ws) .unknownKeyword
  | missing {k : List Char} {key : Keyword} {ts : List (List Char)} {xs : List Float32}
      (found : Keyword.lookup how k = some key) (read : Reads ts xs) (short : ts.length < key.arity) :
      Fails how (k :: ts) (.missingParameter key)
  | malformed {k w : List Char} {key : Keyword} {ts more : List (List Char)} {xs : List Float32}
      (found : Keyword.lookup how k = some key) (read : Reads ts xs) (short : ts.length < key.arity)
      (bad : Literal.read? w = none) : Fails how (k :: (ts ++ w :: more)) (.badNumber key)
  | tooFast {k : List Char} {ts more : List (List Char)} {left right : Float32}
      (found : Keyword.lookup how k = some .move) (read : Reads ts [left, right])
      (fast : 1 < left.abs ∨ 1 < right.abs) : Fails how (k :: (ts ++ more)) (.outOfRange .move)

/-- Of the first words of a list, as many are literals as are asked for, or all that there are, or all up
to one that is none. -/
lemma exists_reads (n : Nat) (ws : List (List Char)) : ∃ ts rest xs, ws = ts ++ rest ∧ Reads ts xs ∧
    (ts.length = n ∨ ts.length < n ∧ (rest = [] ∨ ∃ w more, rest = w :: more ∧ Literal.read? w = none)) := by
  induction n generalizing ws with
  | zero => exact ⟨[], ws, [], rfl, .nil, .inl rfl⟩
  | succ n ih =>
    cases ws with
    | nil => exact ⟨[], [], [], rfl, .nil, .inr ⟨Nat.succ_pos n, .inl rfl⟩⟩
    | cons w ws =>
      cases read : Literal.read? w with
      | none => exact ⟨[], w :: ws, [], rfl, .nil, .inr ⟨Nat.succ_pos n, .inr ⟨w, ws, rfl, read⟩⟩⟩
      | some x =>
        obtain ⟨ts, rest, xs, rfl, reads, stop⟩ := ih ws
        refine ⟨w :: ts, rest, x :: xs, rfl, .cons read reads, ?_⟩
        rw [List.length_cons, Nat.succ_inj, Nat.succ_lt_succ_iff]
        exact stop

/-- Every list of words is accepted or fails. -/
lemma fails_or_accepts (how : KeywordMatch) (ws : List (List Char)) :
    (∃ e, Fails how ws e) ∨ ∃ key xs, Accepts how ws key xs := by
  cases ws with
  | nil => exact .inl ⟨_, .nothing⟩
  | cons k ws =>
    cases found : Keyword.lookup how k with
    | none => exact .inl ⟨_, .unknown found⟩
    | some key =>
      obtain ⟨ts, rest, xs, rfl, reads, all | ⟨short, rfl | ⟨w, more, rfl, bad⟩⟩⟩ :=
        exists_reads key.arity ws
      · by_cases fast : key = .move ∧ ∃ x ∈ xs, 1 < x.abs
        · obtain ⟨rfl, x, hx, beyond⟩ := fast
          obtain ⟨left, right, rfl⟩ := List.length_eq_two.1 (reads.length_eq.symm.trans all)
          refine .inl ⟨_, .tooFast found reads ?_⟩
          rcases List.mem_pair.1 hx with rfl | rfl
          · exact .inl beyond
          · exact .inr beyond
        · refine .inr ⟨key, xs, k, ts, rest, rfl, found, all, reads, ?_⟩
          exact fun move x hx beyond => fast ⟨move, x, hx, beyond⟩
      · rw [List.append_nil]
        exact .inl ⟨_, .missing found reads short⟩
      · exact .inl ⟨_, .malformed found reads short bad⟩

/-! ### Reading words -/

section

variable {how : KeywordMatch} {line args : List Char} {k : List Char} {key : Keyword}
  {ts rest ws : List (List Char)} {xs : List Float32}

/-- The next parameter is the next word. -/
lemma number_of_words (key : Keyword) {w : List Char} (h : words args = w :: ws) : ∃ later, words later = ws ∧
    (Literal.read? w = none → number key args = .error (.badNumber key)) ∧
      ∀ x, Literal.read? w = some x → number key args = .ok (x, later) := by
  rcases next_cases args with ⟨-, none⟩ | ⟨v, later, found, all⟩
  · rw [none] at h
    cases h
  · rw [h] at all
    cases all
    refine ⟨later, rfl, fun bad => ?_, fun x read => ?_⟩
    · simp only [number, found, bad]
    · simp only [number, found, read]

lemma number_of_nil (h : words args = []) : number key args = .error (.missingParameter key) := by
  rcases next_cases args with ⟨found, -⟩ | ⟨v, later, -, all⟩
  · rw [number, found]
  · rw [all] at h
    cases h

/-- Words that are literals are read one after the other. -/
lemma numbers_of_reads (key : Keyword) (reads : Reads ts xs) (h : words args = ts ++ rest) (n : Nat) :
    ∃ later, words later = rest ∧
      numbers key (ts.length + n) args = (numbers key n later).map (xs ++ ·) := by
  induction reads generalizing args with
  | nil =>
    refine ⟨args, h, ?_⟩
    rw [List.length_nil, Nat.zero_add]
    cases numbers key n args <;> rfl
  | @cons w x ts xs read _ ih =>
    obtain ⟨later, others, -, first⟩ := number_of_words key h
    obtain ⟨last, left, again⟩ := ih others
    refine ⟨last, left, ?_⟩
    rw [List.length_cons, Nat.add_right_comm, numbers, first x read]
    change (numbers key (ts.length + n) later >>= fun ys => .ok (x :: ys)) = _
    rw [again]
    cases numbers key n last <;> rfl

/-- The keyword is the first word. -/
lemma splitKeyword_of_words (how : KeywordMatch) (h : words line = k :: ws) : ∃ args, words args = ws ∧
    (Keyword.lookup how k = none → splitKeyword how line = .error .unknownKeyword) ∧
      ∀ key, Keyword.lookup how k = some key → splitKeyword how line = .ok (key, args) := by
  rcases next_cases line with ⟨-, none⟩ | ⟨v, args, found, all⟩
  · rw [none] at h
    cases h
  · rw [h] at all
    cases all
    refine ⟨args, rfl, fun unknown => ?_, fun key known => ?_⟩
    · simp only [splitKeyword, found, unknown]
    · simp only [splitKeyword, found, known]

lemma splitKeyword_of_nil (h : words line = []) : splitKeyword how line = .error .missingToken := by
  rcases next_cases line with ⟨found, -⟩ | ⟨v, args, -, all⟩
  · rw [splitKeyword, found]
  · rw [all] at h
    cases h

end

end Script

namespace Statement

open Script

section

variable {how : KeywordMatch} {line args : List Char} {key : Keyword} {ws : List (List Char)}
  {xs : List Float32}

lemma tooFast_iff {x : Float32} : tooFast x = true ↔ 1 < x.abs :=
  decide_eq_true_iff

/-- As many numbers as a keyword has parameters make a statement, unless it is a move that is too fast. -/
lemma exists_build (args : List Char) (all : xs.length = key.arity)
    (slow : key = .move → ∀ x ∈ xs, ¬ 1 < x.abs) :
    ∃ s, build key args xs = .ok s ∧ Carries key xs s := by
  cases key with
  | mode | debug | delay =>
    obtain ⟨x, rfl⟩ := List.length_eq_one_iff.1 all
    exact ⟨_, rfl, by constructor⟩
  | move =>
    obtain ⟨x, y, rfl⟩ := List.length_eq_two.1 all
    have slow : ¬ 1 < x.abs ∧ ¬ 1 < y.abs := by simpa using slow rfl
    refine ⟨.move x y, if_neg ?_, .move x y⟩
    rw [Bool.or_eq_true, not_or]
    exact ⟨tooFast_iff.not.2 slow.1, tooFast_iff.not.2 slow.2⟩
  | timedMove | turn =>
    obtain ⟨x, y, rfl⟩ := List.length_eq_two.1 all
    exact ⟨_, rfl, by constructor⟩
  | measuredMove | proximityMove =>
    obtain ⟨x, y, z, rfl⟩ := List.length_eq_three.1 all
    exact ⟨_, rfl, by constructor⟩
  | _ =>
    obtain rfl := List.length_eq_zero_iff.1 all
    exact ⟨_, rfl, by constructor⟩

lemma build_of_fast (args : List Char) {x y : Float32} (fast : 1 < x.abs ∨ 1 < y.abs) :
    build .move args [x, y] = .error (.outOfRange .move) := by
  refine if_pos ?_
  rw [Bool.or_eq_true]
  exact fast.imp tooFast_iff.2 tooFast_iff.2

/-- A line with a keyword is read on from there. -/
lemma ofLine_of_words {k : List Char} (h : words line = k :: ws)
    (found : Keyword.lookup how k = some key) :
    ∃ args, words args = ws ∧ ofLine how line = parse key args := by
  obtain ⟨args, params, -, split⟩ := splitKeyword_of_words how h
  refine ⟨args, params, ?_⟩
  rw [ofLine, split key found]
  rfl

/-- What stops the numbers of a keyword stops its statement. -/
lemma parse_of_error {e : ParseError} (h : numbers key key.arity args = .error e) :
    parse key args = .error e := by
  rw [parse, h]
  rfl

/-- The parser takes what the grammar accepts. -/
lemma ofLine_of_accepts (h : Accepts how (words line) key xs) :
    ∃ s, ofLine how line = .ok s ∧ Carries key xs s := by
  obtain ⟨k, ts, extra, all, found, enough, reads, slow⟩ := h
  obtain ⟨args, params, parsed⟩ := ofLine_of_words all found
  obtain ⟨later, -, read⟩ := numbers_of_reads key reads params 0
  obtain ⟨s, built, carries⟩ := exists_build args (reads.length_eq.symm.trans enough) slow
  refine ⟨s, ?_, carries⟩
  rw [Nat.add_zero, enough] at read
  rw [parsed, parse, read]
  change build key args (xs ++ []) = .ok s
  rw [List.append_nil, built]

/-- The parser reports the first error. -/
lemma ofLine_of_fails {e : ParseError} (h : Fails how (words line) e) :
    ofLine how line = .error e := by
  generalize all : words line = ws at h
  cases h with
  | nothing =>
    rw [ofLine, splitKeyword_of_nil all]
    rfl
  | unknown none =>
    obtain ⟨args, -, unknown, -⟩ := splitKeyword_of_words how all
    rw [ofLine, unknown none]
    rfl
  | @missing k key ts xs found reads short =>
    obtain ⟨args, params, parsed⟩ := ofLine_of_words all found
    obtain ⟨n, arity⟩ := Nat.exists_eq_add_of_lt short
    rw [← List.append_nil ts] at params
    obtain ⟨later, none, read⟩ := numbers_of_reads key reads params (n + 1)
    rw [parsed]
    refine parse_of_error ?_
    rw [arity, Nat.add_assoc, read, numbers, number_of_nil none]
    rfl
  | @malformed k w key ts more xs found reads short bad =>
    obtain ⟨args, params, parsed⟩ := ofLine_of_words all found
    obtain ⟨n, arity⟩ := Nat.exists_eq_add_of_lt short
    obtain ⟨later, next, read⟩ := numbers_of_reads key reads params (n + 1)
    obtain ⟨-, -, refused, -⟩ := number_of_words key next
    rw [parsed]
    refine parse_of_error ?_
    rw [arity, Nat.add_assoc, read, numbers, refused bad]
    rfl
  | @tooFast k ts more x y found reads fast =>
    obtain ⟨args, params, parsed⟩ := ofLine_of_words all found
    obtain ⟨later, -, read⟩ := numbers_of_reads .move reads params 0
    have two : ts.length = 2 := reads.length_eq
    rw [two] at read
    have both : numbers .move (Keyword.arity .move) args = .ok [x, y] := read
    rw [parsed, parse, both]
    exact build_of_fast args fast

/-- A statement that is parsed has the words of its keyword and its parameters. -/
lemma accepts_of_ofLine {s : Statement} (h : ofLine how line = .ok s) :
    ∃ key xs, Accepts how (words line) key xs ∧ Carries key xs s := by
  rcases fails_or_accepts how (words line) with ⟨e, fails⟩ | ⟨key, xs, accepts⟩
  · cases h.symm.trans (ofLine_of_fails fails)
  · obtain ⟨s', parsed, carries⟩ := ofLine_of_accepts accepts
    cases h.symm.trans parsed
    exact ⟨key, xs, accepts, carries⟩

/-- The words of a message are those behind its keyword, and its text is trimmed. -/
lemma words_of_message {text : String} (h : ofLine how line = .ok (.message text)) :
    words text.toList = (words line).tail ∧ (∀ c ∈ text.toList.head?, isDelimiter c = false) ∧
      ∀ c ∈ text.toList.getLast?, isDelimiter c = false := by
  obtain ⟨key, xs, ⟨k, ts, extra, all, found, -⟩, carries⟩ := accepts_of_ofLine h
  cases carries
  obtain ⟨args, behind, parsed⟩ := ofLine_of_words all found
  have same : text = String.ofList (trim args) := by
    have read : parse .message args = .ok (.message (String.ofList (trim args))) := rfl
    cases h.symm.trans (parsed.trans read)
    rfl
  rw [same, String.toList_ofList, all, List.tail_cons, words_trim, behind]
  exact ⟨rfl, fun c hc => head_trim hc, fun c hc => getLast_trim hc⟩

/-- What carries its parameters is settled by them, a message apart. -/
lemma Carries.alike {line' : List Char} {s s' : Statement} (h : Carries key xs s) (h' : Carries key xs s')
    (parsed : ofLine how line = .ok s) (parsed' : ofLine how line' = .ok s')
    (same : words line' = words line) : Alike (.ok s) (.ok s') := by
  cases h with
  | message text =>
    cases h' with
    | message text' =>
      refine .message ?_
      rw [(words_of_message parsed).1, (words_of_message parsed').1, same]
  | _ =>
    cases h'
    exact .same _

/-- Lines with the same words are read alike. -/
lemma alike_of_words {line' : List Char} (same : words line' = words line) :
    Alike (ofLine how line) (ofLine how line') := by
  rcases fails_or_accepts how (words line) with ⟨e, fails⟩ | ⟨key, xs, accepts⟩
  · rw [ofLine_of_fails fails, ofLine_of_fails (same ▸ fails)]
    exact .same _
  · obtain ⟨s, parsed, carries⟩ := ofLine_of_accepts accepts
    have accepts' : Accepts how (words line') key xs := same ▸ accepts
    obtain ⟨s', parsed', carries'⟩ := ofLine_of_accepts accepts'
    rw [parsed, parsed']
    exact carries.alike carries' parsed parsed' same

end

/-- The parser accepts exactly the lines of the grammar, and sees only their words. With `ws` the longest
runs without delimiters of a line, in order: the line has a statement if and only if the words are a keyword
and its parameters, and the statement carries these. Otherwise the error is the first one among the words.
The text of a message is trimmed, and its words are those behind the keyword. Lines with the same words are
read alike. -/
theorem ofLine_of_splits {how : KeywordMatch} {line : List Char} {ws : List (List Char)}
    (cut : Splits line ws) :
    ((∃ s, ofLine how line = .ok s) ↔ ∃ key xs, Accepts how ws key xs) ∧
    (∀ s key xs, ofLine how line = .ok s → Accepts how ws key xs → Carries key xs s) ∧
    (∀ e, ofLine how line = .error e ↔ Fails how ws e) ∧
    (∀ text, ofLine how line = .ok (.message text) → Splits text.toList ws.tail ∧
      (∀ c ∈ text.toList.head?, isDelimiter c = false) ∧
      ∀ c ∈ text.toList.getLast?, isDelimiter c = false) ∧
    ∀ line', Splits line' ws → Alike (ofLine how line) (ofLine how line') := by
  obtain rfl := words_of_splits cut
  refine ⟨⟨?_, ?_⟩, ?_, fun e => ⟨fun failed => ?_, ofLine_of_fails⟩, ?_, ?_⟩
  · rintro ⟨s, parsed⟩
    obtain ⟨key, xs, accepts, -⟩ := accepts_of_ofLine parsed
    exact ⟨key, xs, accepts⟩
  · rintro ⟨key, xs, accepts⟩
    obtain ⟨s, parsed, -⟩ := ofLine_of_accepts accepts
    exact ⟨s, parsed⟩
  · intro s key xs parsed accepts
    obtain ⟨s', parsed', carries⟩ := ofLine_of_accepts accepts
    cases parsed.symm.trans parsed'
    exact carries
  · rcases fails_or_accepts how (words line) with ⟨e', fails⟩ | ⟨key, xs, accepts⟩
    · cases failed.symm.trans (ofLine_of_fails fails)
      exact fails
    · obtain ⟨s, parsed, -⟩ := ofLine_of_accepts accepts
      cases failed.symm.trans parsed
  · intro text parsed
    obtain ⟨behind, first, last⟩ := words_of_message parsed
    exact ⟨words_eq_iff.1 behind, first, last⟩
  · intro line' cut'
    exact alike_of_words (words_of_splits cut')

/-- A measured move with its numbers in brackets, and a remark behind them. -/
def bracketed : List Char :=
  "MMOVE(0.5,, 24]\t[3.0) # fast".toList

theorem bracketed_is_measured_move : ∃ ws x y z, Splits bracketed ws ∧ ws.length = 6 ∧
    Accepts .exact ws .measuredMove [x, y, z] ∧
    ofLine .exact bracketed = .ok (.measuredMove ⟨x, y, z⟩) := by
  have cut : Splits bracketed ["MMOVE".toList, "0.5".toList, "24".toList, "3.0".toList, "#".toList,
      "fast".toList] := words_eq_iff.1 (by decide +kernel)
  have literal : ∀ w ∈ ["0.5".toList, "24".toList, "3.0".toList], (Literal.read? w).isSome = true := by
    decide +kernel
  obtain ⟨x, hx⟩ := Option.isSome_iff_exists.1 (literal "0.5".toList (by decide +kernel))
  obtain ⟨y, hy⟩ := Option.isSome_iff_exists.1 (literal "24".toList (by decide +kernel))
  obtain ⟨z, hz⟩ := Option.isSome_iff_exists.1 (literal "3.0".toList (by decide +kernel))
  have accepts : Accepts .exact _ .measuredMove [x, y, z] :=
    ⟨"MMOVE".toList, ["0.5".toList, "24".toList, "3.0".toList], ["#".toList, "fast".toList], rfl,
      by decide +kernel, rfl, .cons hx (.cons hy (.cons hz .nil)), nofun⟩
  obtain ⟨parses, carries, -⟩ := @ofLine_of_splits .exact _ _ cut
  obtain ⟨s, parsed⟩ := parses.2 ⟨_, _, accepts⟩
  cases carries s _ _ parsed accepts
  exact ⟨_, x, y, z, cut, rfl, accepts, parsed⟩

end Statement

end MatchRobot
