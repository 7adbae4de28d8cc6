import MatchRobot.Proofs.Script.Grammar

/-!
# Keywords that begin a word

Older scripts may go on after a keyword: under `KeywordMatch.leading` a word names the first keyword of the
table that it starts with. That sounds as if the order of the table mattered, and with keywords such as
`MOVE`, `MMOVE` and `MODE` it is not obvious that it does not. It does not because no keyword starts with
another one (`Keyword.eq_of_leading_chars`), so a word starts with one keyword at most
(`Keyword.eq_of_starts`).

A word that is a keyword therefore names the same one either way, and a line that is accepted with whole
keywords is read in the same way when they need only begin their word.
-/

namespace MatchRobot

namespace Keyword

section

variable {word : List Char} {k k' : Keyword} {t : List Keyword}

/-! ### Keywords and the words that start with them -/

/-- No keyword starts with another one. -/
lemma eq_of_leading_chars (h : k.chars <+: k'.chars) : k = k' := by
  have free : ∀ k ∈ table, ∀ k' ∈ table, k.chars.isPrefixOf k'.chars = true → k = k' := by
    decide +kernel
  exact free k (mem_table k) k' (mem_table k') (List.isPrefixOf_iff_prefix.2 h)

/-- A word starts with one keyword at most. -/
lemma eq_of_starts (h : k.chars <+: word) (h' : k'.chars <+: word) : k = k' := by
  rcases List.prefix_or_prefix_of_prefix h h' with shorter | longer
  · exact eq_of_leading_chars shorter
  · exact (eq_of_leading_chars longer).symm

lemma fits_leading_iff : fits .leading word k = true ↔ k.chars <+: word :=
  List.isPrefixOf_iff_prefix

lemma fits_exact_iff : fits .exact word k = true ↔ word = k.chars :=
  beq_iff_eq

/-! ### Searching a table -/

/-- At most one entry of the table is the beginning of a word. -/
lemma length_starting_le_one (word : List Char) :
    (table.filter (fits .leading word)).length ≤ 1 := by
  have distinct : (table.filter (fits .leading word)).Nodup :=
    List.Pairwise.filter _ (by decide : table.Nodup)
  have starts : ∀ k ∈ table.filter (fits .leading word), k.chars <+: word :=
    fun k hk => fits_leading_iff.1 (List.mem_filter.1 hk).2
  generalize table.filter (fits .leading word) = entries at distinct starts
  match entries with
  | [] => exact Nat.zero_le 1
  | [k] => exact le_rfl
  | k :: k' :: rest =>
    have same : k = k' := eq_of_starts (starts k (by simp)) (starts k' (by simp))
    rw [same] at distinct
    exact absurd (List.mem_cons_self ..) (List.nodup_cons.1 distinct).1

/-- Any table of all keywords finds the keyword that a word starts with. -/
lemma find?_leading_eq_some_iff (full : ∀ k, k ∈ t) :
    t.find? (fits .leading word) = some k ↔ k.chars <+: word := by
  constructor
  · intro found
    exact fits_leading_iff.1 (List.find?_some found)
  · intro starts
    have some_fits : (t.find? (fits .leading word)).isSome = true := by
      rw [List.find?_isSome]
      exact ⟨k, full k, fits_leading_iff.2 starts⟩
    obtain ⟨k', found⟩ := Option.isSome_iff_exists.1 some_fits
    have same : k' = k := eq_of_starts (fits_leading_iff.1 (List.find?_some found)) starts
    rw [found, same]

lemma lookup_leading_eq_some_iff : lookup .leading word = some k ↔ k.chars <+: word :=
  find?_leading_eq_some_iff mem_table

lemma lookup_exact_eq_some_iff : lookup .exact word = some k ↔ word = k.chars := by
  constructor
  · intro found
    exact fits_exact_iff.1 (List.find?_some found)
  · intro whole
    have some_fits : (lookup .exact word).isSome = true := by
      rw [lookup, List.find?_isSome]
      exact ⟨k, mem_table k, fits_exact_iff.2 whole⟩
    obtain ⟨k', found⟩ := Option.isSome_iff_exists.1 some_fits
    have same : k'.chars = k.chars := (fits_exact_iff.1 (List.find?_some found)).symm.trans whole
    rw [found, eq_of_leading_chars ⟨[], (List.append_nil _).trans same⟩]

/-- Searching for whole keywords finds nothing else than searching for beginnings. -/
lemma lookup_leading_of_exact (h : lookup .exact word = some k) : lookup .leading word = some k := by
  have whole : word = k.chars := lookup_exact_eq_some_iff.1 h
  exact lookup_leading_eq_some_iff.2 (whole ▸ List.prefix_rfl)

end

end Keyword

namespace Script

/-- A line whose keyword is a word of its own has the same keyword, and the same text behind it, when
keywords need only begin their word. -/
lemma splitKeyword_leading_of_exact {line args : List Char} {key : Keyword}
    (h : splitKeyword .exact line = .ok (key, args)) : splitKeyword .leading line = .ok (key, args) := by
  unfold splitKeyword at h ⊢
  split at h
  · cases h
  · split at h
    · cases h
    · next found =>
      rw [Keyword.lookup_leading_of_exact found]
      exact h

end Script

namespace Statement

/-- Matching by beginnings is unambiguous and extends matching by whole keywords. A word names the keyword that
it is, or that it starts with. It starts with one keyword of the table at most, so its keyword does not depend on
the order of the table. The keyword that a word is, is also the one that it starts with. So a line with a
statement has the same statement when keywords need only begin their word. -/
theorem leading_extends_exact :
    (∀ (word : List Char) (k : Keyword), (Keyword.lookup .exact word = some k ↔ word = k.chars) ∧
      (Keyword.lookup .leading word = some k ↔ k.chars <+: word)) ∧
    (∀ word : List Char, (Keyword.table.filter (Keyword.fits .leading word)).length ≤ 1) ∧
    (∀ (t : List Keyword), t.Perm Keyword.table → ∀ word : List Char,
      t.find? (Keyword.fits .leading word) = Keyword.lookup .leading word) ∧
    (∀ (word : List Char) (k : Keyword), Keyword.lookup .exact word = some k →
      Keyword.lookup .leading word = some k) ∧
    ∀ (line : List Char) (s : Statement), ofLine .exact line = .ok s → ofLine .leading line = .ok s := by
  refine ⟨fun word k => ⟨Keyword.lookup_exact_eq_some_iff, Keyword.lookup_leading_eq_some_iff⟩,
    Keyword.length_starting_le_one, ?_, fun word k => Keyword.lookup_leading_of_exact, ?_⟩
  · intro t order word
    have full : ∀ k, k ∈ t := fun k => order.mem_iff.2 (Keyword.mem_table k)
    ext k
    rw [Keyword.find?_leading_eq_some_iff full, Keyword.lookup_leading_eq_some_iff]
  · intro line s parsed
    cases split : Script.splitKeyword .exact line with
    | error e =>
      rw [ofLine, split] at parsed
      cases parsed
    | ok cut =>
      obtain ⟨key, args⟩ := cut
      rw [ofLine, split] at parsed
      rw [ofLine, Script.splitKeyword_leading_of_exact split]
      exact parsed

/-- A line with a keyword and nothing else. -/
def idleLine : List Char :=
  "[NOP]".toList

theorem movement_is_a_move :
    (Keyword.table.filter (Keyword.fits .leading "MOVEMENT".toList)).length ≤ 1 ∧
    Keyword.table.reverse.find? (Keyword.fits .leading "MOVEMENT".toList) = some .move ∧
    Keyword.lookup .exact "MMOVE".toList = some .measuredMove ∧
    Keyword.lookup .leading "MMOVE".toList = some .measuredMove ∧
    ofLine .exact idleLine = .ok .nop ∧ ofLine .leading idleLine = .ok .nop := by
  have whole : Keyword.lookup .exact "MMOVE".toList = some .measuredMove := by decide +kernel
  have idle : ofLine .exact idleLine = .ok .nop := by cbv
  obtain ⟨-, unique, reordered, extends_words, extends_lines⟩ := leading_extends_exact
  refine ⟨unique _, ?_, whole, extends_words _ _ whole, idle, extends_lines _ _ idle⟩
  rw [reordered _ (List.reverse_perm _)]
  decide +kernel

end Statement

end MatchRobot
