/-!
# Blank characters

The characters with the Unicode property `White_Space`, which is wider than the ASCII class of the
core library. A text counts as a comment when its first character that is not blank opens one.
-/

namespace MatchRobot

namespace Text

/-- The code points with the property `White_Space`, as closed ranges. -/
def blankRanges : List (Nat × Nat) :=
  [(0x9, 0xd), (0x20, 0x20), (0x85, 0x85), (0xa0, 0xa0), (0x1680, 0x1680), (0x2000, 0x200a),
    (0x2028, 0x2029), (0x202f, 0x202f), (0x205f, 0x205f), (0x3000, 0x3000)]

/-- Whether a character has the property `White_Space`. -/
def isBlank (c : Char) : Bool :=
  blankRanges.any fun (low, high) => low ≤ c.toNat && c.toNat ≤ high

/-- The text from its first character that is not blank. -/
def dropBlanks (cs : List Char) : List Char :=
  cs.dropWhile isBlank

end Text

end MatchRobot
