import MatchRobot.Report.Journal

/-!
# A recorder for dashboard texts

A `Recorder` keeps the most recent texts of a dashboard, cut to the room that it has for keys and
values, and counts the numbers. A lamp counts as the text `true` or `false`. When the recorder is full
the oldest text makes room for a new one.
-/

namespace MatchRobot

/-- The most recent dashboard texts, the oldest first. -/
structure Recorder where
  texts : List (String × String) := []
  numbers : Nat := 0
  deriving Repr

namespace Recorder

/-- How many texts are kept. -/
def depth : Nat := 64

/-- The bytes of a key that are kept. -/
def keyRoom : Nat := 24

/-- The bytes of a value that are kept. -/
def valueRoom : Nat := 40

/-- The leading characters that fit a number of bytes. -/
def fitting : Nat → List Char → List Char
  | _, [] => []
  | room, c :: rest => if c.utf8Size ≤ room then c :: fitting (room - c.utf8Size) rest else []

/-- The leading part of a text that fits a number of bytes. -/
def cut (room : Nat) (s : String) : String :=
  String.ofList (fitting room s.toList)

/-- Keeps a text. -/
def putText (r : Recorder) (key value : String) : Recorder :=
  let kept := if depth ≤ r.texts.length then r.texts.drop 1 else r.texts
  { r with texts := kept ++ [(cut keyRoom key, cut valueRoom value)] }

/-- Counts a number. -/
def putNumber (r : Recorder) : Recorder :=
  { r with numbers := r.numbers + 1 }

/-- Keeps a lamp as a text. -/
def putFlag (r : Recorder) (key : String) (value : Bool) : Recorder :=
  r.putText key (if value then "true" else "false")

/-- The latest value under a key. -/
def last? (r : Recorder) (key : String) : Option String :=
  (r.texts.reverse.find? fun e => e.1 == key).map Prod.snd

/-- Whether a value stands under a key and has not made room for newer ones. -/
def saw (r : Recorder) (key value : String) : Bool :=
  r.texts.any fun e => e.1 == key && e.2 == value

/-- A recorder that keeps to its depth does so after another text. -/
theorem length_putText_le {r : Recorder} (h : r.texts.length ≤ depth) (key value : String) :
    (r.putText key value).texts.length ≤ depth := by
  unfold putText
  split <;> simp [depth] at * <;> omega

end Recorder

end MatchRobot
