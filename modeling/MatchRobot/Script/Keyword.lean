import MatchRobot.Settings

/-!
# Keywords

The first word of a line is looked up in a table of sixteen keywords. Under `KeywordMatch.exact` the
word has to equal a keyword; under `KeywordMatch.leading` the first keyword of the table that the
word starts with is taken.
-/

namespace MatchRobot

/-- The keywords of the script language. -/
inductive Keyword
  | mode
  | debug
  | message
  | begin
  | finish
  | delay
  | move
  | measuredMove
  | proximityMove
  | timedMove
  | turn
  | releaseGear
  | holdGear
  | hangGear
  | climber
  | nop
  deriving Repr, DecidableEq

namespace Keyword

/-- The keywords in the order in which they are tried. -/
def table : List Keyword :=
  [mode, debug, message, begin, finish, delay, move, measuredMove, proximityMove, timedMove, turn,
    releaseGear, holdGear, hangGear, climber, nop]

/-- The spelling of a keyword. -/
def text : Keyword → String
  | mode => "MODE"
  | debug => "DEBUG"
  | message => "MESSAGE"
  | begin => "BEGIN"
  | finish => "END"
  | delay => "DELAY"
  | move => "MOVE"
  | measuredMove => "MMOVE"
  | proximityMove => "PMOVE"
  | timedMove => "TMOVE"
  | turn => "TURN"
  | releaseGear => "RGEAR"
  | holdGear => "HGEAR"
  | hangGear => "GEARM"
  | climber => "CLIMBER"
  | nop => "NOP"

/-- The characters of a keyword. -/
def chars (k : Keyword) : List Char :=
  k.text.toList

/-- Whether a word names a keyword. -/
def fits (how : KeywordMatch) (word : List Char) (k : Keyword) : Bool :=
  match how with
  | .exact => word == k.chars
  | .leading => k.chars.isPrefixOf word

/-- The first keyword that a word names. -/
def lookup (how : KeywordMatch) (word : List Char) : Option Keyword :=
  table.find? (fits how word)

/-- How many numbers follow a keyword. -/
def arity : Keyword → Nat
  | mode | debug | delay => 1
  | move | timedMove | turn => 2
  | measuredMove | proximityMove => 3
  | _ => 0

theorem mem_table (k : Keyword) : k ∈ table := by
  cases k <;> decide

end Keyword

end MatchRobot
