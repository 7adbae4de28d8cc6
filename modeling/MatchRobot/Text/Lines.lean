/-!
# Lines of a text

A line ends at a line feed, which may have one carriage return in front of it; the last line may
lack its end. A carriage return anywhere else belongs to its line.
-/

namespace MatchRobot

namespace Text

/-- The lines of a text, without their ends. -/
def lines : List Char → List (List Char)
  | [] => []
  | '\r' :: '\n' :: rest => [] :: lines rest
  | '\n' :: rest => [] :: lines rest
  | c :: rest => match lines rest with
    | [] => [[c]]
    | line :: more => (c :: line) :: more

end Text

end MatchRobot
