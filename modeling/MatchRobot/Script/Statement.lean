import MatchRobot.Message.Command
import MatchRobot.Number.Literal
import MatchRobot.Script.Keyword
import MatchRobot.Script.Word

/-!
# Statements

`splitKeyword` finds the keyword of a line and hands back the text behind it; `Statement.parse` reads
the parameters of the keyword from that text. Parameters are taken from left to right, and the first
one that is missing or malformed decides the error. What follows the last parameter is ignored.

An error in the keyword itself ends a script, one in the parameters only skips the line.
-/

namespace MatchRobot

/-- One line of a script. -/
inductive Statement
  | mode (block : Int32)
  | debug (on : Bool)
  | message (text : String)
  | begin
  | finish
  /-- Seconds. -/
  | delay (secs : Float32)
  | move (left right : Float32)
  | measuredMove (params : MoveParams)
  | proximityMove (params : MoveParams)
  | timedMove (speed time : Float32)
  | turn (angle timeout : Float32)
  | releaseGear
  | holdGear
  | hangGear
  | climber
  | nop

/-- Why a line is no statement. -/
inductive ParseError
  /-- The line holds nothing but delimiters. -/
  | missingToken
  | unknownKeyword
  | missingParameter (keyword : Keyword)
  | badNumber (keyword : Keyword)
  | outOfRange (keyword : Keyword)
  deriving Repr, DecidableEq

namespace ParseError

/-- Whether the error ends the script. -/
def terminates : ParseError → Bool
  | missingToken | unknownKeyword => true
  | _ => false

/-- The keyword of the line, if it has one. -/
def keyword? : ParseError → Option Keyword
  | missingToken | unknownKeyword => none
  | missingParameter k | badNumber k | outOfRange k => some k

/-- The error in words. -/
def text : ParseError → String
  | missingToken => "missing token"
  | unknownKeyword => "no tokens - check script spelling"
  | missingParameter k => k.text ++ ": missing parameter"
  | badNumber k => k.text ++ ": parameter is not a number"
  | outOfRange k => k.text ++ ": parameter out of range"

/-- An error ends the script exactly when the line has no keyword. -/
theorem terminates_iff {e : ParseError} : e.terminates = true ↔ e.keyword? = none := by
  cases e <;> simp [terminates, keyword?]

end ParseError

namespace Script

/-- The keyword of a line and the text behind it. -/
def splitKeyword (how : KeywordMatch) (line : List Char) :
    Except ParseError (Keyword × List Char) :=
  match next line with
  | (none, _) => .error .missingToken
  | (some w, rest) => match Keyword.lookup how w with
    | none => .error .unknownKeyword
    | some k => .ok (k, rest)

/-- The next parameter of a keyword and the text behind it. -/
def number (k : Keyword) (args : List Char) : Except ParseError (Float32 × List Char) :=
  match next args with
  | (none, _) => .error (.missingParameter k)
  | (some w, rest) => match Literal.read? w with
    | none => .error (.badNumber k)
    | some x => .ok (x, rest)

/-- The next `n` parameters of a keyword. -/
def numbers (k : Keyword) : Nat → List Char → Except ParseError (List Float32)
  | 0, _ => .ok []
  | n + 1, args => do
    let (x, rest) ← number k args
    let xs ← numbers k n rest
    return x :: xs

end Script

namespace Statement

/-- Whether a raw wheel speed is beyond what a script may ask for. -/
def tooFast (x : Float32) : Bool :=
  x.abs > Settings.maxVelocity

/-- The statement of a keyword with its parameters; too few of them are filled up with zeros. -/
def build (k : Keyword) (args : List Char) (xs : List Float32) : Except ParseError Statement :=
  let x (i : Nat) : Float32 := xs.getD i 0
  match k with
  | .mode => .ok (.mode (Single.toInt32 (x 0)))
  | .debug => .ok (.debug (x 0 != 0))
  | .message => .ok (.message (String.ofList (Script.trim args)))
  | .begin => .ok .begin
  | .finish => .ok .finish
  | .delay => .ok (.delay (x 0))
  | .move => if tooFast (x 0) || tooFast (x 1) then .error (.outOfRange .move)
    else .ok (.move (x 0) (x 1))
  | .measuredMove => .ok (.measuredMove ⟨x 0, x 1, x 2⟩)
  | .proximityMove => .ok (.proximityMove ⟨x 0, x 1, x 2⟩)
  | .timedMove => .ok (.timedMove (x 0) (x 1))
  | .turn => .ok (.turn (x 0) (x 1))
  | .releaseGear => .ok .releaseGear
  | .holdGear => .ok .holdGear
  | .hangGear => .ok .hangGear
  | .climber => .ok .climber
  | .nop => .ok .nop

/-- Reads the parameters of a keyword from the text behind it. -/
def parse (k : Keyword) (args : List Char) : Except ParseError Statement := do
  let xs ← Script.numbers k k.arity args
  build k args xs

end Statement

end MatchRobot
