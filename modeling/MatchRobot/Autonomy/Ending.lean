/-!
# How calls and script runs end

A synchronous call fails because a target refused, because its lists do not match or because replies
are missing when its time is up. A script run ends at a statement that asks for it, after its last
line, or because the robot left autonomous.
-/

namespace MatchRobot

/-- Why a synchronous call failed. -/
inductive CallError
  /-- Every target answered, but at least one answered with an error. -/
  | rejected
  | lengthMismatch (targets commands : Nat)
  | timedOut (received expected : Nat)
  deriving Repr, DecidableEq

/-- The failure in words. -/
def CallError.text : CallError → String
  | rejected => "a subsystem answered with an error"
  | lengthMismatch targets commands =>
    toString targets ++ " targets for " ++ toString commands ++ " commands"
  | timedOut received expected =>
    "timed out after " ++ toString received ++ " of " ++ toString expected ++ " replies"

/-- Why a script run stopped. -/
inductive RunEnd
  /-- A line asked for it, or its keyword is no keyword. -/
  | terminated
  /-- Every line ran. -/
  | exhausted
  /-- The robot left autonomous between two lines. -/
  | leftAuto
  deriving Repr, DecidableEq

/-- What the sequencer is doing. -/
inductive SequencerState
  | idle
  | loading
  | running
  | paused
  | terminated
  deriving Repr, DecidableEq

/-- The name of a sequencer state. -/
def SequencerState.label : SequencerState → String
  | idle => "idle"
  | loading => "loading"
  | running => "running"
  | paused => "paused"
  | terminated => "terminated"

end MatchRobot
