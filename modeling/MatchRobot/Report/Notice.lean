import MatchRobot.Autonomy.Ending
import MatchRobot.Drive.Motion
import MatchRobot.Gear.Arm
import MatchRobot.Gear.Grip
import MatchRobot.Message.Command
import MatchRobot.Script.Statement
import MatchRobot.Script.Storage

/-!
# Notices

A notice is one thing that the program tells its log. It carries the values it speaks of and no text;
how it reads is decided in `MatchRobot.Report.Wording`, and how urgent it is by `Notice.level`.
-/

namespace MatchRobot

/-- How urgent a notice is. -/
inductive Level
  | debug
  | info
  | warning
  | error
  deriving Repr, DecidableEq

/-- How a line of the log names its urgency. -/
def Level.label : Level → String
  | debug => "DEBUG"
  | info => "INFO"
  | warning => "WARN"
  | error => "ERROR"

/-- One thing that the program tells its log. A `stamp` names the subsystem that speaks, and an
`elapsed` time is in seconds since the script began. -/
inductive Notice
  /-- A pulse channel refused an output. -/
  | pulseFailed (value : Float32)
  /-- A full mailbox dropped a command. -/
  | dropped (box : Address) (command : Command)
  /-- A subsystem begins to listen. -/
  | starting (stamp : String) (address : Address)
  | modeHeard (stamp : String) (mode : Mode)
  /-- A command is skipped because the safety check cut the power. -/
  | cutoff (stamp : String) (command : Command)
  | commandHeard (stamp : String) (command : Command)
  | modeChanged (before after : Mode)
  | overCurrent (stamp : String) (amps : Float32)
  | armOverCurrent (amps : Float32)
  | pulseStarted (speed : Float32)
  | gripChanged (before after : Grip)
  | armZeroed (setpoints : ArmSetpoints)
  | hangGear
  /-- Commands that arrived during the macro are thrown away. -/
  | macroDropped (count : Nat)
  | encodersNotZero
  | rangeTaken (range standoff : Float32)
  | straightEnded (why : MoveEnd) (travelled : Int32) (target : Option Float32)
  | turnEnded (why : MoveEnd) (angle : Float32)
  | timedEnded (why : MoveEnd)
  | sessionBegins
  | sessionComplete
  | paused
  | resumed
  /-- A call with lists of different lengths. -/
  | callMismatch (targets commands : Nat)
  | staleReplies (count : Nat)
  | lateReply (call : UInt32)
  | strayCommand (command : Command)
  | replyCounted (received expected : Nat)
  | repliesMissing (received expected : Nat)
  | emptyStatement
  | noKeyword (elapsed : Float32) (number : Nat) (error : ParseError) (line : String)
  | dispatching (elapsed : Float32) (keyword : Keyword) (args : String)
  | badParameters (number : Nat) (error : ParseError)
  | modeBlock (block : Int32)
  | scriptMessage (elapsed : Float32) (number : Nat) (text : String)
  | scriptEnd (elapsed : Float32) (line : String)
  | callFailed (number : Nat) (error : CallError)
  | scriptLoaded (lines : Nat)
  | loadFailed (error : ScriptError)
  | leftAuto (number : Nat)
  | runEnded (why : RunEnd) (dispatched : Nat)
  | scriptReady (lines : Nat)
  | notRunning (error : ScriptError)
  | runFinished (run : Nat) (why : RunEnd)
  | runRefused (error : ScriptError)

/-- How urgent a notice is. -/
def Notice.level : Notice → Level
  | commandHeard .. | replyCounted .. | emptyStatement => .debug
  | dropped .. | cutoff .. | overCurrent .. | armOverCurrent .. | encodersNotZero
  | staleReplies .. | lateReply .. | strayCommand .. | badParameters .. | callFailed .. => .warning
  | pulseFailed .. | callMismatch .. | repliesMissing .. | noKeyword .. | loadFailed ..
  | notRunning .. | runRefused .. => .error
  | _ => .info

end MatchRobot
