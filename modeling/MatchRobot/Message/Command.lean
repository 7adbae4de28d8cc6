import MatchRobot.Message.Mode
import MatchRobot.Message.Address
import MatchRobot.Number.Single

/-!
# Commands and messages

A command tells a task what to do. Each family of commands belongs to one subsystem and carries only
the parameters that it needs. A message is a command together with the mailbox that an answer has to
go to, if the sender waits for one, and the number of the call that it belongs to.

Two commands are compared by the numbers they carry, so a command with a `NaN` differs from itself.
-/

namespace MatchRobot

/-- Commands of the system itself. -/
inductive SystemCommand
  /-- Stands for a message when the mailbox stayed quiet for a whole cycle. -/
  | msgTimeout
  | constants (battery : Float32)
  deriving BEq

/-- Commands about a script session. -/
inductive AutoCommand
  /-- A script session begins. -/
  | run
  /-- The script session is over. -/
  | complete
  | responseOk
  | responseError
  deriving BEq

/-- The parameters of a move over a distance. -/
structure MoveParams where
  speed : Float32
  /-- Inches to travel for a measured move, inches to stand off for a proximity move. -/
  distance : Float32
  /-- Seconds. -/
  timeout : Float32
  deriving BEq

/-- Commands to the drivetrain. -/
inductive DriveCommand
  | stop
  | tank (left right : Float32)
  | cheesy (wheel throttle : Float32) (quickturn : Bool)
  | autoMove (left right : Float32)
  | measuredMove (params : MoveParams)
  | proximityMove (params : MoveParams)
  | timedMove (speed time : Float32)
  | turn (angle timeout : Float32)
  deriving BEq

/-- Commands to the gear intake. -/
inductive GearCommand
  | hold (speed : Float32)
  | release (speed : Float32)
  | stop
  deriving BEq

/-- Commands to the gear floor intake. -/
inductive FloorCommand
  | floorPosition
  | drivePosition
  | releasePosition
  | nextPosition
  | previousPosition
  | pullIn (speed : Float32)
  | pushOut (speed : Float32)
  | stop
  | hangGear
  deriving BEq

/-- Commands to the climber. -/
inductive ClimberCommand
  | up (speed : Float32)
  | down (speed : Float32)
  | stop
  /-- A short timed climb, used by scripts. -/
  | pulse (speed : Float32)
  deriving BEq

/-- Commands to the hopper. -/
inductive HopperCommand
  | up (speed : Float32)
  | down (speed : Float32)
  | stop
  deriving BEq

/-- What a message tells its receiver. -/
inductive Command
  | state (mode : Mode)
  | system (command : SystemCommand)
  | auto (command : AutoCommand)
  | drive (command : DriveCommand)
  | gear (command : GearCommand)
  | floor (command : FloorCommand)
  | climber (command : ClimberCommand)
  | hopper (command : HopperCommand)
  deriving BEq

/-- What a subsystem answers to a synchronous call. -/
inductive Reply
  | ok
  | error
  deriving Repr, DecidableEq

/-- The command that carries a reply. -/
def Reply.toCommand : Reply → Command
  | ok => .auto .responseOk
  | error => .auto .responseError

/-- The reply that a command carries, if it is one. -/
def Command.asReply : Command → Option Reply
  | auto .responseOk => some .ok
  | auto .responseError => some .error
  | _ => none

/-- Whether this is the command of a quiet cycle. -/
def Command.isTimeout : Command → Bool
  | system .msgTimeout => true
  | _ => false

@[simp] theorem Reply.asReply_toCommand (r : Reply) : r.toCommand.asReply = some r := by
  cases r <;> rfl

/-- A command on its way to a mailbox. -/
structure Message where
  command : Command
  /-- Where an answer goes, if the sender waits for one. -/
  replyTo : Option Address := none
  /-- The call that the message belongs to; zero when it belongs to none. -/
  callId : UInt32 := 0
  deriving BEq

namespace Message

/-- The message of a quiet cycle. -/
def timeout : Message :=
  { command := .system .msgTimeout }

/-- Whether the sender waits for an answer. -/
def expectsReply (m : Message) : Bool :=
  m.replyTo.isSome

/-- The answer to a message, under the number of its call. -/
def answer (m : Message) (r : Reply) : Message :=
  { command := r.toCommand, callId := m.callId }

end Message

end MatchRobot
