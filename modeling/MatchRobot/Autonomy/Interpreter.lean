import MatchRobot.Autonomy.Call
import MatchRobot.Text.Blank

/-!
# The interpreter

The interpreter carries out one line of a script at a time. `Interpreter.evaluate` finds the keyword,
waits out any pause, reads the parameters and does what the statement says: most commands are posted
and forgotten, while measured moves, proximity moves and turns are synchronous calls that hold the
script until the drivetrain answers. Its result tells whether the script is over.

An `Evaluation` is a line under way, at one of the places where it can wait.
-/

namespace MatchRobot

/-- What is left to do once the message of a line is posted. -/
inductive AfterPost
  | report (status : String)
  /-- The last line of a script. -/
  | finish (line : String)
  /-- The arm moves on its own for a while. -/
  | settle

/-- A line under way. -/
inductive Evaluation
  /-- Its keyword is found, and a pause holds it. -/
  | held (keyword : Keyword) (args : List Char) (line : String)
  | posting (next : AfterPost)
  /-- A pause holds the delay between two of its slices. -/
  | delayHeld (waited total : Micros)
  | delaying (waited total : Micros)
  | calling (call : Call) (ok failed : String)
  | settling

/-- The interpreter between two lines. -/
structure Interpreter where
  caller : Caller
  config : AutoConfig
  /-- When the script began. -/
  started : Micros
  lineNumber : Nat := 0
  modeBlock : Int32 := 0
  /-- Lines whose keyword was recognised since the script began. -/
  dispatched : Nat := 0

namespace Interpreter

/-- An interpreter with its own caller. -/
def fresh (config : AutoConfig) (now : Micros) : Interpreter :=
  { caller := { timeout := config.replyTimeout }, config := config, started := now }

/-- The interpreter at the begin of a script. -/
def restart (i : Interpreter) (now : Micros) : Interpreter :=
  { i with started := now, lineNumber := 0, modeBlock := 0, dispatched := 0 }

/-- Seconds since the script began. -/
def elapsed (i : Interpreter) (now : Micros) : Float32 :=
  Single.ofCount (now - i.started) / 1000000

/-- Whether a line is passed over. -/
def isComment (line : List Char) : Bool :=
  (Text.dropBlanks line).head? == some Script.comment

/-! ### Reports -/

/-- What the dashboard shows for a line without a keyword. -/
def terminalStatus : ParseError → String
  | .missingToken => "missing token"
  | _ => "no tokens - check script spelling"

/-- What the dashboard shows for a line whose parameters are wrong. -/
def failureStatus : Keyword → String
  | .move | .measuredMove | .timedMove => "move error"
  | .proximityMove => "move line error"
  | .turn => "turn error"
  | _ => "missing parameter"

/-- Reports the result of a call. -/
def reportCall (i : Interpreter) (r : CallResult) (ok failed : String) (w : World) : World :=
  match r with
  | .ok () => w.status ok
  | .error e => (w.notice (.callFailed i.lineNumber e)).status failed

/-! ### Waiting -/

/-- The wait of a line that is held by a pause. -/
def holdWait (i : Interpreter) (w : World) : Except Fault Wait :=
  Wait.resumeFor w.now i.config.pausePoll

/-- Goes on with a delay, of which `waited` is over; each slice begins only while no pause is on. -/
def delay (i : Interpreter) (waited total : Micros) (w : World) :
    Except Fault (Stage Evaluation Bool Interpreter) :=
  if waited < total then
    if w.control.paused then do
      let wait ← i.holdWait w
      return (.waiting wait (.delayHeld waited total), i, w)
    else do
      let wait ← Wait.sleepFor w.now i.config.delaySlice
      return (.waiting wait (.delaying waited total), i, w)
  else .ok (.finished false, i, w)

/-- Posts a command that nobody answers. -/
def send (i : Interpreter) (a : Address) (c : Command) (next : AfterPost) (w : World) :
    Except Fault (Stage Evaluation Bool Interpreter) :=
  .ok (.waiting (.send a { command := c }) (.posting next), i, w)

/-- Takes up the result of a call, or waits on. -/
def follow (i : Interpreter) (ok failed : String) (w : World) :
    Progress Call CallResult → Stage Evaluation Bool Interpreter
  | .waiting wait c => (.waiting wait (.calling c ok failed), i, w)
  | .finished r => (.finished false, i, i.reportCall r ok failed w)

/-- Calls the drivetrain. -/
def call (i : Interpreter) (c : DriveCommand) (ok failed : String) (w : World) :
    Except Fault (Stage Evaluation Bool Interpreter) := do
  let (p, caller, w) ← Call.start i.caller [.drivetrain] [.drive c] w
  return follow { i with caller := caller } ok failed w p

/-! ### Statements -/

/-- Carries out a statement. -/
def execute (i : Interpreter) (s : Statement) (line : String) (w : World) :
    Except Fault (Stage Evaluation Bool Interpreter) :=
  match s with
  | .mode block => .ok (.finished false, { i with modeBlock := block }, w.notice (.modeBlock block))
  | .debug on => .ok (.finished false, i, w.setDebug on)
  | .message text =>
    .ok (.finished false, i, w.notice (.scriptMessage (i.elapsed w.now) i.lineNumber text))
  | .begin => i.send .drivetrain (.auto .run) (.report "begin") w
  | .finish => i.send .drivetrain (.auto .complete) (.finish line) w
  | .delay secs => i.delay 0 (Clock.seconds secs) (w.status "wait")
  | .move left right => i.send .drivetrain (.drive (.autoMove (-left) right)) (.report "move") w
  | .measuredMove params => i.call (.measuredMove params) "move" "move error" w
  | .proximityMove params => i.call (.proximityMove params) "move line" "move line error" w
  | .timedMove speed time => i.send .drivetrain (.drive (.timedMove speed time)) (.report "move") w
  | .turn angle timeout => i.call (.turn angle timeout) "turn" "turn error" w
  | .releaseGear =>
    i.send .gearIntake (.gear (.release i.config.gearSpeed)) (.report "gear release") w
  | .holdGear => i.send .gearIntake (.gear (.hold i.config.gearSpeed)) (.report "gear hold") w
  | .hangGear => i.send .gearFloor (.floor .hangGear) .settle w
  | .climber =>
    i.send .climber (.climber (.pulse i.config.climberSpeed)) (.report "climber run") w
  | .nop => .ok (.finished false, i, w)

/-- Reads the parameters of a line that no pause holds, and carries it out. -/
def dispatch (i : Interpreter) (k : Keyword) (args : List Char) (line : String) (w : World) :
    Except Fault (Stage Evaluation Bool Interpreter) :=
  let w := if w.control.debug then
    w.notice (.dispatching (i.elapsed w.now) k (String.ofList args)) else w
  let i := { i with dispatched := i.dispatched + 1 }
  match Statement.parse k args with
  | .ok s => i.execute s line w
  | .error e =>
    .ok (.finished false, i, (w.notice (.badParameters i.lineNumber e)).status (failureStatus k))

/-- Carries a line out as soon as no pause holds it. -/
def proceed (i : Interpreter) (k : Keyword) (args : List Char) (line : String) (w : World) :
    Except Fault (Stage Evaluation Bool Interpreter) :=
  if w.control.paused then do
    let wait ← i.holdWait w
    return (.waiting wait (.held k args line), i, w)
  else i.dispatch k args line w

/-- Reports a line without a keyword. -/
def refuse (i : Interpreter) (e : ParseError) (line : String) (w : World) : World :=
  let w := if e = .missingToken then w.status "DEATH BY PARAMS!" else w
  (w.status (terminalStatus e)).notice (.noKeyword (i.elapsed w.now) i.lineNumber e line)

/-- Runs one line; the result tells whether the script is over. -/
def evaluate (i : Interpreter) (line : String) (w : World) :
    Except Fault (Stage Evaluation Bool Interpreter) :=
  let cs := line.toList
  if cs = [] then .ok (.finished false, i, w.notice .emptyStatement)
  else if isComment cs then .ok (.finished false, i, w)
  else match Script.splitKeyword i.config.keywordMatch cs with
    | .error e => .ok (.finished true, i, i.refuse e line w)
    | .ok (k, args) => i.proceed k args line w

/-- Goes on with a line after a wait. -/
def resume (i : Interpreter) (e : Evaluation) (wake : Wake) (w : World) :
    Except Fault (Stage Evaluation Bool Interpreter) :=
  match e with
  | .held k args line => i.proceed k args line w
  | .posting (.report s) => .ok (.finished false, i, w.status s)
  | .posting (.finish line) =>
    .ok (.finished true, i, (w.status "done").notice (.scriptEnd (i.elapsed w.now) line))
  | .posting .settle => do
    let wait ← Wait.sleepFor w.now i.config.hangSettle
    return (.waiting wait .settling, i, w)
  | .settling => .ok (.finished false, i, w.status "gear hang macro")
  | .delayHeld waited total => i.delay waited total w
  | .delaying waited total => i.delay (waited + i.config.delaySlice) total w
  | .calling c ok failed => do
    let (p, w) ← c.resume wake w
    return i.follow ok failed w p

end Interpreter

end MatchRobot
