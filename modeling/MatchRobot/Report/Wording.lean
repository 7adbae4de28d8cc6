import MatchRobot.Number.Decimal
import MatchRobot.Report.Notice

/-!
# The wording of notices

How each notice reads in the log. Values are shown in the way of a data listing: a constructor with
its arguments in parentheses, a record with its named fields in braces, numbers with at least one
place. `Notice.text` gives the whole line.
-/

namespace MatchRobot

namespace Wording

/-! ### Shapes of values -/

/-- A constructor with one argument. -/
def applied (name argument : String) : String :=
  name ++ "(" ++ argument ++ ")"

/-- A record with named fields. -/
def record (name : String) (fields : List (String × String)) : String :=
  name ++ " \x7b " ++ ", ".intercalate (fields.map fun (key, value) => key ++ ": " ++ value) ++ " \x7d"

/-- A number with at least one place. -/
def number (x : Float32) : String :=
  Decimal.general x

/-- A record whose fields are numbers. -/
def numbers (name : String) (fields : List (String × Float32)) : String :=
  record name (fields.map fun (key, x) => (key, number x))

/-- A truth value. -/
def bool (b : Bool) : String :=
  if b then "true" else "false"

/-- An optional number. -/
def orNone : Option Float32 → String
  | none => "None"
  | some x => applied "Some" (number x)

/-- A natural number with at least three digits. -/
def threeDigits (n : Nat) : String :=
  let ds := Decimal.digitsOf n
  String.ofList (List.replicate (3 - ds.length) '0' ++ ds)

/-! ### Commands -/

/-- A mode as a value. -/
def mode : Mode → String
  | .disabled => "Disabled"
  | .autonomous => "Autonomous"
  | .teleoperated => "Teleoperated"
  | .test => "Test"
  | .unknown => "Unknown"

/-- A system command as a value. -/
def system : SystemCommand → String
  | .msgTimeout => "MsgTimeout"
  | .constants battery => numbers "Constants" [("battery_voltage", battery)]

/-- A session command as a value. -/
def auto : AutoCommand → String
  | .run => "Run"
  | .complete => "Complete"
  | .responseOk => "ResponseOk"
  | .responseError => "ResponseError"

/-- The parameters of a move as a value. -/
def params (p : MoveParams) : String :=
  numbers "MoveParams" [("speed", p.speed), ("distance", p.distance), ("timeout", p.timeout)]

/-- A drivetrain command as a value. -/
def drive : DriveCommand → String
  | .stop => "Stop"
  | .tank left right => numbers "Tank" [("left", left), ("right", right)]
  | .cheesy wheel throttle quickturn =>
    record "Cheesy" [("wheel", number wheel), ("throttle", number throttle),
      ("quickturn", bool quickturn)]
  | .autoMove left right => numbers "AutoMove" [("left", left), ("right", right)]
  | .measuredMove p => applied "MeasuredMove" (params p)
  | .proximityMove p => applied "ProximityMove" (params p)
  | .timedMove speed time => numbers "TimedMove" [("speed", speed), ("time", time)]
  | .turn angle timeout => numbers "Turn" [("angle", angle), ("timeout", timeout)]

/-- A gear intake command as a value. -/
def gear : GearCommand → String
  | .hold speed => applied "Hold" (number speed)
  | .release speed => applied "Release" (number speed)
  | .stop => "Stop"

/-- A floor intake command as a value. -/
def floor : FloorCommand → String
  | .floorPosition => "FloorPosition"
  | .drivePosition => "DrivePosition"
  | .releasePosition => "ReleasePosition"
  | .nextPosition => "NextPosition"
  | .previousPosition => "PreviousPosition"
  | .pullIn speed => applied "PullIn" (number speed)
  | .pushOut speed => applied "PushOut" (number speed)
  | .stop => "Stop"
  | .hangGear => "HangGear"

/-- A climber command as a value. -/
def climber : ClimberCommand → String
  | .up speed => applied "Up" (number speed)
  | .down speed => applied "Down" (number speed)
  | .stop => "Stop"
  | .pulse speed => applied "Pulse" (number speed)

/-- A hopper command as a value. -/
def hopper : HopperCommand → String
  | .up speed => applied "Up" (number speed)
  | .down speed => applied "Down" (number speed)
  | .stop => "Stop"

/-- A command as a value. -/
def command : Command → String
  | .state m => applied "State" (mode m)
  | .system c => applied "System" (system c)
  | .auto c => applied "Auto" (auto c)
  | .drive c => applied "Drive" (drive c)
  | .gear c => applied "Gear" (gear c)
  | .floor c => applied "Floor" (floor c)
  | .climber c => applied "Climber" (climber c)
  | .hopper c => applied "Hopper" (hopper c)

/-! ### Other values -/

/-- The end of a motion session as a value. -/
def moveEnd : MoveEnd → String
  | .reached => "Reached"
  | .timedOut => "TimedOut"
  | .cancelled => "Cancelled"

/-- The end of a script run as a value. -/
def runEnd : RunEnd → String
  | .terminated => "Terminated"
  | .exhausted => "Exhausted"
  | .leftAuto => "LeftAuto"

/-- An instant as a value. -/
def instant (t : Micros) : String :=
  record "Instant" [("ticks", toString t)]

/-- A grip as a value. -/
def grip : Grip → String
  | .opened => "Open"
  | .opening since => record "Opening" [("since", instant since)]
  | .closing since => record "Closing" [("since", instant since)]
  | .closed => "Closed"

/-- Setpoints as a value. -/
def setpoints (s : ArmSetpoints) : String :=
  numbers "ArmSetpoints" [("floor", s.floor), ("drive", s.drive), ("release", s.release)]

/-! ### Stamps -/

/-- The stamp of everything that carries out a script. -/
def autoStamp : String := "[AUTO] "

/-- The stamp of the autonomous task. -/
def taskStamp : String := "[AUTONOMOUS] "

/-- The stamp of the drivetrain. -/
def driveStamp : String := "[DRIVETRAIN] "

/-- The stamp of the floor intake. -/
def floorStamp : String := "[GEAR_FLOOR] "

/-- Seconds with three places. -/
def seconds (x : Float32) : String :=
  Decimal.places 3 x

/-- A measured value with one place. -/
def tenths (x : Float32) : String :=
  Decimal.places 1 x

end Wording

open Wording in
/-- How a notice reads. -/
def Notice.text : Notice → String
  | pulseFailed value => "[PWM] Error writing output " ++ Decimal.plain value ++ " Broken"
  | dropped box c => "[POST] " ++ box.path ++ " full, dropped " ++ command c
  | starting stamp address => stamp ++ " starting on " ++ address.path
  | modeHeard stamp m => stamp ++ " state " ++ m.display
  | cutoff stamp c => stamp ++ " safety cutoff, skipped " ++ command c
  | commandHeard stamp c => stamp ++ " received " ++ command c
  | modeChanged before after => "[DISPATCHER] " ++ before.display ++ " -> " ++ after.display
  | overCurrent stamp amps => stamp ++ " " ++ tenths amps ++ " A, stopping"
  | armOverCurrent amps => floorStamp ++ "arm at " ++ tenths amps ++ " A, holding"
  | pulseStarted speed => "[CLIMBER] pulse at " ++ Decimal.plain speed
  | gripChanged before after => "[GEAR_INTAKE] " ++ grip before ++ " -> " ++ grip after
  | armZeroed s => floorStamp ++ "zeroed " ++ setpoints s
  | hangGear => floorStamp ++ "hang gear"
  | macroDropped count =>
    floorStamp ++ "dropped " ++ toString count ++ " commands queued during the macro"
  | encodersNotZero => driveStamp ++ "encoder did not zero"
  | rangeTaken range standoff =>
    driveStamp ++ "range " ++ tenths range ++ " in, stopping " ++ Decimal.plain standoff
      ++ " in short"
  | straightEnded why travelled target =>
    driveStamp ++ "straight move " ++ moveEnd why ++ ", travelled " ++ toString travelled ++ " of "
      ++ orNone target ++ " counts"
  | turnEnded why angle => driveStamp ++ "turn " ++ moveEnd why ++ " at " ++ tenths angle ++ " degrees"
  | timedEnded why => driveStamp ++ "timed move " ++ moveEnd why
  | sessionBegins => driveStamp ++ "autonomous session begins"
  | sessionComplete => driveStamp ++ "autonomous session complete"
  | paused => autoStamp ++ "paused"
  | resumed => autoStamp ++ "resumed"
  | callMismatch targets commands =>
    autoStamp ++ toString targets ++ " targets for " ++ toString commands
      ++ " commands, nothing sent"
  | staleReplies count => autoStamp ++ "dropped " ++ toString count ++ " late replies"
  | lateReply call => autoStamp ++ "dropped a late reply to call " ++ toString call
  | strayCommand c => autoStamp ++ "ignoring " ++ command c ++ " on the reply channel"
  | replyCounted received expected =>
    autoStamp ++ "response " ++ toString received ++ "/" ++ toString expected
  | repliesMissing received expected =>
    autoStamp ++ "only " ++ toString received ++ " of " ++ toString expected ++ " replies arrived"
  | emptyStatement => autoStamp ++ "statement is empty"
  | noKeyword elapsed n error line =>
    autoStamp ++ seconds elapsed ++ " line " ++ toString n ++ ": " ++ error.text ++ ": " ++ line
  | dispatching elapsed keyword args =>
    autoStamp ++ seconds elapsed ++ " " ++ keyword.text ++ " " ++ args
  | badParameters n error => autoStamp ++ "line " ++ toString n ++ ": " ++ error.text
  | modeBlock block => autoStamp ++ "mode block " ++ toString block
  | scriptMessage elapsed n text =>
    autoStamp ++ seconds elapsed ++ " " ++ threeDigits n ++ ": " ++ text
  | scriptEnd elapsed line => autoStamp ++ seconds elapsed ++ " " ++ line
  | callFailed n error => autoStamp ++ "line " ++ toString n ++ ": " ++ error.text
  | scriptLoaded lines => autoStamp ++ "loaded " ++ toString lines ++ " lines"
  | loadFailed error => autoStamp ++ "load failed: " ++ error.text
  | leftAuto n => autoStamp ++ "left autonomous before line " ++ toString n
  | runEnded why dispatched =>
    autoStamp ++ runEnd why ++ " after " ++ toString dispatched ++ " commands"
  | scriptReady lines => taskStamp ++ "script ready, " ++ toString lines ++ " lines"
  | notRunning error => taskStamp ++ "not running: " ++ error.text
  | runFinished run why => taskStamp ++ "run " ++ toString run ++ " ended: " ++ runEnd why
  | runRefused error => taskStamp ++ error.text

end MatchRobot
