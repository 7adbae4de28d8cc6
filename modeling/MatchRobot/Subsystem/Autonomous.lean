import MatchRobot.Autonomy.Sequencer
import MatchRobot.Subsystem.Basic

/-!
# The autonomous task

Loads the script and runs it whenever the robot enters autonomous, or on request. The whole script
runs inside one cycle of this task, so it hears of no mode meanwhile; that autonomous ended is noticed
by the sequencer between two lines and by the drivetrain inside its moves.
-/

namespace MatchRobot

/-- The autonomous task. -/
structure Autonomous where
  pilot : Pilot
  /-- How many runs have begun. -/
  runs : Nat := 0

namespace Autonomous

/-- The name of the task in log messages. -/
def stamp : String := "[AUTONOMOUS]"

/-- Goes on from a script run. -/
def follow (a : Autonomous) : Stage Run RunResult Pilot → Stage Run Unit Autonomous
  | (.waiting wait r, p, w) => (.waiting wait r, { a with pilot := p }, w)
  | (.finished (.ok why), p, w) =>
    let w := w.notice (.runFinished a.runs why)
    (.finished (), { a with pilot := p },
      w.tell (.number "Auto Commands" (Single.ofCount p.interpreter.dispatched)))
  | (.finished (.error e), p, w) =>
    (.finished (), { a with pilot := p }, w.notice (.runRefused e))

/-- Loads the script and runs it. -/
def runScript (a : Autonomous) (w : World) : Except Fault (Stage Run Unit Autonomous) :=
  let (r, p, w) := a.pilot.load w
  let a := { a with pilot := p }
  match r with
  | .error e => .ok (.finished (), a, (w.status "no script").notice (.notRunning e))
  | .ok lines => do
    let w := w.notice (.scriptReady lines)
    let a := { a with runs := a.runs + 1 }
    let stage ← a.pilot.run w
    return a.follow stage

/-- The same stage with the reply of this task, which is never an error. -/
def agreed {ι σ : Type} : Stage ι Unit σ → Stage ι Reply σ
  | (.waiting wait r, a, w) => (.waiting wait r, a, w)
  | (.finished (), a, w) => (.finished .ok, a, w)

/-- Handles a command: only the request for a run has an effect. -/
def handle (c : Command) (a : Autonomous) (w : World) :
    Except Fault (Stage Run Reply Autonomous) :=
  match c with
  | .auto .run => do
    let stage ← a.runScript w
    return agreed stage
  | _ => .ok (replied .ok a w)

/-- Hears of a mode. -/
def enter (m : Mode) (a : Autonomous) (w : World) : Except Fault (Stage Run Unit Autonomous) :=
  if m.inAuto then a.runScript w else .ok (.finished (), a, w)

/-- The safety check only reports. -/
def check (a : Autonomous) (w : World) : Bool × Autonomous × World :=
  (false, a, w.tell (.text "Auto State" (a.pilot.sequencer.state w).label))

instance : Subsystem Autonomous where
  Job := Run
  address := .autonomous
  stamp := stamp
  cycle _ := Settings.componentCycle
  enter := enter
  check := check
  handle := handle
  resume r wake a w := do
    let stage ← a.pilot.resume r wake w
    return agreed (a.follow stage)
  attach a _ := a

end Autonomous

end MatchRobot
