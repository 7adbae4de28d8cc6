import MatchRobot.Autonomy.Interpreter

/-!
# The sequencer

The sequencer walks a loaded script line by line through the interpreter.

```text
idle -> loading -> running <-> paused
                      |
                      v
                  terminated
```

A load that fails falls back to idle, and only another load leads out of `terminated`. Between two
lines a run looks at the mode flag and ends when the robot has left autonomous. Blank lines and
comments are passed over.

A `Pilot` is a sequencer with its interpreter, and a `Run` is a script run in the middle of a line.
-/

namespace MatchRobot

/-- Where a sequencer stands, leaving pauses aside. -/
inductive SequencerPhase
  | idle
  | loading
  | running
  | terminated
  deriving Repr, DecidableEq

/-- A sequencer with its script. -/
structure Sequencer where
  script : StoredScript := {}
  phase : SequencerPhase := .idle
  deriving Repr

namespace Sequencer

/-- What the sequencer is doing; a run that is paused shows as such. -/
def state (s : Sequencer) (w : World) : SequencerState :=
  match s.phase with
  | .idle => .idle
  | .loading => .loading
  | .running => if w.control.paused then .paused else .running
  | .terminated => .terminated

/-- Replaces the script; after a failure the old script is gone too. The result is the number of
lines. -/
def load (s : Sequencer) (w : World) : Except ScriptError Nat × Sequencer × World :=
  match w.source.load with
  | .ok script =>
    (.ok script.length, { s with script := script, phase := .loading },
      w.notice (.scriptLoaded script.length))
  | .error e => (.error e, { script := {}, phase := .idle }, w.notice (.loadFailed e))

end Sequencer

/-- A sequencer with its interpreter. -/
structure Pilot where
  sequencer : Sequencer := {}
  interpreter : Interpreter

/-- A script run in the middle of a line. -/
structure Run where
  line : Evaluation
  /-- The lines that follow, with their numbers counted from one. -/
  rest : List (Nat × String)

/-- How a script run ended, or why there was none. -/
abbrev RunResult := Except ScriptError RunEnd

/-- The lines of a script with their numbers counted from one. -/
def StoredScript.numbered (s : StoredScript) : List (Nat × String) :=
  s.lines.zipIdx.map fun (line, n) => (n + 1, line)

namespace Pilot

/-- A pilot without a script. -/
def fresh (config : AutoConfig) (now : Micros) : Pilot :=
  { interpreter := Interpreter.fresh config now }

/-- Loads the script anew. -/
def load (p : Pilot) (w : World) : Except ScriptError Nat × Pilot × World :=
  let (r, s, w) := p.sequencer.load w
  (r, { p with sequencer := s }, w)

/-- Ends a run. -/
def finish (p : Pilot) (why : RunEnd) (w : World) : Stage Run RunResult Pilot :=
  (.finished (.ok why),
    { p with sequencer := { p.sequencer with phase := .terminated } },
    w.notice (.runEnded why p.interpreter.dispatched))

/-- Runs the given lines, up to the first that waits. -/
def advance (p : Pilot) (w : World) :
    List (Nat × String) → Except Fault (Stage Run RunResult Pilot)
  | [] => .ok (p.finish .exhausted w)
  | (n, line) :: rest =>
    if !w.mode.inAuto then .ok (p.finish .leftAuto (w.notice (.leftAuto n)))
    else if Script.isSkippable line.toList then p.advance w rest
    else do
      let (progress, i, w) ← { p.interpreter with lineNumber := n }.evaluate line w
      let p := { p with interpreter := i }
      match progress with
      | .waiting wait e => return (.waiting wait ⟨e, rest⟩, p, w)
      | .finished true => return p.finish .terminated w
      | .finished false => p.advance w rest

/-- Runs the loaded script; each load is good for one run. -/
def run (p : Pilot) (w : World) : Except Fault (Stage Run RunResult Pilot) :=
  if p.sequencer.phase = .loading then
    let p : Pilot :=
      { sequencer := { p.sequencer with phase := .running }
        interpreter := p.interpreter.restart w.now }
    p.advance w p.sequencer.script.numbered
  else .ok (.finished (.error .notLoaded), p, w)

/-- Goes on with a run after a wait. -/
def resume (p : Pilot) (r : Run) (wake : Wake) (w : World) :
    Except Fault (Stage Run RunResult Pilot) := do
  let (progress, i, w) ← p.interpreter.resume r.line wake w
  let p := { p with interpreter := i }
  match progress with
  | .waiting wait e => return (.waiting wait ⟨e, r.rest⟩, p, w)
  | .finished true => return p.finish .terminated w
  | .finished false => p.advance w r.rest

end Pilot

end MatchRobot
