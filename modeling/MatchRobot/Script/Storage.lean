import MatchRobot.Settings
import MatchRobot.Text.Lines

/-!
# Stored scripts

A script is every line of its text in order, comments and blank lines included, so that the line
numbers of reports agree with the text. The number of lines and the bytes of a line are both bounded;
a text that goes over either is refused as a whole.
-/

namespace MatchRobot

/-- Why there is no script to run. -/
inductive ScriptError
  /-- Nothing stands where the script should be. -/
  | missing
  | unreadable
  | tooManyLines (capacity : Nat)
  /-- The number of the line, counted from one. -/
  | lineTooLong (line : Nat)
  /-- A run was asked for without a freshly loaded script. -/
  | notLoaded
  deriving Repr, DecidableEq

/-- The error in words. -/
def ScriptError.text : ScriptError → String
  | missing => "script not found"
  | unreadable => "script could not be read"
  | tooManyLines capacity => "script is longer than " ++ toString capacity ++ " lines"
  | lineTooLong line =>
    "line " ++ toString line ++ " is longer than " ++ toString Settings.lineCapacity ++ " bytes"
  | notLoaded => "no script loaded"

/-- A script in storage. -/
structure StoredScript where
  lines : List String := []
  deriving Repr, DecidableEq, Inhabited

namespace StoredScript

/-- How many lines a script has. -/
def length (s : StoredScript) : Nat :=
  s.lines.length

/-- Adds a line at the end of a script, in place, and tells whether that went well. A line that is too
long is refused before a script that is full. -/
def add (line : String) : StateM StoredScript (Except ScriptError Unit) := do
  let s ← get
  if Settings.lineCapacity < line.utf8ByteSize then return .error (.lineTooLong (s.length + 1))
  if Settings.scriptCapacity ≤ s.length then return .error (.tooManyLines Settings.scriptCapacity)
  set (StoredScript.mk (s.lines ++ [line]))
  return .ok ()

/-- The script with a line added, if that goes well. -/
def push (s : StoredScript) (line : String) : Except ScriptError StoredScript :=
  let (outcome, after) := (add line).run s
  outcome.map fun _ => after

/-- Adds lines one after the other, up to the first that is refused. -/
def pushAll : StoredScript → List String → Except ScriptError StoredScript
  | s, [] => .ok s
  | s, line :: more => do
    let s ← s.push line
    s.pushAll more

/-- The script of a text. -/
def parse (content : String) : Except ScriptError StoredScript :=
  pushAll {} ((Text.lines content.toList).map String.ofList)

end StoredScript

/-- Where a script is loaded from, which may fail. -/
inductive ScriptSource
  | text (content : String)
  | missing
  | unreadable

/-- Loads the script anew. -/
def ScriptSource.load : ScriptSource → Except ScriptError StoredScript
  | .text content => StoredScript.parse content
  | .missing => .error .missing
  | .unreadable => .error .unreadable

end MatchRobot
