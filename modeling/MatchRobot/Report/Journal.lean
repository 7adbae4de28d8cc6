import MatchRobot.Report.Notice

/-!
# The journal

Everything that a task reports while it runs goes to the journal under the time of the report: values
for the dashboard of the driver station, which nobody in the robot reads back, and notices for the
log. Both keep the order in which they were made; the newest report comes first, so that a report is
added in one step however long the journal is.
-/

namespace MatchRobot

/-- One report of a task. -/
inductive Report
  /-- A text on the dashboard. -/
  | text (key value : String)
  /-- A number on the dashboard. -/
  | number (key : String) (value : Float32)
  /-- A lamp on the dashboard. -/
  | flag (key : String) (value : Bool)
  | notice (notice : Notice)

/-- A report with its time. -/
structure Entry where
  time : Micros
  report : Report

/-- The reports made so far, the newest first. -/
abbrev Journal := List Entry

/-- The key under which everything about a script stands on the dashboard. -/
def statusKey : String := "Auto Status"

/-- A report on the progress of a script. -/
def Report.status (value : String) : Report :=
  .text statusKey value

end MatchRobot
