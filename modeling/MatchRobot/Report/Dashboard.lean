import MatchRobot.Number.Decimal
import MatchRobot.Report.Journal

/-!
# A dashboard in the log

A dashboard without a screen writes each of its values to the log, one line a value.
-/

namespace MatchRobot

/-- The log line of a dashboard value; a notice is none. -/
def Report.dashboardLine? : Report → Option String
  | .text key value => some ("[DASHBOARD] " ++ key ++ " = " ++ value)
  | .number key value => some ("[DASHBOARD] " ++ key ++ " = " ++ Decimal.places 3 value)
  | .flag key value =>
    some ("[DASHBOARD] " ++ key ++ " = " ++ (if value then "true" else "false"))
  | .notice _ => none

end MatchRobot
