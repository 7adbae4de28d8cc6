import MatchRobot.Device.Pulse
import MatchRobot.Rehearsal.Machine
import MatchRobot.Report.Dashboard
import MatchRobot.Report.Recorder
import MatchRobot.Report.Wording
import MatchRobot.Proofs.Subsystem.Modest
import MatchRobot.Proofs.Autonomy.Evaluation
import MatchRobot.Proofs.Autonomy.Leaving
import MatchRobot.Proofs.Autonomy.Dispatches
import MatchRobot.Proofs.Autonomy.Exchange
import MatchRobot.Proofs.Subsystem.Deeds
import MatchRobot.Proofs.Subsystem.Answers
import MatchRobot.Proofs.Subsystem.Calm
import MatchRobot.Proofs.Subsystem.Rest
import MatchRobot.Proofs.Task.Mail
import MatchRobot.Proofs.Task.Timed
import MatchRobot.Proofs.Autonomy.Deadline
import MatchRobot.Proofs.Assembly.Basic
import MatchRobot.Proofs.Assembly.Mailboxes
import MatchRobot.Proofs.Assembly.Modes
import MatchRobot.Proofs.Assembly.Replies
import MatchRobot.Proofs.Subsystem.Sessions
import MatchRobot.Proofs.Autonomy.Statements
import MatchRobot.Proofs.Subsystem.Levers
import MatchRobot.Proofs.Assembly.Levers
import MatchRobot.Proofs.Number.Single
import MatchRobot.Proofs.Subsystem.Looks
import MatchRobot.Proofs.Subsystem.Moves
import MatchRobot.Proofs.Subsystem.TimedMoves
import MatchRobot.Proofs.Subsystem.Battery
import MatchRobot.Proofs.Autonomy.Times
import MatchRobot.Proofs.Drive.StandOff
import MatchRobot.Proofs.Subsystem.ArmGuard
import MatchRobot.Proofs.Subsystem.Cancelling
import MatchRobot.Proofs.Subsystem.Travel
import MatchRobot.Proofs.Subsystem.Cutoff
import MatchRobot.Proofs.Subsystem.Stops
import MatchRobot.Proofs.Subsystem.Gripper
import MatchRobot.Proofs.Subsystem.Inspections
import MatchRobot.Proofs.Number.Limits
import MatchRobot.Proofs.Subsystem.FloorActs
import MatchRobot.Proofs.Subsystem.Zeroing
import MatchRobot.Proofs.Subsystem.RollerLimits
import MatchRobot.Proofs.Assembly.Attempts
import MatchRobot.Proofs.Assembly.Posting
import MatchRobot.Proofs.Script.Words
import MatchRobot.Proofs.Script.Grammar
import MatchRobot.Proofs.Autonomy.Lines
import MatchRobot.Proofs.Autonomy.Loads
import MatchRobot.Proofs.Autonomy.RawSpeeds
import MatchRobot.Proofs.Device.PulseWrites
import MatchRobot.Proofs.Autonomy.Delays
import MatchRobot.Proofs.Subsystem.GripCycles
import MatchRobot.Proofs.Subsystem.GripTransitions
import MatchRobot.Proofs.Subsystem.GripLamp
import MatchRobot.Proofs.Number.Nearest
import MatchRobot.Proofs.Number.Order
import MatchRobot.Proofs.Device.PulseWidths
import MatchRobot.Proofs.Drive.Accumulators
import MatchRobot.Proofs.Script.Loading
import MatchRobot.Proofs.Subsystem.SteeringFeed
import MatchRobot.Proofs.Script.Keywords
import MatchRobot.Proofs.Script.Pieces
import MatchRobot.Proofs.Drive.Coasting
import MatchRobot.Proofs.Drive.Turning
