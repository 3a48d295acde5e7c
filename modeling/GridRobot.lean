import GridRobot.Main
import GridRobot.Json.Decode
import GridRobot.Proofs.Plan.Calls
import GridRobot.Proofs.Plan.Integers
import GridRobot.Proofs.Report.Reasons
import GridRobot.Proofs.Robot.Coverage
import GridRobot.Proofs.Robot.Driving
import GridRobot.Proofs.Robot.Tiles
import GridRobot.Proofs.Command.SectionOrder
import GridRobot.Proofs.Robot.Playback
import GridRobot.Proofs.Client.Actions
import GridRobot.Proofs.Json.Lexemes
import GridRobot.Proofs.Json.Reading
import GridRobot.Proofs.Json.RoundTrip
import GridRobot.Proofs.Robot.Regrouping
import GridRobot.Proofs.Robot.RunLength
import GridRobot.Proofs.Client.RunLog
import GridRobot.Proofs.Plan.Skipping
import GridRobot.Proofs.Plan.Corners
import GridRobot.Proofs.Plan.Composition
import GridRobot.Proofs.Robot.LargerMap
import GridRobot.Proofs.Robot.Shifting
import GridRobot.Proofs.Plan.Retracing
import GridRobot.Proofs.Json.AnyOrder
import GridRobot.Proofs.Text.PrefixCodes
import GridRobot.Proofs.Text.Quoting
import GridRobot.Proofs.Command.Messages
import GridRobot.Proofs.Report.Runs
import GridRobot.Proofs.Json.Cuts
import GridRobot.Proofs.Text.Lowercase
import GridRobot.Proofs.Client.Configuration
