import GridRobot.Client.Arguments
import GridRobot.Client.LogFile
import GridRobot.Json.Encode

/-!
# The client

What one call of the client does, as data: its exit code, what it prints, and what it logs.

* `Outcome`: the effect of an action on the console;
* `checkText`, `runText`: the two actions;
* `Transcript`, `carryOut`, `client`: a call with arguments and environment on a host.
-/

namespace GridRobot

/-- What an action prints and logs, and the error it ends with, if any. -/
structure Outcome where
  stdout : String
  events : List Event
  error : Option String

/-- An error on the console, with its cause. -/
def errorText (message : String) (cause : Option String) : String :=
  "Error: " ++ message ++ "\n" ++
    match cause with
    | some cause => "\nCaused by:\n    " ++ cause ++ "\n"
    | none => ""

/-- The outcome for command text that is rejected. -/
def Outcome.rejected (e : CommandError) : Outcome :=
  ⟨"", [.rejected e], some (errorText "Invalid command" (some e.message))⟩

/-- Checks command text. It is an error if the path leaves the map. -/
def checkText (text : String) (flags : Flags) : Outcome :=
  match check text with
  | .error e => .rejected e
  | .ok c =>
    { stdout :=
        if flags.json then c.report.toJson.pretty ++ "\n" else c.report.render flags.showPath
      events := c.events
      error := c.report.exitPosition.map fun exit =>
        errorText ("Path leaves the map at " ++ exit.text) none }

/-- The error of a run that was aborted. -/
def RunOutcome.error? : RunOutcome → Option String
  | completed => none
  | aborted (some target) =>
    some (errorText ("Run aborted before reaching " ++ target.text) none)
  | aborted none => some (errorText "Run aborted at the edge of the coordinate range" none)

/-- Checks command text and runs it. Text output shows every move as it is made. -/
def runText (text : String) (flags : Flags) : Outcome :=
  match check text with
  | .error e => .rejected e
  | .ok c =>
    let (made, robot) :=
      if flags.json then ([], Robot.activate c.command) else (Robot.activate c.command).playback
    -- a robot that has been played to its end only repeats its outcome
    let (summary, robot) := robot.runToEnd
    { stdout :=
        if flags.json then
          (Json.obj [("plan", c.report.toJson), ("run", summary.toJson)]).sortKeys.pretty ++ "\n"
        else
          c.report.render flags.showPath ++
            String.join (made.map fun m => moveLine m.1 m.2) ++ summary.render flags.showPath
      events := c.events ++ robot.events ++ [.runComplete summary.moves]
      error := summary.outcome.error? }

/-- A call of the client: its exit code, its output, the events it logs and its log file. -/
structure Transcript where
  exit : Nat
  stdout : String
  stderr : String
  events : List Event
  logFile : Option LogFile

/-- How the client is called. -/
def usage : String := "Usage: robot [--json] [--show-path] <check|run> [INPUT]\n"

/-- Does what is requested. -/
def perform (request : Request) (config : Config) : Outcome :=
  let flags := request.flags.or ⟨config.json, config.showPath⟩
  match request.input.or config.command with
  | none =>
    ⟨"", [],
      some (errorText "No command given. Pass one as an argument or set ROBOT_COMMAND." none)⟩
  | some text =>
    match request.action with
    | .check => checkText text flags
    | .run => runText text flags

/-- What is to be done and the configuration for it, with the log file once its directory is
made. -/
def carryOut (request : Request) (config : Config) (env : Environment)
    (logFile : Option LogFile) : Transcript :=
  let outcome := perform request config
  let events := (logFile.map LogFile.events).getD [] ++ outcome.events
  { exit := if outcome.error.isSome then 1 else 0
    stdout := outcome.stdout
    stderr := outcome.error.getD ""
    events := ((logLevel? env).map fun level => level.select events).getD []
    logFile }

/-- A call of the client on a host. Without a directory for its log file it does nothing. -/
def client (arguments : List String) (env : Environment) (host : Host) : Transcript :=
  match Arguments.read arguments with
  | .version => ⟨0, "robot 0.1.0\n", "", [], none⟩
  | .help => ⟨0, usage, "", [], none⟩
  | .misuse => ⟨2, "", usage, [], none⟩
  | .request request =>
    let config := Config.ofEnvironment env
    match LogFile.of? config env host with
    | none => carryOut request config env none
    | some logFile =>
      match host.files.obstacle? logFile.dir with
      | none => carryOut request config env (some logFile)
      | some e =>
        ⟨1, "", errorText ("Failed to create log directory: " ++ logFile.dir) (some e.message),
          [], none⟩

end GridRobot
