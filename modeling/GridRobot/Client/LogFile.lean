import GridRobot.Client.Config
import GridRobot.Client.Host

/-!
# The log file

Events can also be logged to a file, one directory per session.

* `logDir`: where session directories are kept by default;
* `defaultSession`: the name of a session that is not given one;
* `LogFile`, `LogFile.of?`: the session and its directory.
-/

namespace GridRobot

/-- The home of the user: the one that is set, or that of the account. -/
def userHome? (env : Environment) (accountHome : Option String) : Option String :=
  ((env.get? "HOME").filter fun home => !home.isEmpty).or accountHome

/-- The cache directory of the user: an absolute one that is set, or the usual one. -/
def cacheDir? (env : Environment) (accountHome : Option String) : Option String :=
  match (env.get? "XDG_CACHE_HOME").filter Path.isAbsolute with
  | some dir => some dir
  | none => (userHome? env accountHome).map fun home => Path.join home ".cache"

/-- Where session directories are kept. -/
def logDir (env : Environment) (accountHome : Option String) : String :=
  match cacheDir? env accountHome with
  | some dir => Path.join (Path.join dir "robot") "logs"
  | none => "/tmp/robot/logs"

/-- The name of a session that begins at the given time. -/
def defaultSession (seconds : Nat) : String := "session_" ++ Decimal.ofNat seconds

/-- The log file of a session. -/
structure LogFile where
  session : String
  dir : String
  deriving DecidableEq

namespace LogFile

/-- The log file that is configured, if any. -/
def of? (config : Config) (env : Environment) (host : Host) : Option LogFile :=
  if config.logToFile then
    let session := config.sessionId.getD (defaultSession host.seconds)
    some ⟨session, Path.join (config.logDir.getD (logDir env host.accountHome)) session⟩
  else none

/-- Where the file is. -/
def path (f : LogFile) : String := Path.join f.dir "client.log"

/-- What is logged when the file is opened. -/
def events (f : LogFile) : List Event :=
  [.loggingInitialized f.session, .logFile (f.dir ++ "/client.log")]

end LogFile

end GridRobot
