import GridRobot.Client.Environment
import GridRobot.Log.Event
import GridRobot.Text.Lowercase

/-!
# Configuration

What the client takes from its environment. A switch is on or off for a few words in any
case; other values leave it alone, but setting the switch for the log file to any other value
turns it on.

* `switch?`: the words for on and off;
* `Config`, `Config.ofEnvironment`;
* `logLevel?`: the level at which events are logged.
-/

namespace GridRobot

/-- The words that turn a switch on. -/
def onWords : List String := ["true", "1", "yes", "on"]

/-- The words that turn a switch off. -/
def offWords : List String := ["false", "0", "no", "off"]

/-- Whether a value, in lower case, is one of the words. -/
def isOneOf (words : List String) (value : String) : Bool :=
  words.any fun w => w.toList == lowercase value

/-- What a value does to a switch. -/
def switch? (value : String) : Option Bool :=
  if isOneOf onWords value then some true
  else if isOneOf offWords value then some false
  else none

/-- The configuration of the client. -/
structure Config where
  command : Option String
  showPath : Bool
  json : Bool
  logToFile : Bool
  logDir : Option String
  sessionId : Option String
  deriving DecidableEq

namespace Config

/-- The configuration given by the variables of an environment. -/
def ofVariables (get? : String → Option String) : Config where
  command := (get? "ROBOT_COMMAND").filter fun s => !s.isEmpty
  showPath := ((get? "ROBOT_SHOW_PATH").bind switch?).getD false
  json := ((get? "ROBOT_JSON").bind switch?).getD false
  logToFile :=
    match get? "ROBOT_LOG_TO_FILE" with
    | some value => (switch? value).getD true
    | none => false
  logDir := get? "ROBOT_LOG_DIR"
  sessionId := get? "ROBOT_SESSION_ID"

/-- The configuration of an environment. -/
def ofEnvironment (env : Environment) : Config := ofVariables env.get?

end Config

/-- The level at which events are logged, if any are. It is set by name, and `info` if it is
not set; an empty name stands for `error`. Settings for single parts of the program are not
supported and leave the level alone. -/
def logLevel? (env : Environment) : Option Level :=
  match env.get? "RUST_LOG" with
  | none => some .info
  | some value =>
    let name := String.ofList (lowercase value)
    if name = "off" then none
    else if name = "" then some .error
    else some ((Level.ofName? name).getD .info)

end GridRobot
