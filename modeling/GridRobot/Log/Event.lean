import GridRobot.Grid.Bounds
import GridRobot.Robot.MoveError
import GridRobot.Text.Display

/-!
# Log events

What the program logs, as data. Each event has a level, a target (the part of the program
it comes from), a message and named fields.

* `Level`, from `error` to `trace`;
* `Event`, with `Event.level`, `Event.target`, `Event.message`, `Event.fields`;
* `Event.body`, `Event.fileLine`, `Event.consoleLine`, `Event.traceLine`: written forms;
* `Level.select`: the events of a log at a level.
-/

namespace GridRobot

/-- How much an event matters, most important first. -/
inductive Level
  | error
  | warn
  | info
  | debug
  | trace
  deriving DecidableEq

namespace Level

/-- The levels, most important first. -/
def all : List Level := [error, warn, info, debug, trace]

/-- The place of a level among the levels. -/
def rank : Level → Nat
  | error => 0
  | warn => 1
  | info => 2
  | debug => 3
  | trace => 4

theorem getElem?_all_rank (l : Level) : all[l.rank]? = some l := by
  cases l <;> rfl

/-- The level in log lines. -/
def text : Level → String
  | error => "ERROR"
  | warn => "WARN"
  | info => "INFO"
  | debug => "DEBUG"
  | trace => "TRACE"

/-- The level as it is set by the user. -/
def name : Level → String
  | error => "error"
  | warn => "warn"
  | info => "info"
  | debug => "debug"
  | trace => "trace"

/-- The level of a name in lower case. -/
def ofName? (s : String) : Option Level := all.find? fun l => l.name == s

end Level

/-- What happened. -/
inductive Event
  /-- A command was read. -/
  | parsed (bounds : Bounds) (start : Position) (steps : Nat)
  /-- Command text was rejected. -/
  | rejected (error : CommandError)
  /-- The plan leaves the coordinate range. -/
  | planLeavesRange (origin : Position) (direction : Direction)
  /-- The plan leaves the map. -/
  | planLeavesMap (exit : Position) (moves : Nat)
  /-- The plan stays inside the map. -/
  | planStaysInside (finish : Position) (moves : Nat)
  /-- A robot was put on its start. -/
  | activated (start : Position) (bounds : Bounds) (moves : Nat)
  /-- The start is not a tile of the map. -/
  | startOutside (start : Position)
  /-- The last move of a leg was taken; `index` legs are spent. -/
  | stepExhausted (index : Nat)
  /-- The robot moved. -/
  | moved (direction : Direction) (position : Position)
  /-- The plan is spent. -/
  | targetReached (position : Position)
  /-- A move was refused. -/
  | refused (error : MoveError)
  /-- Logging to a file began. -/
  | loggingInitialized (session : String)
  /-- The log file. -/
  | logFile (path : String)
  /-- A run ended. -/
  | runComplete (moves : Nat)
  deriving DecidableEq

namespace Event

/-- How much the event matters. -/
def level : Event → Level
  | parsed .. | planLeavesRange .. | planLeavesMap .. | planStaysInside .. | moved .. => .debug
  | rejected _ | startOutside _ | refused _ => .warn
  | activated .. | targetReached _ | loggingInitialized _ | logFile _ | runComplete _ => .info
  | stepExhausted _ => .trace

/-- The part of the program that the event comes from. -/
def target : Event → String
  | parsed .. => "robot_core::parser"
  | rejected _ => "robot_client"
  | planLeavesRange .. | planLeavesMap .. | planStaysInside .. => "robot_core::planner"
  | stepExhausted _ => "robot_core::cursor"
  | activated .. | startOutside _ | moved .. | targetReached _ | refused _ =>
    "robot_client::mover"
  | loggingInitialized _ | logFile _ => "robot_client::logging"
  | runComplete _ => "robot"

/-- The event in words. -/
def message : Event → String
  | parsed .. => "parsed command"
  | rejected e => "Rejected command: " ++ e.message
  | planLeavesRange .. => "path leaves coordinate range"
  | planLeavesMap .. => "path leaves bounds"
  | planStaysInside .. => "path stays in bounds"
  | activated .. => "Robot activated"
  | startOutside _ => "Start position is outside the map"
  | stepExhausted _ => "step exhausted"
  | moved .. => "Moved"
  | targetReached _ => "Target reached"
  | refused (.beyondGrid ..) => "Unable to move, target is beyond the coordinate range"
  | refused (.outOfBounds ..) => "Unable to reach target, it is outside the map"
  | loggingInitialized _ => "Logging initialized"
  | logFile path => "Log file: " ++ path
  | runComplete _ => "Run complete"

/-- The named values of the event, in order. -/
def fields : Event → List (String × String)
  | parsed b p n => [("bounds", b.text), ("start", p.text), ("steps", Decimal.ofNat n)]
  | rejected e => [("code", quoted e.code), ("severity", e.severity.text)]
  | planLeavesRange p d => [("from", p.text), ("direction", d.name)]
  | planLeavesMap p n => [("exit", p.text), ("moves", Decimal.ofNat n)]
  | planStaysInside p n => [("end", p.text), ("moves", Decimal.ofNat n)]
  | activated p b n => [("start", p.text), ("bounds", b.text), ("moves", Decimal.ofNat n)]
  | startOutside p => [("start", p.text)]
  | stepExhausted n => [("index", Decimal.ofNat n)]
  | moved d p => [("direction", d.name), ("position", p.text)]
  | targetReached p => [("position", p.text)]
  | refused (.beyondGrid p d) => [("position", p.text), ("direction", d.name)]
  | refused (.outOfBounds p q) => [("position", p.text), ("target", q.text)]
  | loggingInitialized s => [("session", s)]
  | logFile _ => []
  | runComplete n => [("moves", Decimal.ofNat n)]

/-- The message, safe to show, followed by the fields. -/
def body (e : Event) : String :=
  terminalText e.message ++ String.join (e.fields.map fun f => " " ++ f.1 ++ "=" ++ f.2)

/-- The event in a log file. -/
def fileLine (e : Event) : String := e.level.text ++ " " ++ e.target ++ ": " ++ e.body

/-- The event on the console. -/
def consoleLine (e : Event) : String := e.level.text ++ " " ++ e.body

/-- The event in a trace, where the levels are aligned. -/
def traceLine (e : Event) : String :=
  padLeft 5 e.level.text ++ " " ++ e.target ++ ": " ++ e.body

end Event

/-- The events that matter at least as much as the level says. -/
def Level.select (l : Level) (events : List Event) : List Event :=
  events.filter fun e => e.level.rank ≤ l.rank

end GridRobot
