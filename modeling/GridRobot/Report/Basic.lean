import GridRobot.Command.Parse
import GridRobot.Robot.Basic

/-!
# Reports

Before a command is run its plan is checked: the text is read, the plan is walked, and a report says
whether the path stays on the map. After a run another report says what the run came to.

* `PlanReport`, `PlanReport.of`, `PlanReport.render`;
* `Checked`, `check`: command text with its walk;
* `Checked.report`, `checkEvents`: what a check says and what it logs;
* `RunOutcome.sentence`: how a run ended;
* `RunSummary.render`: the report of a run;
* `moveLine`: one move of a run that is shown as it happens.
-/

namespace GridRobot

/-! ### The report of a plan -/

/-- What is known of a plan before it is run. -/
structure PlanReport where
  command : String
  bounds : Bounds
  start : Position
  inBounds : Bool
  moves : Nat
  exitPosition : Option Position
  positions : List Position
  deriving DecidableEq

namespace PlanReport

/-- The report of a command with a given traversal. It lists each position once when the path
stays on the map, and the whole path otherwise. -/
def of (c : Command) (t : Traversal) : PlanReport where
  command := c.text
  bounds := c.bounds
  start := c.start
  inBounds := t.inBounds
  moves := t.path.length - 1
  exitPosition := t.exitPosition
  positions := if t.inBounds then t.uniquePositions else t.path

/-- What the path does. An exit inside the map is where the coordinate range ends. -/
def verdict (r : PlanReport) : String :=
  match r.exitPosition with
  | none => "Path will remain in bounds (" ++ Decimal.ofNat r.moves ++ " moves)."
  | some exit =>
    if r.bounds.contains exit then
      "Path will leave the coordinate range after " ++ exit.text ++ "."
    else
      "Path will leave bounds at " ++ exit.text ++ "."

/-- The heading of the list of positions. -/
def pathHeading (r : PlanReport) : String :=
  if r.exitPosition.isNone then "Unique positions that will be visited: "
  else "Positions that will be visited: "

/-- The report as text, with the positions if they are asked for. -/
def render (r : PlanReport) (showPath : Bool) : String :=
  "Command:  " ++ r.command ++ "\n" ++
    "Map:      " ++ r.bounds.text ++ "\n" ++
    "Start:    " ++ r.start.text ++ "\n" ++
    r.verdict ++ "\n" ++
    if showPath then r.pathHeading ++ Position.listText r.positions ++ "\n" else ""

end PlanReport

/-! ### Checking command text -/

/-- A command and the walk of its plan. -/
structure Checked where
  command : Command
  walk : Walk
  deriving DecidableEq

namespace Checked

/-- The report of the plan. -/
def report (c : Checked) : PlanReport := .of c.command c.walk.traversal

/-- What the check logs. -/
def events (c : Checked) : List Event :=
  [.parsed c.command.bounds c.command.start c.command.steps.length,
    match c.walk.ending with
    | .complete => .planStaysInside c.walk.trail.last c.walk.trail.moves
    | .offMap => .planLeavesMap c.walk.trail.last c.walk.trail.moves
    | .offGrid d => .planLeavesRange c.walk.trail.last d]

end Checked

/-- Reads command text and walks the plan. -/
def check (text : String) : Except CommandError Checked :=
  (Command.parse text).map fun c => ⟨c, c.walk⟩

/-- What a check logs. -/
def checkEvents : Except CommandError Checked → List Event
  | .ok c => c.events
  | .error e => [.rejected e]

/-! ### The report of a run -/

/-- How the run ended, and where. -/
def RunOutcome.sentence (finish : Position) : RunOutcome → String
  | completed => "Target reached at " ++ finish.text ++ "."
  | aborted (some target) =>
    "Unable to reach " ++ target.text ++ ", it is outside the map. Stopped at " ++
      finish.text ++ "."
  | aborted none =>
    "Unable to move past the coordinate range. Stopped at " ++ finish.text ++ "."

/-- The summary as text, with the trail if it is asked for. -/
def RunSummary.render (s : RunSummary) (showPath : Bool) : String :=
  s.outcome.sentence s.finalPosition ++ "\n" ++
    "Moves made: " ++ Decimal.ofNat s.moves ++ "\n" ++
    "Tiles cleaned: " ++ Decimal.ofNat s.cleanedTiles ++ "/" ++
      Decimal.ofNat s.totalTiles ++ "\n" ++
    if showPath then "Trail: " ++ Position.listText s.trail ++ "\n" else ""

/-- One move of a run. -/
def moveLine (d : Direction) (p : Position) : String :=
  "  " ++ padRight 5 d.name ++ " -> " ++ p.text ++ "\n"

end GridRobot
