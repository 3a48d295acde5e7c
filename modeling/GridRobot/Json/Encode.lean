import GridRobot.Json.Value
import GridRobot.Report.Basic

/-!
# Values as JSON

The JSON form of the data of the library. A record is an object with its fields in a fixed
order, and a name is a string.

* `Position.toJson`, `Bounds.toJson`, `Direction.toJson`, `Step.toJson`, `Command.toJson`,
  `Traversal.toJson`, `Severity.toJson`, `SectionKind.toJson`: the forms that can be read back
  (`GridRobot.Json.Decode`);
* `PlanReport.toJson`, `RunSummary.toJson`: the forms of reports.
-/

namespace GridRobot

/-- A position as JSON. -/
def Position.toJson (p : Position) : Json := .obj [("x", .num p.x.val), ("y", .num p.y.val)]

/-- A list of positions as JSON. -/
def Position.listToJson (ps : List Position) : Json := .arr (ps.map Position.toJson)

/-- Bounds as JSON. -/
def Bounds.toJson (b : Bounds) : Json := .obj [("min", b.min.toJson), ("max", b.max.toJson)]

/-- A direction as JSON. -/
def Direction.toJson (d : Direction) : Json := .str d.name

/-- A leg as JSON. -/
def Step.toJson (s : Step) : Json :=
  .obj [("direction", s.direction.toJson), ("distance", .num s.distance)]

/-- A command as JSON. -/
def Command.toJson (c : Command) : Json :=
  .obj [("bounds", c.bounds.toJson), ("start", c.start.toJson),
    ("steps", .arr (c.steps.map Step.toJson))]

/-- A traversal as JSON. -/
def Traversal.toJson (t : Traversal) : Json :=
  .obj [("in_bounds", .bool t.inBounds), ("path", Position.listToJson t.path)]

/-- A severity as JSON. -/
def Severity.toJson (s : Severity) : Json := .str s.name

/-- A kind of section as JSON. -/
def SectionKind.toJson (k : SectionKind) : Json := .str k.name

/-! ### Reports -/

/-- The report of a plan as JSON. The exit is left out when there is none. -/
def PlanReport.toJson (r : PlanReport) : Json :=
  .obj ([("command", .str r.command), ("bounds", r.bounds.toJson), ("start", r.start.toJson),
      ("in_bounds", .bool r.inBounds), ("moves", .num r.moves)] ++
    (r.exitPosition.toList.map fun exit => ("exit_position", exit.toJson)) ++
    [("positions", Position.listToJson r.positions)])

/-- The outcome of a run as JSON. -/
def RunOutcome.toJson : RunOutcome → Json
  | completed => .obj [("kind", .str "completed")]
  | aborted target =>
    .obj [("kind", .str "aborted"), ("target", (target.map Position.toJson).getD .null)]

/-- The summary of a run as JSON. -/
def RunSummary.toJson (s : RunSummary) : Json :=
  .obj [("outcome", s.outcome.toJson), ("final_position", s.finalPosition.toJson),
    ("moves", .num s.moves), ("cleaned_tiles", .num s.cleanedTiles),
    ("total_tiles", .num s.totalTiles), ("trail", Position.listToJson s.trail)]

end GridRobot
