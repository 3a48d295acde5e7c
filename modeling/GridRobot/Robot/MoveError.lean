import GridRobot.Command.Error
import GridRobot.Grid.Position

/-!
# Refused moves

A robot refuses a move whose target is outside the map, or beyond the coordinate range, in
which case there is no target to name.

* `MoveError`, with `MoveError.origin` and `MoveError.target?`;
* `MoveError.code`, `MoveError.message`.
-/

namespace GridRobot

/-- Why a move is refused. -/
inductive MoveError
  | outOfBounds (origin target : Position)
  | beyondGrid (origin : Position) (direction : Direction)
  deriving DecidableEq

namespace MoveError

/-- Where the robot stood. -/
def origin : MoveError → Position
  | outOfBounds p _ => p
  | beyondGrid p _ => p

/-- Where the robot would have gone. -/
def target? : MoveError → Option Position
  | outOfBounds _ q => some q
  | beyondGrid _ _ => none

/-- After a refused move one can carry on. -/
def severity (_ : MoveError) : Severity := .recoverable

/-- A stable identifier of the cause. -/
def code : MoveError → String
  | outOfBounds _ _ => "out_of_bounds"
  | beyondGrid _ _ => "beyond_grid"

/-- The cause in words. -/
def message : MoveError → String
  | outOfBounds p q =>
    "target " ++ q.text ++ " is outside the map (current position " ++ p.text ++ ")"
  | beyondGrid p d => "moving " ++ d.name ++ " from " ++ p.text ++ " leaves the coordinate range"

end MoveError

end GridRobot
