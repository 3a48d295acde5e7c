import GridRobot.Command.Basic
import GridRobot.Plan.Trail

/-!
# Walking a plan

The whole plan is walked on paper before any robot moves. The start is not checked; every
position after it is, and the walk stops at the first one outside the map. A neighbour
beyond the coordinate range is outside every map and has no position to record.

* `Ending`, `Walk`: the positions of a walk and why it stopped;
* `walkLeg`, `walkSteps`, `Command.walk`: the walk of a leg, of several and of a command;
* `Traversal`, `Command.traverse`: the outcome as data;
* `Traversal.exitPosition`, `Traversal.finalPosition`, `Traversal.uniquePositions`.
-/

namespace GridRobot

/-- Why a walk stopped: no moves were left, the last position is outside the map, or the
next one would leave the coordinate range. -/
inductive Ending
  | complete
  | offMap
  | offGrid (direction : Direction)
  deriving DecidableEq

/-- A walk: where it went and why it stopped. -/
structure Walk where
  trail : Trail
  ending : Ending
  deriving DecidableEq

/-- Extends a trail by up to `n` moves in one direction. -/
def walkLeg (b : Bounds) (d : Direction) : Nat → Trail → Walk
  | 0, t => ⟨t, .complete⟩
  | n + 1, t =>
    match t.last.step? d with
    | none => ⟨t, .offGrid d⟩
    | some p => if b.contains p then walkLeg b d n (t.push p) else ⟨t.push p, .offMap⟩

/-- Extends a trail along the legs of a plan. -/
def walkSteps (b : Bounds) : List Step → Trail → Walk
  | [], t => ⟨t, .complete⟩
  | s :: rest, t =>
    match walkLeg b s.direction s.distance t with
    | ⟨t', .complete⟩ => walkSteps b rest t'
    | stopped => stopped

/-- The walk of a command. -/
def Command.walk (c : Command) : Walk := walkSteps c.bounds c.steps (.single c.start)

/-- The positions of a plan, and whether all after the first are inside the map. When they
are not, the last one is the exit. -/
structure Traversal where
  inBounds : Bool
  path : List Position
  deriving DecidableEq

/-- The walk as data. -/
def Walk.traversal (w : Walk) : Traversal := ⟨w.ending == .complete, w.trail.toList⟩

/-- The traversal of a command. -/
def Command.traverse (c : Command) : Traversal := c.walk.traversal

namespace Traversal

/-- The last position of a path that leaves the map. -/
def exitPosition (t : Traversal) : Option Position :=
  if t.inBounds then none else t.path.getLast?

/-- The last position of the path. -/
def finalPosition (t : Traversal) : Option Position := t.path.getLast?

/-- Prepends the positions that have not been seen to `found`, which is newest first. -/
def firstVisits (seen : PositionSet) (found : List Position) : List Position → List Position
  | [] => found.reverse
  | p :: rest =>
    if seen.contains p then firstVisits seen found rest
    else firstVisits (seen.insert p) (p :: found) rest

/-- The positions of the path in the order of their first visits. -/
def uniquePositions (t : Traversal) : List Position := firstVisits ∅ [] t.path

/-- The traversal in a few words: whether it stays inside, and how long the path is. -/
def summaryText (t : Traversal) : String :=
  (if t.inBounds then "true" else "false") ++ " " ++ Decimal.ofNat t.path.length

end Traversal

end GridRobot
