import GridRobot.Log.Event
import GridRobot.Plan.Cursor
import GridRobot.Plan.Traversal

/-!
# The robot

A robot plays its command one unit move per tick and cleans the tiles it stands on. A move
off the map is refused and ends the run; the move it would have made is spent all the same.

* `Robot`, `Robot.activate`: a robot on its start;
* `Robot.tick`: one tick and its outcome, a `Tick`;
* `Robot.runToEnd`, `RunSummary`: ticks until the run is over;
* `Robot.playback`: ticks while the robot moves, with the moves made;
* `Robot.tile`, `Robot.cleanedTiles`, `Robot.totalTiles`, `Robot.isDone`;
* `Robot.events`: what the robot has logged, in order.
-/

namespace GridRobot

/-- The state of a tile of the map. -/
inductive TileState
  | dirty
  | clean
  deriving DecidableEq

/-- The tile's state in data. -/
def TileState.text : TileState → String
  | dirty => "dirty"
  | clean => "clean"

/-- What came of a tick. -/
inductive Tick
  | moved (direction : Direction) (position : Position)
  | finished
  | refused (error : MoveError)
  deriving DecidableEq

/-- How a run ended. The target of the refused move is absent beyond the coordinate range. -/
inductive RunOutcome
  | completed
  | aborted (target : Option Position)
  deriving DecidableEq

/-- What a run came to. -/
structure RunSummary where
  outcome : RunOutcome
  finalPosition : Position
  moves : Nat
  cleanedTiles : Nat
  totalTiles : Nat
  trail : List Position
  deriving DecidableEq

/-- Whether a run is over, and how. -/
inductive Status
  | running
  | finished
  | aborted (error : MoveError)
  deriving DecidableEq

/-- A robot: its command and place in it, where it stands, the positions it stood on, the tiles
it cleaned, and what it logged, newest first. -/
structure Robot where
  command : Command
  cursor : Cursor
  position : Position
  trail : Trail
  cleaned : PositionSet
  status : Status
  journal : List Event

namespace Robot

/-- Whether a position is a tile of the robot's map. -/
def onMap (r : Robot) (p : Position) : Bool := r.command.bounds.contains p

/-- Notes an event. -/
def note (r : Robot) (e : Event) : Robot := { r with journal := e :: r.journal }

/-- Cleans a tile, if it is one. -/
def clean (r : Robot) (p : Position) : Robot :=
  if r.onMap p then { r with cleaned := r.cleaned.insert p } else r

/-- A robot on the start of its command. -/
def activate (c : Command) : Robot :=
  let r : Robot := ⟨c, c.cursor, c.start, .single c.start, ∅, .running, []⟩
  let r := (r.clean c.start).note (.activated c.start c.bounds c.totalDistance)
  if c.bounds.contains c.start then r else r.note (.startOutside c.start)

/-- Takes a move from the plan: the cursor goes on, and a spent leg is noted. -/
def spend (r : Robot) (cursor : Cursor) : Robot :=
  let r' := { r with cursor }
  if cursor.index = r.cursor.index then r' else r'.note (.stepExhausted cursor.index)

/-- Stands on the next position and cleans it. -/
def moveTo (r : Robot) (d : Direction) (p : Position) : Robot :=
  ({ r with position := p, trail := r.trail.push p }.clean p).note (.moved d p)

/-- Ends the run with a refused move. -/
def refuse (r : Robot) (e : MoveError) : Robot :=
  { r with status := .aborted e }.note (.refused e)

/-- Tries one move. -/
def attempt (r : Robot) (d : Direction) : Tick × Robot :=
  match r.position.step? d with
  | none =>
    let e := .beyondGrid r.position d
    (.refused e, r.refuse e)
  | some p =>
    if r.onMap p then (.moved d p, r.moveTo d p)
    else
      let e := .outOfBounds r.position p
      (.refused e, r.refuse e)

/-- One tick. When the run is over the same outcome is given again and nothing changes. -/
def tick (r : Robot) : Tick × Robot :=
  match r.status with
  | .finished => (.finished, r)
  | .aborted e => (.refused e, r)
  | .running =>
    match r.cursor.next with
    | none => (.finished, { r with status := .finished }.note (.targetReached r.position))
    | some (d, cursor) => (r.spend cursor).attempt d

/-- Whether the run is over. -/
def isDone (r : Robot) : Bool := r.status != .running

/-- The state of a tile of the map; other positions have none. -/
def tile (r : Robot) (p : Position) : Option TileState :=
  if r.onMap p then some (if r.cleaned.contains p then .clean else .dirty) else none

/-- The number of tiles cleaned. -/
def cleanedTiles (r : Robot) : Nat := r.cleaned.size

/-- The number of tiles of the map. -/
def totalTiles (r : Robot) : Nat := r.command.bounds.area

/-- The events logged so far, in order. -/
def events (r : Robot) : List Event := r.journal.reverse

/-- The summary of a run with the given outcome. -/
def summary (r : Robot) (outcome : RunOutcome) : RunSummary where
  outcome := outcome
  finalPosition := r.position
  moves := r.trail.moves
  cleanedTiles := r.cleanedTiles
  totalTiles := r.totalTiles
  trail := r.trail.toList

/-! ### What the parts of a tick leave alone -/

@[simp] theorem cursor_note (r : Robot) (e : Event) : (r.note e).cursor = r.cursor := rfl

@[simp] theorem cursor_clean (r : Robot) (p : Position) : (r.clean p).cursor = r.cursor := by
  unfold clean
  split <;> rfl

@[simp] theorem cursor_moveTo (r : Robot) (d : Direction) (p : Position) :
    (r.moveTo d p).cursor = r.cursor := by
  simp [moveTo]

@[simp] theorem cursor_spend (r : Robot) (cursor : Cursor) :
    (r.spend cursor).cursor = cursor := by
  unfold spend
  simp only
  split <;> rfl

@[simp] theorem cursor_attempt (r : Robot) (d : Direction) :
    (r.attempt d).2.cursor = r.cursor := by
  unfold attempt
  split
  · rfl
  · split
    · exact cursor_moveTo ..
    · rfl

/-- A move takes one unit of distance from the plan. -/
theorem remainingDistance_tick {r r' : Robot} {d : Direction} {p : Position}
    (h : r.tick = (.moved d p, r')) :
    r'.cursor.remainingDistance + 1 = r.cursor.remainingDistance := by
  unfold tick at h
  split at h
  · cases h
  · cases h
  · split at h
    · cases h
    · next d' cursor hn =>
      have hr : r' = ((r.spend cursor).attempt d').2 := by rw [h]
      rw [hr, cursor_attempt, cursor_spend]
      exact Cursor.remainingDistance_next hn

/-! ### Runs -/

/-- Ticks until the run is over. -/
def runToEnd (r : Robot) : RunSummary × Robot :=
  match h : r.tick with
  | (.moved _ _, r') =>
    have := remainingDistance_tick h
    runToEnd r'
  | (.finished, r') => (r'.summary .completed, r')
  | (.refused e, r') => (r'.summary (.aborted e.target?), r')
termination_by r.cursor.remainingDistance

/-- Ticks while the robot moves. The moves are put in front of `made`, newest first. -/
def playOnto (made : List (Direction × Position)) (r : Robot) :
    List (Direction × Position) × Robot :=
  match h : r.tick with
  | (.moved d p, r') =>
    have := remainingDistance_tick h
    playOnto ((d, p) :: made) r'
  | (_, r') => (made.reverse, r')
termination_by r.cursor.remainingDistance

/-- Ticks while the robot moves: the moves made, and the robot when it has stopped. -/
def playback (r : Robot) : List (Direction × Position) × Robot := playOnto [] r

end Robot

end GridRobot
