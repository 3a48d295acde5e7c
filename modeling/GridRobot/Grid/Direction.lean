/-!
# Directions

The four directions of a unit move. North increases `y` and East increases `x`.

* `Direction.all`: the directions in clockwise order from North;
* `Direction.dx`, `Direction.dy`: the offset of one unit move;
* `Direction.letter`, `Direction.ofLetter?`: the one-letter code, upper case only;
* `Direction.name`: the full name.
-/

namespace GridRobot

/-- One of the four grid directions. -/
inductive Direction
  | north
  | east
  | south
  | west
  deriving DecidableEq

namespace Direction

/-- The directions, clockwise from North. -/
def all : List Direction := [north, east, south, west]

/-- Change of `x` in one unit move. -/
def dx : Direction → Int
  | north => 0
  | east => 1
  | south => 0
  | west => -1

/-- Change of `y` in one unit move. -/
def dy : Direction → Int
  | north => 1
  | east => 0
  | south => -1
  | west => 0

/-- The letter that stands for the direction in command text. -/
def letter : Direction → Char
  | north => 'N'
  | east => 'E'
  | south => 'S'
  | west => 'W'

/-- The direction of a letter. -/
def ofLetter? (c : Char) : Option Direction := all.find? fun d => d.letter == c

/-- The name of the direction. -/
def name : Direction → String
  | north => "North"
  | east => "East"
  | south => "South"
  | west => "West"

@[simp] theorem ofLetter?_letter (d : Direction) : ofLetter? d.letter = some d := by
  cases d <;> rfl

theorem ofLetter?_eq_some_iff {c : Char} {d : Direction} :
    ofLetter? c = some d ↔ d.letter = c := by
  constructor
  · intro h
    simpa using List.find?_some h
  · rintro rfl
    exact ofLetter?_letter d

end Direction

end GridRobot
