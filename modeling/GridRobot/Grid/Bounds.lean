import GridRobot.Grid.Position

/-!
# Bounds

An axis-parallel rectangle of tiles that includes its lower corner and excludes its
upper one. The corners may be given in any order: an inverted rectangle has no tiles.

* `Bounds.contains`: the tiles of the rectangle;
* `Bounds.width`, `Bounds.height`, `Bounds.area`: how many there are;
* `Bounds.text`: the two half-open intervals.
-/

namespace GridRobot

/-- A half-open rectangle. -/
structure Bounds where
  min : Position
  max : Position
  deriving DecidableEq

namespace Bounds

/-- Whether a tile lies in the rectangle. -/
def contains (b : Bounds) (p : Position) : Bool :=
  b.min.x.val ≤ p.x.val && p.x.val < b.max.x.val &&
    b.min.y.val ≤ p.y.val && p.y.val < b.max.y.val

/-- Number of columns. -/
def width (b : Bounds) : Nat := (b.max.x.val - b.min.x.val).toNat

/-- Number of rows. -/
def height (b : Bounds) : Nat := (b.max.y.val - b.min.y.val).toNat

/-- Number of tiles. -/
def area (b : Bounds) : Nat := b.width * b.height

/-- The rectangle as a product of half-open intervals. -/
def text (b : Bounds) : String :=
  "[" ++ b.min.x.text ++ ".." ++ b.max.x.text ++ ") x [" ++
    b.min.y.text ++ ".." ++ b.max.y.text ++ ")"

theorem contains_iff {b : Bounds} {p : Position} :
    b.contains p = true ↔
      (b.min.x.val ≤ p.x.val ∧ p.x.val < b.max.x.val) ∧
        b.min.y.val ≤ p.y.val ∧ p.y.val < b.max.y.val := by
  simp [contains, and_assoc]

end Bounds

end GridRobot
