import GridRobot.Grid.Coord
import GridRobot.Grid.Direction
import Std.Data.TreeSet

/-!
# Positions

A position is a pair of coordinates. Positions are ordered by `x` and then by `y`.

* `Position.step?`: the neighbour in a direction, absent beyond the coordinate range;
* `Position.text`: the position as `(x, y)`;
* `Position.sort`, `PositionSet`: sorted lists and finite sets of positions.
-/

namespace GridRobot

/-- A tile of the grid. -/
structure Position where
  x : Coord
  y : Coord
  deriving DecidableEq

namespace Position

@[ext] theorem ext {p q : Position} (hx : p.x = q.x) (hy : p.y = q.y) : p = q := by
  cases p; cases q; simp_all

/-- The position with both coordinates zero. -/
def origin : Position := ⟨0, 0⟩

instance : Inhabited Position := ⟨origin⟩

/-- The position with the given coordinates, if both are in range. -/
def ofInts? (x y : Int) : Option Position :=
  match Coord.ofInt? x, Coord.ofInt? y with
  | some cx, some cy => some ⟨cx, cy⟩
  | _, _ => none

/-- The neighbour one unit away, if it lies in the coordinate range. -/
def step? (p : Position) (d : Direction) : Option Position :=
  ofInts? (p.x.val + d.dx) (p.y.val + d.dy)

/-- The position as text. -/
def text (p : Position) : String := "(" ++ p.x.text ++ ", " ++ p.y.text ++ ")"

/-- Positions as text, separated by a comma and a blank. -/
def listText (ps : List Position) : String := ", ".intercalate (ps.map text)

theorem ofInts?_eq_some_iff {x y : Int} {p : Position} :
    ofInts? x y = some p ↔ p.x.val = x ∧ p.y.val = y := by
  unfold ofInts?
  constructor
  · intro h
    split at h
    · next cx cy hx hy =>
      cases h
      exact ⟨Coord.ofInt?_eq_some_iff.mp hx, Coord.ofInt?_eq_some_iff.mp hy⟩
    · cases h
  · rintro ⟨rfl, rfl⟩
    simp

theorem step?_eq_some_iff {p q : Position} {d : Direction} :
    p.step? d = some q ↔ q.x.val = p.x.val + d.dx ∧ q.y.val = p.y.val + d.dy :=
  ofInts?_eq_some_iff

theorem ofInts?_eq_none_iff {x y : Int} :
    ofInts? x y = none ↔ ¬ (Coord.InRange x ∧ Coord.InRange y) := by
  unfold ofInts?
  cases hx : Coord.ofInt? x with
  | none => simp [Coord.ofInt?_eq_none_iff.mp hx]
  | some cx =>
    have := cx.inRange_val
    rw [Coord.ofInt?_eq_some_iff.mp hx] at this
    cases hy : Coord.ofInt? y with
    | none => simp [Coord.ofInt?_eq_none_iff.mp hy]
    | some cy =>
      have hy' := cy.inRange_val
      rw [Coord.ofInt?_eq_some_iff.mp hy] at hy'
      simp [this, hy']

theorem step?_eq_none_iff {p : Position} {d : Direction} :
    p.step? d = none ↔
      ¬ (Coord.InRange (p.x.val + d.dx) ∧ Coord.InRange (p.y.val + d.dy)) :=
  ofInts?_eq_none_iff

/-! ### Order -/

/-- By `x`, then by `y`. -/
instance : Ord Position :=
  ⟨compareLex (compareOn fun p => p.x.val) (compareOn fun p => p.y.val)⟩

instance : Std.TransOrd Position :=
  inferInstanceAs (Std.TransCmp
    (compareLex (compareOn fun p : Position => p.x.val) (compareOn fun p => p.y.val)))

instance : Std.LawfulEqOrd Position where
  eq_of_compare {p q} h := by
    change (compare p.x.val q.x.val).then (compare p.y.val q.y.val) = .eq at h
    rw [Ordering.then_eq_eq] at h
    exact Position.ext (Coord.ext (Std.LawfulEqOrd.eq_of_compare h.1))
      (Coord.ext (Std.LawfulEqOrd.eq_of_compare h.2))

/-- The positions in order. -/
def sort (ps : List Position) : List Position := ps.mergeSort fun p q => (compare p q).isLE

end Position

/-- A finite set of positions. -/
abbrev PositionSet := Std.TreeSet Position

theorem PositionSet.mem_insert {s : PositionSet} {p q : Position} :
    p ∈ s.insert q ↔ p = q ∨ p ∈ s := by
  rw [Std.TreeSet.mem_insert, Std.LawfulEqCmp.compare_eq_iff_eq, eq_comm]

theorem PositionSet.contains_insert (s : PositionSet) (p q : Position) :
    (s.insert p).contains q = (q == p || s.contains q) := by
  rw [Bool.eq_iff_iff, Std.TreeSet.contains_iff_mem, mem_insert, Bool.or_eq_true, beq_iff_eq,
    Std.TreeSet.contains_iff_mem]

end GridRobot
