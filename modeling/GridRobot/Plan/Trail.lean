import GridRobot.Grid.Position

/-!
# Trails

The positions stood on so far, in order. A trail is never empty and grows at its end.

* `Trail.single`, `Trail.push`;
* `Trail.last`: where the trail ends;
* `Trail.moves`: the number of moves made;
* `Trail.toList`: the positions from the first to the last.
-/

namespace GridRobot

/-- A nonempty sequence of positions. The positions before the last are kept newest first. -/
structure Trail where
  last : Position
  earlier : List Position
  deriving DecidableEq

namespace Trail

/-- The trail of a single position. -/
def single (p : Position) : Trail := ⟨p, []⟩

/-- The trail with one more position at its end. -/
def push (t : Trail) (p : Position) : Trail := ⟨p, t.last :: t.earlier⟩

/-- The number of moves that made the trail. -/
def moves (t : Trail) : Nat := t.earlier.length

/-- The positions in order. -/
def toList (t : Trail) : List Position := (t.last :: t.earlier).reverse

@[simp] theorem last_single (p : Position) : (single p).last = p := rfl

@[simp] theorem last_push (t : Trail) (p : Position) : (t.push p).last = p := rfl

@[simp] theorem moves_single (p : Position) : (single p).moves = 0 := rfl

@[simp] theorem moves_push (t : Trail) (p : Position) : (t.push p).moves = t.moves + 1 := rfl

@[simp] theorem toList_single (p : Position) : (single p).toList = [p] := rfl

@[simp] theorem toList_push (t : Trail) (p : Position) :
    (t.push p).toList = t.toList ++ [p] := by
  simp [toList, push]

@[simp] theorem length_toList (t : Trail) : t.toList.length = t.moves + 1 := by
  simp [toList, moves]

theorem toList_ne_nil (t : Trail) : t.toList ≠ [] := by
  simp [toList]

@[simp] theorem getLast?_toList (t : Trail) : t.toList.getLast? = some t.last := by
  simp [toList]

end Trail

end GridRobot
