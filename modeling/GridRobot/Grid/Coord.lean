import GridRobot.Text.Decimal

/-!
# Coordinates

The grid is finite: a coordinate is an integer of the signed 32-bit range. Arithmetic
on coordinates is done in the integers and refused when the result is out of range.

* `Coord`, with its integer `Coord.val`;
* `Coord.InRange`, `Coord.ofInt?`: the checked way in;
* `Coord.text`: decimal text.
-/

namespace GridRobot

/-- An integer of the signed 32-bit range. -/
structure Coord where
  val : Int
  lower : -2147483648 ≤ val
  upper : val ≤ 2147483647
  deriving DecidableEq

namespace Coord

@[ext] theorem ext {a b : Coord} (h : a.val = b.val) : a = b := by
  cases a; cases b; simp_all

/-- Whether an integer is a coordinate. -/
def InRange (z : Int) : Prop := -2147483648 ≤ z ∧ z ≤ 2147483647

instance (z : Int) : Decidable (InRange z) := inferInstanceAs (Decidable (_ ∧ _))

/-- The coordinate with value `z`, if there is one. -/
def ofInt? (z : Int) : Option Coord :=
  if h : InRange z then some ⟨z, h.1, h.2⟩ else none

/-- The decimal text of a coordinate. -/
def text (c : Coord) : String := Decimal.ofInt c.val

instance : Zero Coord := ⟨⟨0, by decide, by decide⟩⟩

instance : Inhabited Coord := ⟨0⟩

@[simp] theorem val_zero : (0 : Coord).val = 0 := rfl

theorem inRange_val (c : Coord) : InRange c.val := ⟨c.lower, c.upper⟩

@[simp] theorem ofInt?_val (c : Coord) : ofInt? c.val = some c := dif_pos c.inRange_val

theorem ofInt?_eq_some_iff {z : Int} {c : Coord} : ofInt? z = some c ↔ c.val = z := by
  unfold ofInt?
  split
  · next h => exact ⟨fun hs => by cases hs; rfl, fun hv => congrArg some (ext hv.symm)⟩
  · next h => exact ⟨fun hs => (nomatch hs), fun hv => absurd (hv ▸ c.inRange_val) h⟩

theorem ofInt?_eq_none_iff {z : Int} : ofInt? z = none ↔ ¬ InRange z := by
  unfold ofInt?
  split <;> simp_all

end Coord

end GridRobot
