import GridRobot.Proofs.Plan.Calls
import Mathlib.Order.Bounds.Defs

/-!
# Legs that are spent

A cursor counts the legs that it has spent. The count never skips a leg, and at any time it is the
greatest number of legs whose moves are all taken.

* `distanceOf_take_add_drop`: the distance of a plan that is cut between two legs;
* `legsWithin`: the numbers of legs that a number of moves is enough for;
* `Cursor.index_next`, `Cursor.isGreatest_index`: what one move does to the count of a cursor, and
  what the count is after any number of moves.
-/

namespace GridRobot

/-! ### Distances -/

theorem distanceOf_append (steps steps' : List Step) :
    distanceOf (steps ++ steps') = distanceOf steps + distanceOf steps' := by
  induction steps with
  | nil => simp
  | cons s steps ih => rw [List.cons_append, distanceOf_cons, ih, distanceOf_cons, Nat.add_assoc]

theorem distanceOf_take_add_drop (n : Nat) (steps : List Step) :
    distanceOf (steps.take n) + distanceOf (steps.drop n) = distanceOf steps := by
  rw [← distanceOf_append, List.take_append_drop]

theorem distanceOf_drop_le (n : Nat) (steps : List Step) :
    distanceOf (steps.drop n) ≤ distanceOf steps := by
  have := distanceOf_take_add_drop n steps
  omega

theorem headDistance_add_tail (steps : List Step) :
    headDistance steps + distanceOf steps.tail = distanceOf steps := by
  cases steps <;> rfl

/-- The numbers of legs that `n` moves are enough for. -/
def legsWithin (steps : List Step) (n : Nat) : Set Nat :=
  {i | i ≤ steps.length ∧ distanceOf (steps.take i) ≤ n}

/-! ### The count of a cursor -/

namespace Cursor

variable {c c' : Cursor} {d : Direction}

theorem steps_next (h : c.next = some (d, c')) : c'.steps = c.steps := (registers_next h).1

/-- A move is the last one of its leg or not. -/
theorem index_next (h : c.next = some (d, c')) :
    c'.index = c.index ∨ c'.index = c.index + 1 := by
  obtain ⟨-, s, -, -, hregisters⟩ := registers_next h
  have hindex : c'.index = (c'.registers).index := rfl
  rw [hindex, hregisters]
  split
  · exact .inr rfl
  · exact .inl rfl

/-- The moves to come are among those of the pending legs. -/
theorem remainingDistance_le (c : Cursor) : c.remainingDistance ≤ distanceOf c.pending := by
  rw [← headDistance_add_tail c.pending]
  exact Nat.add_le_add_right c.remaining_le _

/-- Of a leg that is pending there is at least one move to come. -/
theorem distanceOf_drop_lt {i : Nat} (hi : i ≤ c.steps.length) (hlt : c.index < i) :
    distanceOf (c.steps.drop i) < c.remainingDistance := by
  have hpending : c.pending ≠ [] := by
    rw [c.pending_eq, ne_eq, List.drop_eq_nil_iff]
    omega
  have hdrop : c.steps.drop i = c.pending.tail.drop (i - (c.index + 1)) := by
    rw [c.pending_eq, List.tail_drop, List.drop_drop]
    congr 1
    omega
  calc distanceOf (c.steps.drop i)
      = distanceOf (c.pending.tail.drop (i - (c.index + 1))) := by rw [hdrop]
    _ ≤ distanceOf c.pending.tail := distanceOf_drop_le _ _
    _ < c.remainingDistance := Nat.lt_add_of_pos_left (c.remaining_pos hpending)

/-- The legs that are spent are as many as the moves that are taken are enough for. -/
theorem isGreatest_index {n : Nat} (h : n + c.remainingDistance = distanceOf c.steps) :
    IsGreatest (legsWithin c.steps n) c.index := by
  constructor
  · refine ⟨c.index_le, ?_⟩
    have hle := c.remainingDistance_le
    rw [← distanceOf_take_add_drop c.index c.steps, ← c.pending_eq] at h
    omega
  · rintro i ⟨hi, hfits⟩
    refine Nat.le_of_not_lt fun hlt => ?_
    have hdrop := distanceOf_drop_lt hi hlt
    rw [← distanceOf_take_add_drop i c.steps] at h
    omega

end Cursor

end GridRobot
