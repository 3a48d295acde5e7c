import GridRobot.Proofs.Grid.Text
import GridRobot.Proofs.Grid.Tiles
import GridRobot.Proofs.Plan.Integers
import Mathlib.Tactic.Abel

/-!
# Walking back

The legs of a plan in reverse order, each in the opposite direction, lead from the end of the plan
back to its start, over the same positions.

* `Direction.opposite`, `Step.back`, `retrace`: a direction, a leg and a plan backwards;
* `moves_retrace`: the moves of a plan backwards;
* `Command.back c q`: the command that leads back from `q`; `point_back` says that it reaches the
  points of `c` in reverse order;
* `Command.traverse_back`: so it visits the path of `c` in reverse order.
-/

namespace GridRobot

/-! ### Plans backwards -/

/-- The direction that leads back. -/
def Direction.opposite : Direction → Direction
  | north => south
  | east => west
  | south => north
  | west => east

/-- The leg that leads back. -/
def Step.back (s : Step) : Step := { s with direction := s.direction.opposite }

/-- The legs that lead back, the last one first. -/
def retrace (legs : List Step) : List Step := (legs.map Step.back).reverse

theorem moves_retrace (legs : List Step) :
    (retrace legs).flatMap Step.moves =
      ((legs.flatMap Step.moves).map Direction.opposite).reverse := by
  induction legs with
  | nil => rfl
  | cons s legs ih =>
    have hleg : s.back.moves = (s.moves.map Direction.opposite).reverse := by
      rw [Step.moves, Step.moves, List.map_replicate, List.reverse_replicate]
      rfl
    rw [retrace, List.map_cons, List.reverse_cons, List.flatMap_append, ← retrace, ih,
      List.flatMap_singleton, hleg, List.flatMap_cons, List.map_append, List.reverse_append]

theorem displacement_reverse_opposite (ds : List Direction) :
    displacement (ds.map Direction.opposite).reverse = -displacement ds := by
  induction ds with
  | nil => rfl
  | cons d ds ih =>
    have hmove : displacement [d.opposite] = -displacement [d] := by cases d <;> rfl
    rw [List.map_cons, List.reverse_cons, displacement_append, ih, hmove, ← neg_add_rev,
      ← displacement_append, List.singleton_append]

namespace Command

/-- The command that leads back from `q` on the same map. -/
def back (c : Command) (q : Position) : Command := ⟨c.bounds, q, retrace c.steps⟩

variable {c : Command} {q : Position}

theorem moves_back (c : Command) (q : Position) :
    (c.back q).moves = (c.moves.map Direction.opposite).reverse :=
  moves_retrace c.steps

theorem totalDistance_back (c : Command) (q : Position) :
    (c.back q).totalDistance = c.totalDistance := by
  rw [← length_moves, moves_back, List.length_reverse, List.length_map, length_moves]

/-- The points of a plan are reached again in reverse order. -/
theorem point_back (hq : q.toInts = c.point c.totalDistance) (k : Nat) :
    (c.back q).point k = c.point (c.totalDistance - k) := by
  have htake : (c.back q).moves.take k =
      ((c.moves.drop (c.totalDistance - k)).map Direction.opposite).reverse := by
    rw [moves_back, List.take_reverse, List.length_map, length_moves, List.map_drop]
  have hsplit : displacement (c.moves.take (c.totalDistance - k)) +
      displacement (c.moves.drop (c.totalDistance - k)) = displacement c.moves := by
    rw [← displacement_append, List.take_append_drop]
  have hend : c.moves.take c.totalDistance = c.moves := List.take_of_length_le (by simp)
  calc (c.back q).point k
      = q.toInts - displacement (c.moves.drop (c.totalDistance - k)) := by
        rw [point, htake, displacement_reverse_opposite, ← sub_eq_add_neg]
        rfl
    _ = c.start.toInts + displacement c.moves -
          displacement (c.moves.drop (c.totalDistance - k)) := by rw [hq, point, hend]
    _ = c.point (c.totalDistance - k) := by rw [point, ← hsplit]; abel

/-- Backwards, the last point to reach is the start, which must be inside. -/
theorem StaysInside.back (h : c.StaysInside) (hstart : c.bounds.contains c.start = true)
    (hq : q.toInts = c.point c.totalDistance) : (c.back q).StaysInside := by
  intro k hk hk'
  rw [totalDistance_back] at hk'
  rw [point_back hq]
  by_cases hlast : c.totalDistance - k = 0
  · rw [hlast, point, List.take_zero, displacement_nil, add_zero]
    exact Bounds.contains_iff_covers.1 hstart
  · exact h _ (by omega) (by omega)

theorem map_range_back (hq : q.toInts = c.point c.totalDistance) :
    (List.range (c.totalDistance + 1)).map (c.back q).point =
      ((List.range (c.totalDistance + 1)).map c.point).reverse := by
  rw [← List.map_reverse, List.range_eq_range', List.reverse_range', List.map_map,
    ← List.range_eq_range']
  refine List.map_congr_left fun k _ => ?_
  rw [point_back hq, Function.comp_apply, Nat.zero_add, Nat.add_sub_cancel]

/-- The path of a plan that stays inside ends with its last point. -/
theorem exists_finalPosition (h : c.StaysInside) :
    ∃ q, c.traverse.finalPosition = some q ∧ q.toInts = c.point c.totalDistance := by
  have hlast := congrArg List.getLast? h.traverse_eq.2
  rw [List.range_succ, List.map_append, List.map_singleton, List.getLast?_concat,
    List.getLast?_map, Option.map_eq_some_iff] at hlast
  exact hlast

/-- **The way back.** From the end of a path that stays inside the map, the legs that lead back stay
inside as well and visit the same positions in reverse order, if the start is inside the map. -/
theorem traverse_back (hstart : c.bounds.contains c.start = true)
    (hin : c.traverse.inBounds = true) :
    ∃ q, c.traverse.finalPosition = some q ∧ (c.back q).traverse.inBounds = true ∧
      (c.back q).traverse.path = c.traverse.path.reverse := by
  have hinside : c.StaysInside := (inBounds_iff_staysInside c).1 hin
  obtain ⟨q, hfinal, hq⟩ := exists_finalPosition hinside
  obtain ⟨hback, hpath⟩ := (hinside.back hstart hq).traverse_eq
  refine ⟨q, hfinal, hback, List.map_injective_iff.2 Position.toInts_injective ?_⟩
  rw [hpath, totalDistance_back, map_range_back hq, List.map_reverse, hinside.traverse_eq.2]

/-- Along two sides of a map of fifteen by seventeen tiles that touches the end of the grid. -/
def edgePlan : Command where
  bounds := ⟨⟨⟨2147483632, by decide, by decide⟩, 0⟩, ⟨.highest, ⟨17, by decide, by decide⟩⟩⟩
  start := ⟨⟨2147483632, by decide, by decide⟩, 0⟩
  steps := [⟨.east, 14, by decide, by decide⟩, ⟨.north, 16, by decide, by decide⟩]

theorem traverse_back_edgePlan :
    edgePlan.bounds.contains edgePlan.start = true ∧ edgePlan.traverse.inBounds = true ∧
      ∃ q, edgePlan.traverse.finalPosition = some q ∧
        (edgePlan.back q).traverse.inBounds = true ∧
        (edgePlan.back q).traverse.path = edgePlan.traverse.path.reverse ∧
        (edgePlan.back q).traverse.path.length = 31 := by
  have hstart : edgePlan.bounds.contains edgePlan.start = true := by decide
  have hin : edgePlan.traverse.inBounds = true := by decide
  obtain ⟨q, hfinal, hback, hpath⟩ := traverse_back hstart hin
  refine ⟨hstart, hin, q, hfinal, hback, hpath, ?_⟩
  rw [hpath, List.length_reverse]
  decide

end Command

end GridRobot
