import GridRobot.Proofs.Plan.Integers
import Mathlib.Algebra.BigOperators.Group.List.Basic
import Mathlib.Algebra.Module.NatInt

/-!
# Corners of a plan

A plan turns only where one leg ends and the next begins. Between two corners it goes straight on,
and a rectangle that has both has all the tiles between them. So a plan can be checked without
walking it: by its corners, and by the target of its first move, as the start is not checked.

* `Direction.offset`, `Step.displacement`, `Command.corner`: the points in question;
* `Bounds.CoversRoute`: a route of several displacements stays in the rectangle wherever one of
  them ends;
* `Bounds.Covers.between`, `Bounds.coversRoute_moves_iff`: a leg, from its two ends;
* `Command.inBounds_iff_corners`: a whole plan.
-/

namespace GridRobot

/-- Where a unit move leads, seen from its start. -/
def Direction.offset (d : Direction) : Int × Int := (d.dx, d.dy)

/-- Where a leg leads, seen from its start. -/
def Step.displacement (s : Step) : Int × Int := s.distance • s.direction.offset

/-- The point at the end of the first `i` legs, on a grid without limits. -/
def Command.corner (c : Command) (i : Nat) : Int × Int :=
  c.start.toInts + ((c.steps.take i).map Step.displacement).sum

theorem displacement_eq_sum (ds : List Direction) :
    displacement ds = (ds.map Direction.offset).sum := by
  induction ds with
  | nil => rfl
  | cons d ds ih =>
    rw [List.map_cons, List.sum_cons, ← ih]
    simp [displacement, Direction.offset]

/-! ### Routes -/

namespace Bounds

variable {b : Bounds} {z : Int × Int}

/-- Whether the rectangle has the points where the displacements of a route end. The point where
the first one begins is not checked. -/
def CoversRoute (b : Bounds) : Int × Int → List (Int × Int) → Prop
  | _, [] => True
  | z, v :: vs => b.Covers (z + v) ∧ b.CoversRoute (z + v) vs

theorem coversRoute_append (z : Int × Int) (vs ws : List (Int × Int)) :
    b.CoversRoute z (vs ++ ws) ↔ b.CoversRoute z vs ∧ b.CoversRoute (z + vs.sum) ws := by
  induction vs generalizing z with
  | nil => simp [CoversRoute]
  | cons v vs ih =>
    rw [List.cons_append, CoversRoute, CoversRoute, ih, List.sum_cons, add_assoc, and_assoc]

theorem coversRoute_iff (z : Int × Int) (vs : List (Int × Int)) :
    b.CoversRoute z vs ↔ ∀ k, 1 ≤ k → k ≤ vs.length → b.Covers (z + (vs.take k).sum) := by
  induction vs generalizing z with
  | nil =>
    simp only [CoversRoute, List.length_nil, true_iff]
    intro k hk hk'
    omega
  | cons v vs ih =>
    rw [CoversRoute, ih]
    constructor
    · rintro ⟨hv, hvs⟩ k hk hk'
      obtain ⟨k, rfl⟩ := Nat.exists_eq_add_of_le' hk
      rw [List.take_succ_cons, List.sum_cons, ← add_assoc]
      cases k with
      | zero => simpa using hv
      | succ k => exact hvs (k + 1) (by omega) (by simpa using hk')
    · intro h
      refine ⟨by simpa using h 1 (by omega) (by simp), fun k hk hk' => ?_⟩
      have := h (k + 1) (by omega) (by simpa using hk')
      rwa [List.take_succ_cons, List.sum_cons, ← add_assoc] at this

/-! ### Legs -/

/-- A rectangle that has two points of a straight line has the points between them. -/
theorem Covers.between {d : Direction} {i j k : Nat} (hi : b.Covers (z + i • d.offset))
    (hj : b.Covers (z + j • d.offset)) (hik : i ≤ k) (hkj : k ≤ j) :
    b.Covers (z + k • d.offset) := by
  unfold Covers at hi hj ⊢
  cases d <;> simp [Direction.offset, Direction.dx, Direction.dy] at hi hj ⊢ <;> omega

/-- A leg stays in the rectangle when its first and its last point do. -/
theorem coversRoute_moves_iff (z : Int × Int) (s : Step) :
    b.CoversRoute z (s.moves.map Direction.offset) ↔
      b.Covers (z + s.direction.offset) ∧ b.Covers (z + s.displacement) := by
  have hpoint : ∀ k, k ≤ s.distance →
      ((s.moves.map Direction.offset).take k).sum = k • s.direction.offset := by
    intro k hk
    rw [Step.moves, List.map_replicate, List.take_replicate, List.sum_replicate, Nat.min_eq_left hk]
  rw [coversRoute_iff, List.length_map, Step.length_moves]
  constructor
  · intro h
    have hfirst := h 1 (Nat.le_refl _) s.pos
    have hlast := h s.distance s.pos (Nat.le_refl _)
    rw [hpoint 1 s.pos, one_nsmul] at hfirst
    rw [hpoint s.distance (Nat.le_refl _)] at hlast
    exact ⟨hfirst, hlast⟩
  · rintro ⟨hfirst, hlast⟩ k hk hk'
    rw [hpoint k hk']
    rw [← one_nsmul s.direction.offset] at hfirst
    exact hfirst.between hlast hk hk'

theorem coversRoute_flatMap_cons_iff (z : Int × Int) (s : Step) (steps : List Step) :
    b.CoversRoute z (((s :: steps).flatMap Step.moves).map Direction.offset) ↔
      b.Covers (z + s.direction.offset) ∧ b.Covers (z + s.displacement) ∧
        b.CoversRoute (z + s.displacement) ((steps.flatMap Step.moves).map Direction.offset) := by
  have hsum : (s.moves.map Direction.offset).sum = s.displacement := by
    rw [Step.moves, List.map_replicate, List.sum_replicate, Step.displacement]
  rw [List.flatMap_cons, List.map_append, coversRoute_append, coversRoute_moves_iff, hsum,
    and_assoc]

/-- Legs that begin inside the rectangle stay in it when they end in it. -/
theorem Covers.coversRoute_flatMap_iff (hz : b.Covers z) (steps : List Step) :
    b.CoversRoute z ((steps.flatMap Step.moves).map Direction.offset) ↔
      b.CoversRoute z (steps.map Step.displacement) := by
  induction steps generalizing z with
  | nil => rfl
  | cons s steps ih =>
    rw [coversRoute_flatMap_cons_iff, List.map_cons, CoversRoute]
    constructor
    · rintro ⟨-, hend, hrest⟩
      exact ⟨hend, (ih hend).1 hrest⟩
    · rintro ⟨hend, hrest⟩
      -- the first move leads to a point between the two ends of the leg
      have hbegin : b.Covers (z + 0 • s.direction.offset) := by simpa using hz
      have hfirst := hbegin.between hend (Nat.zero_le 1) s.pos
      rw [one_nsmul] at hfirst
      exact ⟨hfirst, hend, (ih hend).2 hrest⟩

end Bounds

/-! ### Plans -/

namespace Command

theorem staysInside_iff_coversRoute (c : Command) :
    c.StaysInside ↔ c.bounds.CoversRoute c.start.toInts (c.moves.map Direction.offset) := by
  rw [Bounds.coversRoute_iff, List.length_map, length_moves]
  simp only [StaysInside, point, displacement_eq_sum, List.map_take]

/-- **Corners are enough.** A path stays inside the map when the plan has no legs, or when the
target of its first move and the ends of all legs lie in the rectangle. -/
theorem inBounds_iff_corners (c : Command) :
    c.traverse.inBounds = true ↔
      c.steps = [] ∨ ∃ s, c.steps.head? = some s ∧
        c.bounds.Covers (c.start.toInts + s.direction.offset) ∧
        ∀ i, 1 ≤ i → i ≤ c.steps.length → c.bounds.Covers (c.corner i) := by
  have hcorners : (∀ i, 1 ≤ i → i ≤ c.steps.length → c.bounds.Covers (c.corner i)) ↔
      c.bounds.CoversRoute c.start.toInts (c.steps.map Step.displacement) := by
    rw [Bounds.coversRoute_iff, List.length_map]
    simp only [corner, List.map_take]
  rw [inBounds_iff_staysInside, staysInside_iff_coversRoute, hcorners, moves]
  cases c.steps with
  | nil => simp [Bounds.CoversRoute]
  | cons s steps =>
    rw [Bounds.coversRoute_flatMap_cons_iff, List.map_cons, Bounds.CoversRoute]
    constructor
    · rintro ⟨hfirst, hend, hrest⟩
      exact .inr ⟨s, rfl, hfirst, hend, (hend.coversRoute_flatMap_iff steps).1 hrest⟩
    · rintro (h | ⟨s', hs, hfirst, hend, hrest⟩)
      · cases h
      · cases hs
        exact ⟨hfirst, hend, (hend.coversRoute_flatMap_iff steps).2 hrest⟩

/-- From a start outside, a leg may end inside the map and still begin outside. -/
example : (traverse ⟨⟨.origin, ⟨5, by decide, by decide⟩, ⟨5, by decide, by decide⟩⟩,
    ⟨⟨-2, by decide, by decide⟩, 0⟩, [⟨.east, 3, by decide, by decide⟩]⟩).inBounds = false := by
  decide

end Command

end GridRobot
