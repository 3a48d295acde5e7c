import GridRobot.Proofs.Plan.Moves
import Mathlib.Algebra.Group.Prod
import Mathlib.Algebra.Ring.Int.Defs
import Mathlib.Data.List.Induction
import Mathlib.Data.Nat.Find
import Mathlib.Order.Bounds.Defs

/-!
# Walks on the unbounded grid

The coordinates of the grid are 32-bit numbers, and a walk is refused when it would leave their
range. Here the same plan is followed in the integers, where no move is refused.

* `displacement`: where several moves lead, seen from their start;
* `Command.point c k`: the point of the plane reached after `k` moves of the plan;
* `Bounds.Covers`, `Representable`: points of the rectangle and points with a position;
* `Command.StaysInside`, `Command.exits`: whether the plan stays in the rectangle, and the
  numbers of moves after which it is outside;
* `Trail.Follows.covers`, `exists_follows`: a trail that makes the moves, and the points of the
  moves in the rectangle, give each other.

The main statement, `traverse_eq_simulation`, says that a traversal is the list of these points
up to the first one outside the rectangle. The coordinate range only decides whether that point
is listed: every point of a rectangle has a position (`Bounds.Covers.representable`).
-/

namespace GridRobot

/-- The position as a point of the plane. -/
def Position.toInts (p : Position) : Int × Int := (p.x.val, p.y.val)

/-- The displacement of several unit moves. -/
def displacement (ds : List Direction) : Int × Int :=
  ((ds.map Direction.dx).sum, (ds.map Direction.dy).sum)

/-- Whether a point lies in the half-open rectangle. -/
def Bounds.Covers (b : Bounds) (z : Int × Int) : Prop :=
  (b.min.x.val ≤ z.1 ∧ z.1 < b.max.x.val) ∧ b.min.y.val ≤ z.2 ∧ z.2 < b.max.y.val

/-- Whether a point lies in the coordinate range. -/
def Representable (z : Int × Int) : Prop := Coord.InRange z.1 ∧ Coord.InRange z.2

instance (z : Int × Int) : Decidable (Representable z) := inferInstanceAs (Decidable (_ ∧ _))

namespace Command

/-- The point reached after `k` moves of the plan, on a grid without limits. -/
def point (c : Command) (k : Nat) : Int × Int := c.start.toInts + displacement (c.moves.take k)

/-- Whether all points after the start lie in the rectangle. -/
def StaysInside (c : Command) : Prop :=
  ∀ k, 1 ≤ k → k ≤ c.totalDistance → c.bounds.Covers (c.point k)

/-- The numbers of moves after which the plan is outside the rectangle. -/
def exits (c : Command) : Set Nat :=
  {k | 1 ≤ k ∧ k ≤ c.totalDistance ∧ ¬ c.bounds.Covers (c.point k)}

end Command

/-! ### Points and positions -/

@[simp] theorem displacement_nil : displacement [] = 0 := rfl

theorem displacement_append (ds es : List Direction) :
    displacement (ds ++ es) = displacement ds + displacement es := by
  simp [displacement]

theorem displacement_append_singleton (ds : List Direction) (d : Direction) :
    displacement (ds ++ [d]) = displacement ds + (d.dx, d.dy) := by
  rw [displacement_append]
  simp [displacement]

theorem Bounds.contains_iff_covers {b : Bounds} {p : Position} :
    b.contains p = true ↔ b.Covers p.toInts := Bounds.contains_iff

/-- The corners of a rectangle are positions, and so is every point between them. -/
theorem Bounds.Covers.representable {b : Bounds} {z : Int × Int} (h : b.Covers z) :
    Representable z := by
  obtain ⟨⟨hx, hx'⟩, hy, hy'⟩ := h
  have := b.min.x.lower
  have := b.max.x.upper
  have := b.min.y.lower
  have := b.max.y.upper
  exact ⟨⟨by omega, by omega⟩, by omega, by omega⟩

theorem Position.representable_toInts (p : Position) : Representable p.toInts :=
  ⟨p.x.inRange_val, p.y.inRange_val⟩

theorem Position.step?_eq_some_iff_toInts {p q : Position} {d : Direction} :
    p.step? d = some q ↔ q.toInts = p.toInts + (d.dx, d.dy) := by
  rw [Position.step?_eq_some_iff, Prod.ext_iff]
  rfl

theorem Position.step?_eq_none_iff_toInts {p : Position} {d : Direction} :
    p.step? d = none ↔ ¬ Representable (p.toInts + (d.dx, d.dy)) :=
  Position.step?_eq_none_iff

/-! ### Trails in the plane -/

section Follows

variable {b : Bounds} {p : Position} {ds : List Direction} {t : Trail}

theorem Trail.Follows.last_toInts (h : t.Follows b p ds) :
    t.last.toInts = p.toInts + displacement ds := by
  induction h with
  | single => simp
  | push _ hs _ ih =>
    rw [Trail.last_push, Position.step?_eq_some_iff_toInts.1 hs, ih, displacement_append_singleton,
      add_assoc]

/-- The positions of a trail are the points of its moves. -/
theorem Trail.Follows.map_toInts (h : t.Follows b p ds) :
    t.toList.map Position.toInts =
      (List.range (ds.length + 1)).map fun k => p.toInts + displacement (ds.take k) := by
  induction h with
  | single => simp
  | @push t ds d q hf hs hq ih =>
    have hlast := (hf.push hs hq).last_toInts
    rw [Trail.last_push] at hlast
    rw [Trail.toList_push, List.map_append, ih, List.length_append, List.length_singleton,
      List.range_succ (n := ds.length + 1), List.map_append]
    congr 1
    · apply List.map_congr_left
      intro k hk
      rw [List.take_append_of_le_length (by simpa [Nat.lt_succ_iff] using hk)]
    · simp [hlast, List.take_of_length_le]

/-- While the points lie in the rectangle, there is a trail that follows the moves. -/
theorem exists_follows
    (h : ∀ k, 1 ≤ k → k ≤ ds.length → b.Covers (p.toInts + displacement (ds.take k))) :
    ∃ t : Trail, t.Follows b p ds := by
  induction ds using List.reverseRecOn with
  | nil => exact ⟨.single p, .single⟩
  | append_singleton ds d ih =>
    obtain ⟨t, ht⟩ := ih fun k hk hk' => by
      simpa [List.take_append_of_le_length hk'] using h k hk (by simp; omega)
    have hz : b.Covers (t.last.toInts + (d.dx, d.dy)) := by
      have := h (ds.length + 1) (by omega) (by simp)
      rwa [List.take_of_length_le (by simp), displacement_append_singleton, ← add_assoc,
        ← ht.last_toInts] at this
    cases hs : t.last.step? d with
    | none => exact absurd hz.representable (Position.step?_eq_none_iff_toInts.1 hs)
    | some q =>
      refine ⟨t.push q, ht.push hs (Bounds.contains_iff_covers.2 ?_)⟩
      rwa [Position.step?_eq_some_iff_toInts.1 hs]

/-- A trail that follows the moves stays in the rectangle. -/
theorem Trail.Follows.covers (h : t.Follows b p ds) {k : Nat} (hk : 1 ≤ k) (hk' : k ≤ ds.length) :
    b.Covers (p.toInts + displacement (ds.take k)) := by
  induction h with
  | single => simp at hk'; omega
  | @push t ds d q hf hs hq ih =>
    by_cases hlast : k ≤ ds.length
    · rw [List.take_append_of_le_length hlast]
      exact ih hlast
    · rw [List.take_of_length_le (by simp; omega), ← (hf.push hs hq).last_toInts]
      exact Bounds.contains_iff_covers.1 hq

end Follows

/-! ### The traversal -/

namespace Command

variable {c : Command} {t : Trail} {m n : Nat}

theorem map_toInts_of_follows (h : t.Follows c.bounds c.start (c.moves.take n))
    (hn : n ≤ c.totalDistance) :
    t.toList.map Position.toInts = (List.range (n + 1)).map c.point := by
  rw [h.map_toInts, List.length_take, length_moves, Nat.min_eq_left hn]
  apply List.map_congr_left
  intro k hk
  rw [List.take_take, Nat.min_eq_left (Nat.lt_succ_iff.1 (List.mem_range.1 hk)), point]

theorem exists_follows_take (hn : n ≤ c.totalDistance)
    (h : ∀ k, 1 ≤ k → k ≤ n → c.bounds.Covers (c.point k)) :
    ∃ t : Trail, t.Follows c.bounds c.start (c.moves.take n) := by
  apply exists_follows
  intro k hk hk'
  rw [List.length_take, length_moves, Nat.min_eq_left hn] at hk'
  rw [List.take_take, Nat.min_eq_left hk']
  exact h k hk hk'

/-- A plan that stays inside is walked to its end. -/
theorem StaysInside.traverse_eq (h : c.StaysInside) :
    c.traverse.inBounds = true ∧
      c.traverse.path.map Position.toInts = (List.range (c.totalDistance + 1)).map c.point := by
  obtain ⟨t, ht⟩ := exists_follows_take (Nat.le_refl _) h
  have hmoves : c.moves.take c.totalDistance = c.moves := List.take_of_length_le (by simp)
  have hwalk : c.walk = ⟨t, .complete⟩ := by
    rw [walk_eq_walkMoves, ← List.append_nil c.moves,
      walkMoves_of_follows (hmoves ▸ ht), walkMoves_nil]
  rw [traverse, hwalk]
  exact ⟨rfl, map_toInts_of_follows ht (Nat.le_refl _)⟩

/-- Only a plan that stays inside is walked to its end. -/
theorem inBounds_iff_staysInside (c : Command) : c.traverse.inBounds = true ↔ c.StaysInside :=
  ⟨fun hin _ hk hk' => (follows_of_inBounds hin).covers hk (by rwa [length_moves]),
    fun h => h.traverse_eq.1⟩

/-- The walk ends at the first exit, which is on the path if it has a position. -/
theorem traverse_eq_of_isLeast (h : IsLeast c.exits m) :
    c.traverse.inBounds = false ∧
      c.traverse.path.map Position.toInts =
        (List.range (if Representable (c.point m) then m + 1 else m)).map c.point := by
  obtain ⟨⟨hm, hm', hout⟩, hleast⟩ := h
  obtain ⟨n, rfl⟩ : ∃ n, m = n + 1 := ⟨m - 1, by omega⟩
  have hn : n < c.moves.length := by rw [length_moves]; omega
  obtain ⟨t, ht⟩ : ∃ t : Trail, t.Follows c.bounds c.start (c.moves.take n) := by
    refine exists_follows_take (by omega) fun k hk hk' => ?_
    by_contra hc
    have := hleast ⟨hk, by omega, hc⟩
    omega
  have hpath := map_toInts_of_follows ht (by omega)
  -- one more move leads from the end of the trail to the exit
  have hwalk : c.walk = walkMoves c.bounds (c.moves[n] :: c.moves.drop (n + 1)) t := by
    rw [walk_eq_walkMoves, ← walkMoves_of_follows ht, ← List.drop_eq_getElem_cons hn,
      List.take_append_drop]
  have hpoint : c.point (n + 1) = t.last.toInts + (c.moves[n].dx, c.moves[n].dy) := by
    rw [point, List.take_succ_eq_append_getElem hn, displacement_append_singleton, ← add_assoc,
      ← ht.last_toInts]
  rw [traverse, hwalk]
  cases hs : t.last.step? c.moves[n] with
  | none =>
    rw [walkMoves_offGrid hs, if_neg (hpoint ▸ Position.step?_eq_none_iff_toInts.1 hs)]
    exact ⟨rfl, hpath⟩
  | some q =>
    have hq : q.toInts = c.point (n + 1) := by
      rw [hpoint, Position.step?_eq_some_iff_toInts.1 hs]
    have hoff : c.bounds.contains q = false := by
      rw [← Bool.not_eq_true, Bounds.contains_iff_covers, hq]
      exact hout
    rw [walkMoves_offMap hs hoff, if_pos (hq ▸ q.representable_toInts)]
    refine ⟨rfl, ?_⟩
    simp only [Walk.traversal, Trail.toList_push, List.map_append, hpath, List.map_cons,
      List.map_nil, hq, List.range_succ (n := n + 1)]

/-- **A traversal is the walk on the unbounded grid.** Either all points of the plan lie in the
rectangle and all of them are on the path, or the path ends with the first point outside, which
is left out if it is beyond the coordinate range. The range has no part in the verdict. -/
theorem traverse_eq_simulation (c : Command) :
    ((c.StaysInside ∧ c.traverse.inBounds = true ∧
        c.traverse.path.map Position.toInts = (List.range (c.totalDistance + 1)).map c.point) ∨
      ∃ m, IsLeast c.exits m ∧ c.traverse.inBounds = false ∧
        c.traverse.path.map Position.toInts =
          (List.range (if Representable (c.point m) then m + 1 else m)).map c.point) ∧
      (c.traverse.inBounds = true ↔ c.StaysInside) := by
  by_cases h : c.StaysInside
  · exact ⟨.inl ⟨h, h.traverse_eq⟩, fun _ => h, fun _ => h.traverse_eq.1⟩
  · obtain ⟨m, hm⟩ : ∃ m, IsLeast c.exits m := by
      classical
      have hex : ∃ k, k ∈ c.exits := by
        simp only [StaysInside, not_forall, exists_prop] at h
        exact h
      exact ⟨Nat.find hex, Nat.find_spec hex, fun k hk => Nat.find_min' hex hk⟩
    have htr := traverse_eq_of_isLeast hm
    exact ⟨.inr ⟨m, hm, htr⟩, fun hin => by simp [htr.1] at hin, fun hin => absurd hin h⟩

end Command

end GridRobot
