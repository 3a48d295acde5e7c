import GridRobot.Proofs.Grid.Tiles
import GridRobot.Proofs.Robot.Agreement

/-!
# Larger maps

A map only refuses moves. With more tiles the same plan is refused later or not at all: a walk goes
on where it stopped before, and a run makes the moves it made before and then perhaps some more.

* `Bounds.Within`: one rectangle has all the tiles of another;
* `walkMoves_prefix_of_within`, `Trail.Follows.mono`: walks in the larger rectangle;
* `Robot.OnPlan.trail_isPrefix_of_within`: robots at the end of their runs;
* `Robot.larger_map_goes_further`: traversals and runs of the same plan on both maps.
-/

namespace GridRobot

/-- Every tile of `b` is a tile of `b'`. -/
def Bounds.Within (b b' : Bounds) : Prop := ∀ p, b.contains p = true → b'.contains p = true

variable {b b' : Bounds}

/-! ### Walks -/

/-- A walk goes at least as far in a larger rectangle. -/
theorem walkMoves_prefix_of_within (h : b.Within b') (ds : List Direction) (t : Trail) :
    (walkMoves b ds t).trail.toList <+: (walkMoves b' ds t).trail.toList := by
  induction ds generalizing t with
  | nil => exact List.prefix_rfl
  | cons d ds ih =>
    cases hs : t.last.step? d with
    | none => rw [walkMoves_offGrid hs, walkMoves_offGrid hs]
    | some p =>
      cases hp : b.contains p with
      | true =>
        rw [walkMoves_onMap hs hp, walkMoves_onMap hs (h p hp)]
        exact ih (t.push p)
      | false =>
        -- the exit of the smaller rectangle may be a tile of the larger one
        rw [walkMoves_offMap hs hp]
        cases hp' : b'.contains p with
        | false => rw [walkMoves_offMap hs hp']
        | true =>
          rw [walkMoves_onMap hs hp']
          exact prefix_walkMoves b' ds (t.push p)

theorem Trail.Follows.mono (h : b.Within b') {p : Position} {t : Trail} {ds : List Direction}
    (hf : t.Follows b p ds) : t.Follows b' p ds := by
  induction hf with
  | single => exact .single
  | push _ hs hq ih => exact ih.push hs (h _ hq)

namespace Command

variable {c c' : Command}

theorem path_isPrefix_of_within (hb : c.bounds.Within c'.bounds) (hstart : c.start = c'.start)
    (hmoves : c.moves = c'.moves) : c.traverse.path <+: c'.traverse.path := by
  rw [traverse, traverse, walk_eq_walkMoves, walk_eq_walkMoves, hstart, hmoves]
  exact walkMoves_prefix_of_within hb c'.moves (.single c'.start)

/-- A walk that stays inside the smaller rectangle is the same in the larger one. -/
theorem traverse_eq_of_within (hb : c.bounds.Within c'.bounds) (hstart : c.start = c'.start)
    (hmoves : c.moves = c'.moves) (hin : c.traverse.inBounds = true) :
    c'.traverse = c.traverse := by
  have hfollows : c.walk.trail.Follows c'.bounds c'.start c'.moves := by
    rw [← hstart, ← hmoves]
    exact (follows_of_inBounds hin).mono hb
  have hwalk : c'.walk = ⟨c.walk.trail, .complete⟩ := by
    rw [walk_eq_walkMoves c', ← List.append_nil c'.moves, walkMoves_of_follows hfollows,
      walkMoves_nil]
  rw [traverse, traverse, hwalk, ← inBounds_iff_complete.1 hin]

end Command

/-! ### Runs -/

namespace Robot

variable {c c' : Command} {r r' : Robot} {o : RunOutcome}

/-- When its run is over, the robot on the larger map has made the moves that a robot on the
smaller one has made. -/
theorem OnPlan.trail_isPrefix_of_within (hb : c.bounds.Within c'.bounds) (h : r.OnPlan c)
    (h' : r'.OnPlan c') (ho : r'.status.outcome? = some o)
    (hpath : c.traverse.path <+: c'.traverse.path) : r.trail.toList <+: r'.trail.toList := by
  have hprefix : r.trail.toList <+: c'.traverse.path := h.trail_isPrefix.trans hpath
  rcases h'.agrees ho with ⟨-, -, htrail⟩ | ⟨-, -, -, htrail⟩ | ⟨-, p, -, hout, hexit⟩
  · rwa [← htrail] at hprefix
  · rwa [← htrail] at hprefix
  · have hexit' : c'.traverse.path = r'.trail.toList ++ [p] := hexit
    rw [hexit', List.prefix_concat_iff] at hprefix
    rcases hprefix with heq | hprefix
    · -- the exit of the larger map cannot be a position of the smaller one
      have hmem : p ∈ r.trail.toList.tail := by
        rw [heq, List.tail_append_of_ne_nil (Trail.toList_ne_nil _)]
        exact List.mem_append_right _ (List.mem_singleton_self p)
      rw [hb p (h.consistent.inside p hmem)] at hout
      cases hout
    · exact hprefix

theorem OnPlan.cleaned_of_within (hb : c.bounds.Within c'.bounds) (h : r.OnPlan c)
    (h' : r'.OnPlan c') (htrail : r.trail.toList <+: r'.trail.toList) (p : Position)
    (hp : p ∈ r.cleaned) : p ∈ r'.cleaned := by
  obtain ⟨hmem, hin⟩ := (h.cleaned_iff p).1 hp
  exact (h'.cleaned_iff p).2 ⟨htrail.subset hmem, hb p hin⟩

/-- **A larger map never hurts.** For the same start and legs, the path on a map is the beginning
of the path on a larger one, and the whole of it if it stays inside. The run on the larger map
makes at least as many moves and cleans at least as many tiles. -/
theorem larger_map_goes_further (hstart : c.start = c'.start) (hsteps : c.steps = c'.steps)
    (hb : c.bounds.Within c'.bounds) :
    c.traverse.path <+: c'.traverse.path ∧
      (c.traverse.inBounds = true → c'.traverse = c.traverse) ∧
      (activate c).runToEnd.1.cleanedTiles ≤ (activate c').runToEnd.1.cleanedTiles ∧
      (activate c).runToEnd.1.moves ≤ (activate c').runToEnd.1.moves := by
  have hmoves : c.moves = c'.moves := by rw [Command.moves, Command.moves, hsteps]
  have hpath := Command.path_isPrefix_of_within hb hstart hmoves
  obtain ⟨r, o, hplan, -, hs⟩ := exists_onPlan_runToEnd c
  obtain ⟨r', o', hplan', ho', hs'⟩ := exists_onPlan_runToEnd c'
  have htrail := hplan.trail_isPrefix_of_within hb hplan' ho' hpath
  refine ⟨hpath, Command.traverse_eq_of_within hb hstart hmoves, ?_, ?_⟩
  · rw [hs, hs']
    exact PositionSet.size_le_of_subset (hplan.cleaned_of_within hb hplan' htrail)
  · have hlength := htrail.length_le
    rw [Trail.length_toList, Trail.length_toList] at hlength
    rw [hs, hs']
    exact Nat.le_of_succ_le_succ hlength

/-- Two moves to the east and three to the north, on a square map. -/
def squarePlan (side : Coord) : Command where
  bounds := ⟨.origin, ⟨side, side⟩⟩
  start := .origin
  steps := cornerPlan.steps

theorem within_squarePlan {m n : Coord} (h : m.val ≤ n.val) :
    (squarePlan m).bounds.Within (squarePlan n).bounds := by
  intro p hp
  obtain ⟨⟨hx, hx'⟩, hy, hy'⟩ := Bounds.contains_iff.1 hp
  exact Bounds.contains_iff.2 ⟨⟨hx, Int.lt_of_lt_of_le hx' h⟩, hy, Int.lt_of_lt_of_le hy' h⟩

/-- The last move leaves a map of three by three tiles, but not one of four by four. -/
theorem larger_map_goes_further_squarePlan :
    let c := squarePlan ⟨3, by decide, by decide⟩
    let c' := squarePlan ⟨4, by decide, by decide⟩
    let c'' := squarePlan ⟨5, by decide, by decide⟩
    c.bounds.Within c'.bounds ∧ c.traverse.path <+: c'.traverse.path ∧
      c.traverse.inBounds = false ∧
      (activate c).runToEnd.1.cleanedTiles ≤ (activate c').runToEnd.1.cleanedTiles ∧
      (activate c).runToEnd.1.moves ≤ (activate c').runToEnd.1.moves ∧
      c'.bounds.Within c''.bounds ∧ c'.traverse.inBounds = true ∧ c''.traverse = c'.traverse := by
  intro c c' c''
  have hb : c.bounds.Within c'.bounds := within_squarePlan (by decide)
  have hb' : c'.bounds.Within c''.bounds := within_squarePlan (by decide)
  have hin : c'.traverse.inBounds = true := by decide
  obtain ⟨hpath, -, hcleaned, hmoves⟩ := @larger_map_goes_further c c' rfl rfl hb
  obtain ⟨-, hsame, -⟩ := @larger_map_goes_further c' c'' rfl rfl hb'
  exact ⟨hb, hpath, by decide, hcleaned, hmoves, hb', hin, hsame hin⟩

end Robot

end GridRobot
