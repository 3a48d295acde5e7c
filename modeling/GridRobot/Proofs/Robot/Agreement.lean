import GridRobot.Proofs.Robot.Invariant

/-!
# Runs and traversals agree

The traversal of a command is worked out on paper, all at once. A run of a robot plays the same
command with a cursor, one tick after the other. Both stop at the same place for the same reason,
although the traversal lists an exit tile that the robot never stands on.

* `RunsThrough`, `StopsAtRange`, `StopsAtEdge`: the three ways in which a run and a traversal can
  agree;
* `run_agrees_with_traverse`: exactly one of them is the case for every command;
* `outcome_eq_completed_iff`: so the traversal tells whether a run is completed.
-/

namespace GridRobot

/-- The plan stays inside the map and all of it is run. -/
def RunsThrough (t : Traversal) (s : RunSummary) : Prop :=
  t.inBounds = true ∧ s.outcome = .completed ∧ s.trail = t.path

/-- The planned move out of the last position of the path has no neighbour to lead to. The path
and the run stop there. -/
def StopsAtRange (c : Command) (t : Traversal) (s : RunSummary) : Prop :=
  t.inBounds = false ∧
    (∃ p d, t.path.getLast? = some p ∧ c.moves[t.path.length - 1]? = some d ∧ p.step? d = none) ∧
    s.outcome = .aborted none ∧ s.trail = t.path

/-- The path ends with a position outside the map, and the run ends just before it. -/
def StopsAtEdge (c : Command) (t : Traversal) (s : RunSummary) : Prop :=
  t.inBounds = false ∧
    ∃ p, s.outcome = .aborted (some p) ∧ c.bounds.contains p = false ∧ t.path = s.trail ++ [p]

/-! ### The three cases exclude each other -/

section Exclusion

variable {c : Command} {t : Traversal} {s : RunSummary}

theorem RunsThrough.not_stopsAtRange (h : RunsThrough t s) : ¬ StopsAtRange c t s :=
  fun h' => Bool.noConfusion (h.1.symm.trans h'.1)

theorem RunsThrough.not_stopsAtEdge (h : RunsThrough t s) : ¬ StopsAtEdge c t s :=
  fun h' => Bool.noConfusion (h.1.symm.trans h'.1)

theorem StopsAtRange.not_stopsAtEdge (h : StopsAtRange c t s) : ¬ StopsAtEdge c t s := by
  obtain ⟨-, -, ho, -⟩ := h
  rintro ⟨-, p, hp, -⟩
  rw [ho] at hp
  cases hp

end Exclusion

/-! ### Agreement -/

namespace Robot

variable {c : Command} {r : Robot} {o : RunOutcome}

/-- A robot that is done agrees with the traversal of its command. -/
theorem OnPlan.agrees (h : r.OnPlan c) (ho : r.status.outcome? = some o) :
    RunsThrough c.traverse (r.summary o) ∨ StopsAtRange c c.traverse (r.summary o) ∨
      StopsAtEdge c c.traverse (r.summary o) := by
  obtain ⟨rest, hu, hrest, hwalk⟩ := h.exists_walk_eq
  have hposition := h.position_eq
  rw [Command.traverse, hwalk]
  cases hu with
  | running hr => rw [hr] at ho; cases ho
  | finished hr hup =>
    rw [hr] at ho
    cases ho
    exact .inl ⟨rfl, rfl, rfl⟩
  | beyondGrid hr hs =>
    rw [hr] at ho
    cases ho
    rw [walkMoves_offGrid (hposition ▸ hs)]
    refine .inr (.inl ⟨rfl, ⟨_, _, r.trail.getLast?_toList, ?_, hposition ▸ hs⟩, rfl, rfl⟩)
    rw [Walk.traversal, Trail.length_toList, Nat.add_sub_cancel, ← Nat.add_zero r.trail.moves,
      ← List.getElem?_drop, hrest, List.getElem?_cons_zero]
  | outOfBounds hr hs hq =>
    rw [hr] at ho
    cases ho
    rw [onMap, h.command_eq] at hq
    rw [walkMoves_offMap (hposition ▸ hs) hq]
    exact .inr (.inr ⟨rfl, _, rfl, hq, r.trail.toList_push _⟩)

/-- A run is completed when the path stays inside the map. -/
theorem outcome_eq_completed_iff (c : Command) :
    (activate c).runToEnd.1.outcome = .completed ↔ c.traverse.inBounds = true := by
  obtain ⟨r, o, hplan, ho, hs⟩ := exists_onPlan_runToEnd c
  rw [hs]
  rcases hplan.agrees ho with ⟨hin, hout, -⟩ | ⟨hin, -, hout, -⟩ | ⟨hin, p, hout, -⟩
  · exact iff_of_true hout hin
  · rw [hout, hin]
    exact iff_of_false nofun nofun
  · rw [hout, hin]
    exact iff_of_false nofun nofun

/-- **Runs and traversals agree.** For every command exactly one of three things happens: the
run makes the whole path, it stops with the path where the coordinate range ends, or it stops one
tile before the exit that ends the path. -/
theorem run_agrees_with_traverse (c : Command) :
    let t := c.traverse
    let s := (activate c).runToEnd.1
    ((RunsThrough t s ∧ ¬ StopsAtRange c t s ∧ ¬ StopsAtEdge c t s) ∨
      (¬ RunsThrough t s ∧ StopsAtRange c t s ∧ ¬ StopsAtEdge c t s) ∨
      (¬ RunsThrough t s ∧ ¬ StopsAtRange c t s ∧ StopsAtEdge c t s)) ∧
    s.trail.getLast? = some s.finalPosition ∧ s.trail ≠ [] ∧ s.moves = s.trail.length - 1 := by
  intro t s
  obtain ⟨o, ho, hs⟩ := (activate c).runToEnd_spec
  have hplan : (activate c).runToEnd.2.OnPlan c := (Reachable.activate.runToEnd).onPlan
  refine ⟨?_, ?_⟩
  · have hagree := hplan.agrees ho
    rw [← hs] at hagree
    rcases hagree with h | h | h
    · exact .inl ⟨h, h.not_stopsAtRange, h.not_stopsAtEdge⟩
    · exact .inr (.inl ⟨fun h' => h'.not_stopsAtRange h, h, h.not_stopsAtEdge⟩)
    · exact .inr (.inr ⟨fun h' => h'.not_stopsAtEdge h, fun h' => h'.not_stopsAtEdge h, h⟩)
  · rw [show s = _ from hs]
    exact ⟨hplan.consistent.getLast?_eq, Trail.toList_ne_nil _, by simp [summary]⟩

end Robot

end GridRobot
