import GridRobot.Proofs.Grid.Tiles
import GridRobot.Proofs.Plan.Visits
import GridRobot.Proofs.Robot.Agreement

/-!
# Coverage

A traversal tells beforehand which tiles a run will clean: those positions of its path that lie
inside the map. The path may hold two positions that are not cleaned, the start and the exit, when
they are outside.

* `Robot.OnPlan.mem_cleaned_iff`: the tiles cleaned by a robot that is done, from the path;
* `Command.mem_unique_outside`, `Command.length_unique_outside`: the unique positions outside the
  map when the path stays inside it;
* `Robot.coverage_predicted`: the number of tiles cleaned, from the unique positions.
-/

namespace GridRobot

namespace Robot

variable {c : Command} {r : Robot} {o : RunOutcome}

/-- When the run is over, the tiles cleaned are the positions of the path inside the map. -/
theorem OnPlan.mem_cleaned_iff (h : r.OnPlan c) (ho : r.status.outcome? = some o) (p : Position) :
    p ∈ r.cleaned ↔ p ∈ c.traverse.path ∧ c.bounds.contains p = true := by
  rw [h.cleaned_iff]
  rcases h.agrees ho with ⟨-, -, htrail⟩ | ⟨-, -, -, htrail⟩ | ⟨-, q, -, hq, hpath⟩
  · rw [← htrail]
    rfl
  · rw [← htrail]
    rfl
  · rw [hpath, List.mem_append, List.mem_singleton]
    constructor
    · rintro ⟨hp, hin⟩
      exact ⟨.inl hp, hin⟩
    · rintro ⟨hp | rfl, hin⟩
      · exact ⟨hp, hin⟩
      · rw [hq] at hin
        cases hin

end Robot

namespace Command

variable {c : Command}

/-- A path that stays inside the map has no position outside but the start. -/
theorem mem_unique_outside (h : c.traverse.inBounds = true) (p : Position) :
    p ∈ (c.traverse.uniquePositions.filter fun p => !c.bounds.contains p) ↔
      p = c.start ∧ c.bounds.contains c.start = false := by
  have hfollows : c.walk.trail.Follows c.bounds c.start c.moves := follows_of_inBounds h
  obtain ⟨ps, hpath⟩ : ∃ ps, c.traverse.path = c.start :: ps :=
    List.head?_eq_some_iff.1 hfollows.head?_eq
  have hinside : ∀ p ∈ c.traverse.path.tail, c.bounds.contains p = true :=
    hfollows.contains_of_mem_tail
  rw [hpath, List.tail_cons] at hinside
  rw [List.mem_filter, Traversal.mem_uniquePositions, hpath, List.mem_cons, Bool.not_eq_true']
  constructor
  · rintro ⟨rfl | hp, hout⟩
    · exact ⟨rfl, hout⟩
    · rw [hinside p hp] at hout
      cases hout
  · rintro ⟨rfl, hout⟩
    exact ⟨.inl rfl, hout⟩

theorem length_unique_outside (h : c.traverse.inBounds = true) :
    (c.traverse.uniquePositions.filter fun p => !c.bounds.contains p).length =
      if c.bounds.contains c.start then 0 else 1 := by
  cases hstart : c.bounds.contains c.start with
  | true =>
    rw [if_pos rfl, List.length_eq_zero_iff, List.eq_nil_iff_forall_not_mem]
    intro p hp
    have hout := ((mem_unique_outside h p).1 hp).2
    rw [hstart] at hout
    cases hout
  | false =>
    -- the start, and it only once
    have hperm : (c.traverse.uniquePositions.filter fun p => !c.bounds.contains p).Perm
        [c.start] := by
      rw [List.perm_ext_iff_of_nodup (c.traverse.nodup_uniquePositions.filter _)
        (List.nodup_singleton _)]
      intro p
      rw [mem_unique_outside h, List.mem_singleton]
      exact and_iff_left hstart
    exact hperm.length_eq

end Command

namespace Robot

/-- **The coverage is known beforehand.** A run cleans as many tiles as there are unique positions
of the path inside the map. If the path stays inside, these are all of them, but for a start
outside. -/
theorem coverage_predicted (c : Command) :
    let cleaned := (activate c).runToEnd.1.cleanedTiles
    let unique := c.traverse.uniquePositions
    cleaned = (unique.filter c.bounds.contains).length ∧
      (c.traverse.inBounds = true →
        (c.bounds.contains c.start = true → cleaned = unique.length) ∧
        (c.bounds.contains c.start = false → cleaned + 1 = unique.length)) := by
  intro cleaned unique
  have hcleaned : cleaned = (unique.filter c.bounds.contains).length := by
    obtain ⟨o, ho, hs⟩ := (activate c).runToEnd_spec
    have hplan : (activate c).runToEnd.2.OnPlan c := Reachable.activate.runToEnd.onPlan
    have hsize : cleaned = (activate c).runToEnd.2.cleaned.size :=
      congrArg RunSummary.cleanedTiles hs
    rw [hsize]
    refine PositionSet.size_eq_length (c.traverse.nodup_uniquePositions.filter _) fun p => ?_
    rw [hplan.mem_cleaned_iff ho, List.mem_filter, Traversal.mem_uniquePositions]
  refine ⟨hcleaned, fun hin => ?_⟩
  have hsplit : unique.length = cleaned + if c.bounds.contains c.start then 0 else 1 := by
    rw [hcleaned, ← Command.length_unique_outside hin]
    exact List.length_eq_length_filter_add c.bounds.contains
  constructor
  · intro hstart
    rw [hsplit, hstart, if_pos rfl, Nat.add_zero]
  · intro hstart
    rw [hsplit, hstart, if_neg Bool.false_ne_true]

/-- A plan that enters a map of six by six tiles from the west and turns back inside. -/
def enteringPlan : Command where
  bounds := ⟨.origin, ⟨6, by decide, by decide⟩, ⟨6, by decide, by decide⟩⟩
  start := ⟨⟨-1, by decide, by decide⟩, 0⟩
  steps := [⟨.east, 6, by decide, by decide⟩, ⟨.west, 4, by decide, by decide⟩]

theorem coverage_predicted_enteringPlan :
    enteringPlan.traverse.inBounds = true ∧
      enteringPlan.bounds.contains enteringPlan.start = false ∧
      (activate enteringPlan).runToEnd.1.cleanedTiles + 1 =
        enteringPlan.traverse.uniquePositions.length :=
  have hin : enteringPlan.traverse.inBounds = true := by decide
  have hstart : enteringPlan.bounds.contains enteringPlan.start = false := by decide
  ⟨hin, hstart, ((coverage_predicted enteringPlan).2 hin).2 hstart⟩

end Robot

end GridRobot
