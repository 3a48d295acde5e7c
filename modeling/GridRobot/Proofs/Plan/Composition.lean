import GridRobot.Proofs.Plan.Moves

/-!
# Plans in two parts

A walk looks at nothing but the position it has come to. So the walk of a plan that is cut in two
is the walk of the first part and then, if that stayed inside the map, the walk of the second part
from where the first one ended. The end of the first part is not checked again.

* `walkMoves_single_last`: a walk from the end of a trail is a walk from a fresh start there;
* `Command.walk_append`: the legs of a plan one part after the other;
* `Command.traverse_append`: the traversal of a plan in two parts.
-/

namespace GridRobot

/-- Of the trail so far only the last position matters. -/
theorem walkMoves_single_last (b : Bounds) (ds : List Direction) (t : Trail) :
    (walkMoves b ds t).ending = (walkMoves b ds (.single t.last)).ending ∧
      (walkMoves b ds t).trail.toList =
        t.toList ++ (walkMoves b ds (.single t.last)).trail.toList.tail := by
  induction ds generalizing t with
  | nil => simp
  | cons d ds ih =>
    cases hs : t.last.step? d with
    | none =>
      rw [walkMoves_offGrid hs, walkMoves_offGrid (t := .single t.last) hs]
      simp
    | some p =>
      cases hp : b.contains p with
      | false =>
        rw [walkMoves_offMap hs hp, walkMoves_offMap (t := .single t.last) hs hp]
        simp
      | true =>
        -- both walks go on from `p`
        obtain ⟨hend, htrail⟩ := ih (t.push p)
        obtain ⟨hend', htrail'⟩ := ih ((Trail.single t.last).push p)
        rw [Trail.last_push] at hend htrail hend' htrail'
        rw [walkMoves_onMap hs hp, walkMoves_onMap (t := .single t.last) hs hp]
        refine ⟨hend.trans hend'.symm, ?_⟩
        rw [htrail, htrail']
        simp

namespace Command

variable {b : Bounds} {p : Position} {legs legs' : List Step}

theorem walk_append (b : Bounds) (p : Position) (legs legs' : List Step) :
    walk ⟨b, p, legs ++ legs'⟩ = (walk ⟨b, p, legs⟩).andThen (walkSteps b legs') := by
  have hsteps : walkSteps b legs' = walkMoves b (legs'.flatMap Step.moves) :=
    funext (walkSteps_eq_walkMoves b legs')
  rw [walk_eq_walkMoves, walk_eq_walkMoves, hsteps, ← walkMoves_append]
  simp only [moves, List.flatMap_append]

/-- A walk that has stopped does not go on with more legs. -/
theorem traverse_append_of_exit (h : (traverse ⟨b, p, legs⟩).inBounds = false) :
    traverse ⟨b, p, legs ++ legs'⟩ = traverse ⟨b, p, legs⟩ := by
  have hstopped : (walk ⟨b, p, legs⟩).ending ≠ .complete := by
    rw [ne_eq, ← inBounds_iff_complete, h]
    exact Bool.false_ne_true
  rw [traverse, walk_append, Walk.andThen_of_stopped hstopped]
  rfl

/-- A walk that has made all its moves goes on from its last position. -/
theorem traverse_append_of_inBounds (h : (traverse ⟨b, p, legs⟩).inBounds = true) :
    ∃ q, (traverse ⟨b, p, legs⟩).path.getLast? = some q ∧
      (traverse ⟨b, p, legs ++ legs'⟩).inBounds = (traverse ⟨b, q, legs'⟩).inBounds ∧
      (traverse ⟨b, p, legs ++ legs'⟩).path =
        (traverse ⟨b, p, legs⟩).path ++ (traverse ⟨b, q, legs'⟩).path.tail := by
  obtain ⟨t, ht⟩ : ∃ t, (walk ⟨b, p, legs⟩).trail = t := ⟨_, rfl⟩
  have hwhole : walk ⟨b, p, legs ++ legs'⟩ = walkMoves b (legs'.flatMap Step.moves) t := by
    rw [walk_append, Walk.andThen_of_complete (inBounds_iff_complete.1 h), ht,
      walkSteps_eq_walkMoves]
  have hsecond : walk ⟨b, t.last, legs'⟩ =
      walkMoves b (legs'.flatMap Step.moves) (.single t.last) := walk_eq_walkMoves _
  obtain ⟨hend, htrail⟩ := walkMoves_single_last b (legs'.flatMap Step.moves) t
  refine ⟨t.last, ?_, ?_, ?_⟩
  · rw [← Trail.getLast?_toList, ← ht]
    rfl
  · simp only [traverse, hwhole, hsecond, Walk.traversal, hend]
  · simp only [traverse, hwhole, hsecond, Walk.traversal, ht, htrail]

/-- **Plans can be walked in parts.** If the first part leaves the map, it is all of the traversal.
If it does not, the traversal goes on with that of the second part, from the position where the
first one ended. -/
theorem traverse_append (b : Bounds) (p : Position) (legs legs' : List Step) :
    let first := traverse ⟨b, p, legs⟩
    let whole := traverse ⟨b, p, legs ++ legs'⟩
    (first.inBounds = false → whole = first) ∧
      (first.inBounds = true → ∃ q, first.path.getLast? = some q ∧
        let second := traverse ⟨b, q, legs'⟩
        whole.inBounds = second.inBounds ∧ whole.path = first.path ++ second.path.tail) :=
  ⟨traverse_append_of_exit, traverse_append_of_inBounds⟩

/-- A map of eleven by eleven tiles. -/
def squareMap : Bounds := ⟨.origin, ⟨11, by decide, by decide⟩, ⟨11, by decide, by decide⟩⟩

/-- A leg along a side of the map, and another one up to the opposite side and off the map. -/
def aroundCorner : List Step :=
  [⟨.east, 8, by decide, by decide⟩, ⟨.north, 12, by decide, by decide⟩]

theorem traverse_append_aroundCorner :
    (traverse ⟨squareMap, .origin, aroundCorner.take 1⟩).inBounds = true ∧
      (∃ q, (traverse ⟨squareMap, .origin, aroundCorner.take 1⟩).path.getLast? = some q ∧
        (traverse ⟨squareMap, .origin, aroundCorner⟩).inBounds =
          (traverse ⟨squareMap, q, aroundCorner.drop 1⟩).inBounds) ∧
      (traverse ⟨squareMap, .origin, aroundCorner⟩).inBounds = false ∧
      traverse ⟨squareMap, .origin, aroundCorner ++ aroundCorner⟩ =
        traverse ⟨squareMap, .origin, aroundCorner⟩ := by
  have hin : (traverse ⟨squareMap, .origin, aroundCorner.take 1⟩).inBounds = true := by decide
  have hexit : (traverse ⟨squareMap, .origin, aroundCorner⟩).inBounds = false := by decide
  obtain ⟨q, hq, hrest, -⟩ :=
    (traverse_append squareMap .origin (aroundCorner.take 1) (aroundCorner.drop 1)).2 hin
  exact ⟨hin, ⟨q, hq, hrest⟩, hexit,
    (traverse_append squareMap .origin aroundCorner aroundCorner).1 hexit⟩

end Command

end GridRobot
