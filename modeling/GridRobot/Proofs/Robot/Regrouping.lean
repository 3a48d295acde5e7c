import GridRobot.Proofs.Plan.Calls
import GridRobot.Proofs.Robot.Invariant

/-!
# Plans with the same moves

The same unit moves can be grouped into legs in many ways: a leg can be split in two, and two legs
in one direction can be joined. Neither a traversal nor a cursor nor a robot shows how the moves of
a plan were grouped. A path inside the map, on the other hand, shows all the moves.

* `Command.moves_splitLeg`: a leg that is split in two has the same moves;
* `Robot.Alike r r'`: two robots that differ in their legs and logs only. A tick has the same
  outcome for both and leaves them alike (`Alike.tick`), and so does a run (`Alike.runToEnd`);
* `Trail.Follows.moves_unique`: a trail tells which moves have made it;
* `Robot.only_moves_matter`: commands with the same map and start.
-/

namespace GridRobot

/-- A leg can be split in two anywhere in a plan. -/
theorem Command.moves_splitLeg (b : Bounds) (p : Position) (before after : List Step)
    {s s₁ s₂ : Step} (h₁ : s₁.direction = s.direction) (h₂ : s₂.direction = s.direction)
    (h : s.distance = s₁.distance + s₂.distance) :
    moves ⟨b, p, before ++ s :: after⟩ = moves ⟨b, p, before ++ s₁ :: s₂ :: after⟩ := by
  have hs : s.moves = s₁.moves ++ s₂.moves := by
    rw [Step.moves, Step.moves, Step.moves, h₁, h₂, h, List.replicate_append_replicate]
  simp only [moves, List.flatMap_append, List.flatMap_cons, hs, List.append_assoc]

/-! ### Cursors -/

/-- Cursors with the same moves to come take the same move, if there is one. -/
theorem Cursor.next_of_upcoming_eq {a b : Cursor} (h : a.upcoming = b.upcoming) :
    (a.next = none ∧ b.next = none) ∨
      ∃ d a' b', a.next = some (d, a') ∧ b.next = some (d, b') ∧ a'.upcoming = b'.upcoming := by
  cases ha : a.next with
  | none =>
    rw [upcoming_of_next_eq_none ha] at h
    cases hb : b.next with
    | none => exact .inl ⟨rfl, rfl⟩
    | some step =>
      rw [upcoming_next hb] at h
      cases h
  | some step =>
    rw [upcoming_next ha] at h
    cases hb : b.next with
    | none =>
      rw [upcoming_of_next_eq_none hb] at h
      cases h
    | some step' =>
      rw [upcoming_next hb, List.cons.injEq] at h
      obtain ⟨hd, hup⟩ := h
      exact .inr ⟨step.1, step.2, step'.2, rfl, by rw [hd], hup⟩

/-- Fresh cursors of plans with the same moves give the same answers. -/
theorem Command.answers_of_moves_eq {c c' : Command} (h : c.moves = c'.moves) (k : Nat) :
    (calls Cursor.call k c.cursor).1 = (calls Cursor.call k c'.cursor).1 := by
  rw [(Cursor.calls_spec k c.cursor).1, (Cursor.calls_spec k c'.cursor).1, upcoming_cursor,
    upcoming_cursor, remainingDistance_cursor, remainingDistance_cursor, ← length_moves,
    ← length_moves, h]

/-! ### Robots -/

namespace Robot

/-- The robots stand in the same place of the same map with the same moves to come, and have come
there in the same way. The moves to come may be grouped into other legs. -/
structure Alike (r r' : Robot) : Prop where
  bounds_eq : r.command.bounds = r'.command.bounds
  upcoming_eq : r.cursor.upcoming = r'.cursor.upcoming
  position_eq : r.position = r'.position
  trail_eq : r.trail = r'.trail
  cleaned_eq : r.cleaned = r'.cleaned
  status_eq : r.status = r'.status

namespace Alike

variable {r r' : Robot}

theorem onMap_eq (h : r.Alike r') (p : Position) : r.onMap p = r'.onMap p := by
  rw [onMap, onMap, h.bounds_eq]

theorem summary_eq (h : r.Alike r') (o : RunOutcome) : r.summary o = r'.summary o := by
  unfold summary cleanedTiles totalTiles
  rw [h.position_eq, h.trail_eq, h.cleaned_eq, h.bounds_eq]

theorem spend (h : r.Alike r') {cursor cursor' : Cursor}
    (hup : cursor.upcoming = cursor'.upcoming) : (r.spend cursor).Alike (r'.spend cursor') := by
  rw [spend_eq, spend_eq]
  exact ⟨h.bounds_eq, hup, h.position_eq, h.trail_eq, h.cleaned_eq, h.status_eq⟩

theorem refuse (h : r.Alike r') (e : MoveError) : (r.refuse e).Alike (r'.refuse e) :=
  ⟨h.bounds_eq, h.upcoming_eq, h.position_eq, h.trail_eq, h.cleaned_eq, rfl⟩

theorem clean (h : r.Alike r') (p : Position) : (r.clean p).Alike (r'.clean p) := by
  unfold Robot.clean
  rw [h.onMap_eq p]
  split
  · exact ⟨h.bounds_eq, h.upcoming_eq, h.position_eq, h.trail_eq, by rw [h.cleaned_eq], h.status_eq⟩
  · exact h

theorem note (h : r.Alike r') (e e' : Event) : (r.note e).Alike (r'.note e') :=
  ⟨h.bounds_eq, h.upcoming_eq, h.position_eq, h.trail_eq, h.cleaned_eq, h.status_eq⟩

theorem moveTo (h : r.Alike r') (d : Direction) (p : Position) :
    (r.moveTo d p).Alike (r'.moveTo d p) := by
  have hmoved : Alike { r with position := p, trail := r.trail.push p }
      { r' with position := p, trail := r'.trail.push p } :=
    ⟨h.bounds_eq, h.upcoming_eq, rfl, by rw [h.trail_eq], h.cleaned_eq, h.status_eq⟩
  exact (hmoved.clean p).note _ _

theorem attempt (h : r.Alike r') (d : Direction) :
    (r.attempt d).1 = (r'.attempt d).1 ∧ (r.attempt d).2.Alike (r'.attempt d).2 := by
  unfold Robot.attempt
  rw [h.position_eq]
  cases r'.position.step? d with
  | none => exact ⟨rfl, h.refuse _⟩
  | some p =>
    simp only [h.onMap_eq p]
    cases r'.onMap p with
    | true => exact ⟨rfl, h.moveTo d p⟩
    | false => exact ⟨rfl, h.refuse _⟩

/-- A tick has the same outcome and leaves the robots alike. -/
theorem tick (h : r.Alike r') : r.tick.1 = r'.tick.1 ∧ r.tick.2.Alike r'.tick.2 := by
  unfold Robot.tick
  rw [h.status_eq]
  cases hs : r'.status with
  | finished | aborted => exact ⟨rfl, h⟩
  | running =>
    rcases Cursor.next_of_upcoming_eq h.upcoming_eq with ⟨hn, hn'⟩ | ⟨d, a, a', hn, hn', hup⟩
    · rw [hn, hn']
      exact ⟨rfl, h.bounds_eq, h.upcoming_eq, h.position_eq, h.trail_eq, h.cleaned_eq, rfl⟩
    · rw [hn, hn']
      exact (h.spend hup).attempt d

theorem exists_tick_eq (h : r.Alike r') {o : Tick} {r₁ : Robot} (hr : r.tick = (o, r₁)) :
    ∃ r₁', r'.tick = (o, r₁') ∧ r₁.Alike r₁' := by
  obtain ⟨ho, hnext⟩ := h.tick
  rw [hr] at ho hnext
  exact ⟨r'.tick.2, Prod.ext ho.symm rfl, hnext⟩

/-- A run has the same summary and leaves the robots alike. -/
theorem runToEnd (h : r.Alike r') :
    r.runToEnd.1 = r'.runToEnd.1 ∧ r.runToEnd.2.Alike r'.runToEnd.2 := by
  induction r using Robot.runToEnd.induct generalizing r' with
  | case1 r d q r₁ hr _ ih =>
    obtain ⟨r₁', hr', hnext⟩ := h.exists_tick_eq hr
    rw [runToEnd_of_moved hr, runToEnd_of_moved hr']
    exact ih hnext
  | case2 r r₁ hr =>
    obtain ⟨r₁', hr', hnext⟩ := h.exists_tick_eq hr
    rw [runToEnd_of_finished hr, runToEnd_of_finished hr']
    exact ⟨hnext.summary_eq _, hnext⟩
  | case3 r e r₁ hr =>
    obtain ⟨r₁', hr', hnext⟩ := h.exists_tick_eq hr
    rw [runToEnd_of_refused hr, runToEnd_of_refused hr']
    exact ⟨hnext.summary_eq _, hnext⟩

end Alike

theorem alike_activate {c c' : Command} (hb : c.bounds = c'.bounds) (hs : c.start = c'.start)
    (h : c.moves = c'.moves) : (activate c).Alike (activate c') := by
  rw [activate_eq, activate_eq]
  refine ⟨hb, ?_, hs, by rw [hs], by rw [hb, hs], rfl⟩
  rw [upcoming_cursor, upcoming_cursor, h]

end Robot

/-! ### The moves of a path -/

theorem Direction.eq_of_offset {d d' : Direction} (hx : d.dx = d'.dx) (hy : d.dy = d'.dy) :
    d = d' := by
  cases d <;> cases d' <;> first | rfl | exact absurd hx (by decide) | exact absurd hy (by decide)

/-- Two neighbours are apart in one direction only. -/
theorem Position.direction_unique {p q : Position} {d d' : Direction} (h : p.step? d = some q)
    (h' : p.step? d' = some q) : d = d' := by
  obtain ⟨hx, hy⟩ := step?_eq_some_iff.1 h
  obtain ⟨hx', hy'⟩ := step?_eq_some_iff.1 h'
  exact Direction.eq_of_offset (by omega) (by omega)

/-- A trail tells which moves have made it. -/
theorem Trail.Follows.moves_unique {b b' : Bounds} {p p' : Position} {ds ds' : List Direction}
    {t : Trail} (h : t.Follows b p ds) (h' : t.Follows b' p' ds') : ds = ds' := by
  have hlen := h.moves_eq
  have hlen' := h'.moves_eq
  apply List.ext_getElem?
  intro k
  by_cases hk : k < t.moves
  · -- the `k`-th move leads from one position of the trail to the next
    have hk' : k + 1 < t.toList.length := by rw [length_toList]; omega
    have hq : t.toList[k]? = some t.toList[k] := List.getElem?_eq_getElem (by omega)
    have hq' : t.toList[k + 1]? = some t.toList[k + 1] := List.getElem?_eq_getElem hk'
    obtain ⟨d, hd, hs⟩ := h.step?_getElem hq hq'
    obtain ⟨d', hd', hs'⟩ := h'.step?_getElem hq hq'
    rw [hd, hd', Position.direction_unique hs hs']
  · rw [List.getElem?_eq_none (by omega), List.getElem?_eq_none (by omega)]

theorem Trail.toList_injective {t t' : Trail} (h : t.toList = t'.toList) : t = t' := by
  rw [toList, toList, List.reverse_inj, List.cons.injEq] at h
  cases t
  cases t'
  simp_all

theorem Command.moves_eq_of_path_eq {c c' : Command} (hin : c.traverse.inBounds = true)
    (hin' : c'.traverse.inBounds = true) (h : c.traverse.path = c'.traverse.path) :
    c.moves = c'.moves := by
  have hfollows := follows_of_inBounds hin
  have hfollows' := follows_of_inBounds hin'
  rw [← Trail.toList_injective h] at hfollows'
  exact hfollows.moves_unique hfollows'

namespace Robot

/-- **Only the moves matter.** Two commands with the same map, start and moves have the same
traversal and the same summary of their runs, and cursors on them give the same moves. If two paths
from the same start stay inside the map and are the same, so are the moves. -/
theorem only_moves_matter {c c' : Command} (hb : c.bounds = c'.bounds) (hs : c.start = c'.start) :
    (c.moves = c'.moves → c.traverse = c'.traverse ∧
        (activate c).runToEnd.1 = (activate c').runToEnd.1 ∧
        ∀ k, (calls Cursor.call k c.cursor).1 = (calls Cursor.call k c'.cursor).1) ∧
      (c.traverse.inBounds = true → c'.traverse.inBounds = true →
        c.traverse.path = c'.traverse.path → c.moves = c'.moves) := by
  refine ⟨fun h => ⟨?_, (alike_activate hb hs h).runToEnd.1, Command.answers_of_moves_eq h⟩,
    Command.moves_eq_of_path_eq⟩
  rw [Command.traverse, Command.traverse, Command.walk_eq_walkMoves, Command.walk_eq_walkMoves, hb,
    hs, h]

/-- One leg along a row of the map. -/
def rowPlan : Command where
  bounds := ⟨.origin, ⟨20, by decide, by decide⟩, ⟨10, by decide, by decide⟩⟩
  start := .origin
  steps := [⟨.east, 15, by decide, by decide⟩]

/-- The same in two legs. -/
def splitRowPlan : Command where
  bounds := rowPlan.bounds
  start := .origin
  steps := [⟨.east, 5, by decide, by decide⟩, ⟨.east, 10, by decide, by decide⟩]

theorem only_moves_matter_rowPlan :
    rowPlan.bounds = splitRowPlan.bounds ∧ rowPlan.start = splitRowPlan.start ∧
      rowPlan.traverse.inBounds = true ∧ splitRowPlan.traverse.inBounds = true ∧
      rowPlan.traverse.path = splitRowPlan.traverse.path ∧ rowPlan.moves = splitRowPlan.moves ∧
      rowPlan.traverse = splitRowPlan.traverse ∧
      (activate rowPlan).runToEnd.1 = (activate splitRowPlan).runToEnd.1 ∧
      ∀ k, (calls Cursor.call k rowPlan.cursor).1 = (calls Cursor.call k splitRowPlan.cursor).1 := by
  have hin : rowPlan.traverse.inBounds = true := by decide
  have hin' : splitRowPlan.traverse.inBounds = true := by decide
  have hpath : rowPlan.traverse.path = splitRowPlan.traverse.path := by decide
  have hsplit : rowPlan.moves = splitRowPlan.moves :=
    Command.moves_splitLeg rowPlan.bounds .origin [] [] rfl rfl rfl
  obtain ⟨hsame, hback⟩ := @only_moves_matter rowPlan splitRowPlan rfl rfl
  exact ⟨rfl, rfl, hin, hin', hpath, hback hin hin' hpath, hsame hsplit⟩

end Robot

end GridRobot
