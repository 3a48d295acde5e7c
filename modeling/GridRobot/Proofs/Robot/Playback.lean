import GridRobot.Proofs.Robot.Driving

/-!
# Playing back a run

The moves of a run can be shown one by one, as they are made, before the run is summed up. They are
the moves of the plan, each with the position that it leads to, as far as the trail goes.

* `Command.movesAlong`: the moves of a plan along a trail; `length_movesAlong_runToEnd` counts them;
* `Robot.playback_activate`: what is shown of the run of a command, and the robot after it;
* `Robot.NextMove`: what becomes of the move after the last one on the trail, which is the first
  that is not shown.
-/

namespace GridRobot

/-- The moves of the plan along a trail: each direction with the position it leads to. -/
def Command.movesAlong (c : Command) (trail : List Position) : List (Direction × Position) :=
  c.moves.zip trail.tail

/-- Each of the moves along a trail is a move of the plan and leads to the next position. -/
theorem Command.exists_movesAlong {c : Command} {trail : List Position} {k : Nat}
    (hk : k < (c.movesAlong trail).length) :
    ∃ d q, c.moves[k]? = some d ∧ trail[k + 1]? = some q ∧
      (c.movesAlong trail)[k]? = some (d, q) := by
  obtain ⟨⟨d, q⟩, hm⟩ : ∃ m, (c.movesAlong trail)[k]? = some m :=
    ⟨_, List.getElem?_eq_getElem hk⟩
  obtain ⟨hd, hq⟩ := List.getElem?_zip_eq_some.1 hm
  rw [List.getElem?_tail] at hq
  exact ⟨d, q, hd, hq, hm⟩

/-- The move that was made. -/
def Tick.move? : Tick → Option (Direction × Position)
  | moved d q => some (d, q)
  | finished => none
  | refused _ => none

namespace Robot

variable {c : Command} {r r' : Robot} {o : Tick} {made : List (Direction × Position)}

/-! ### The moves along the trail -/

/-- A tick adds the move that is made, if one is, to the moves along the trail. -/
theorem OnPlan.movesAlong_tickTo (h : r.OnPlan c) (ht : r.TickTo o r') :
    c.movesAlong r'.trail.toList = c.movesAlong r.trail.toList ++ o.move?.toList := by
  cases ht with
  | restFinished | restRefused | finish | beyondGrid | outOfBounds => exact (List.append_nil _).symm
  | @move d cursor q hr hn _ _ =>
    obtain ⟨-, -, -, before, rest, hf, hu, hmoves⟩ := h
    rw [hu.eq_upcoming hr, Cursor.upcoming_next hn] at hmoves
    have hlen : before.length = r.trail.toList.tail.length := by
      rw [List.length_tail, Trail.length_toList, Nat.add_sub_cancel, hf.moves_eq]
    -- the plan is split where the trail ends, so that its next move meets the new position
    have hzip : ∀ ps, c.moves.zip (r.trail.toList.tail ++ ps) =
        before.zip r.trail.toList.tail ++ (d :: cursor.upcoming).zip ps := fun ps => by
      rw [hmoves, List.zip_append hlen]
    have hold := hzip []
    rw [List.append_nil, List.zip_nil_right, List.append_nil] at hold
    unfold Command.movesAlong
    rw [hold, Trail.toList_push, List.tail_append_of_ne_nil r.trail.toList_ne_nil, hzip [q],
      List.zip_cons_cons, List.zip_nil_right]
    rfl

/-- What was shown and the moves that go on from there are the moves along the whole trail. -/
theorem OnPlan.playOnto_fst (h : r.OnPlan c) (hmade : made.reverse = c.movesAlong r.trail.toList) :
    (playOnto made r).1 = c.movesAlong (playOnto made r).2.trail.toList := by
  induction made, r using playOnto.induct with
  | case1 made r d q r' hr _ ih =>
    have ht : r.TickTo (.moved d q) r' := by simpa [hr] using r.tickTo_tick
    rw [playOnto_of_moved hr]
    refine ih (h.tickTo ht) ?_
    rw [h.movesAlong_tickTo ht, ← hmade, List.reverse_cons]
    rfl
  | case2 made r o r' ho hr =>
    have ht : r.TickTo o r' := by simpa [hr] using r.tickTo_tick
    have hmove : o.move? = none := by
      cases o with
      | moved d q => exact absurd rfl (ho d q)
      | finished | refused => rfl
    rw [playOnto_of_stopped hr ho, hmade, h.movesAlong_tickTo ht,
      hmove]
    exact (List.append_nil _).symm

/-- Playing back goes as far as the run. -/
theorem playOnto_snd (made : List (Direction × Position)) (r : Robot) :
    (playOnto made r).2 = r.runToEnd.2 := by
  induction made, r using playOnto.induct with
  | case1 made r d q r' hr _ ih => rw [playOnto_of_moved hr, ih, runToEnd_of_moved hr]
  | case2 made r o r' ho hr =>
    rw [playOnto_of_stopped hr ho]
    cases o with
    | moved d q => exact absurd rfl (ho d q)
    | finished => rw [runToEnd_of_finished hr]
    | refused e => rw [runToEnd_of_refused hr]

/-- Playing back a command shows the moves along the trail of its run, and ends with the robot with
which the run ends. -/
theorem playback_activate (c : Command) :
    (activate c).playback =
      (c.movesAlong (activate c).runToEnd.1.trail, (activate c).runToEnd.2) := by
  have hmade : [].reverse = c.movesAlong (activate c).trail.toList := by
    rw [activate_eq]
    exact List.zip_nil_right.symm
  have hsnd := playOnto_snd [] (activate c)
  rw [trail_runToEnd, ← hsnd, ← (onPlan_activate c).playOnto_fst hmade]
  rfl

/-! ### The next move -/

/-- What becomes of the move after `n` moves, when the run has ended at `p`. Either there is none,
or it is refused. -/
inductive NextMove (c : Command) (n : Nat) (p : Position) : RunOutcome → Prop
  | none : n = c.moves.length → NextMove c n p .completed
  | beyondGrid {d : Direction} : c.moves[n]? = some d → p.step? d = Option.none →
      NextMove c n p (.aborted Option.none)
  | outOfBounds {d : Direction} {q : Position} : c.moves[n]? = some d → p.step? d = some q →
      c.bounds.contains q = false → NextMove c n p (.aborted (some q))

theorem OnPlan.nextMove {o : RunOutcome} (h : r.OnPlan c) (ho : r.status.outcome? = some o) :
    NextMove c r.trail.moves r.position o := by
  obtain ⟨made, rest, hf, hu, hmoves⟩ := h.plan
  have hnext : c.moves[r.trail.moves]? = rest.head? := by
    rw [hmoves, hf.moves_eq, List.getElem?_append_right (Nat.le_refl _), Nat.sub_self,
      List.head?_eq_getElem?]
  cases hu with
  | running hr => rw [hr] at ho; cases ho
  | finished hr hup =>
    rw [hr] at ho
    cases ho
    refine .none ?_
    rw [hmoves, List.append_nil, hf.moves_eq]
  | beyondGrid hr hs =>
    rw [hr] at ho
    cases ho
    exact .beyondGrid hnext hs
  | outOfBounds hr hs hq =>
    rw [hr] at ho
    cases ho
    rw [onMap, h.command_eq] at hq
    exact .outOfBounds hnext hs hq

theorem NextMove.le_length {n : Nat} {p : Position} {o : RunOutcome} (h : NextMove c n p o) :
    n ≤ c.moves.length := by
  cases h with
  | none hn => exact Nat.le_of_eq hn
  | beyondGrid hd | outOfBounds hd => exact Nat.le_of_lt (List.getElem?_eq_some_iff.1 hd).1

theorem nextMove_runToEnd (c : Command) :
    NextMove c (activate c).runToEnd.1.moves (activate c).runToEnd.1.finalPosition
      (activate c).runToEnd.1.outcome := by
  obtain ⟨r, o, hplan, ho, hs⟩ := exists_onPlan_runToEnd c
  rw [hs]
  exact hplan.nextMove ho

/-- There are as many moves along the trail of a run as the run has made. -/
theorem length_movesAlong_runToEnd (c : Command) :
    let s := (activate c).runToEnd.1
    (c.movesAlong s.trail).length = s.moves := by
  intro s
  have htail : s.trail.tail.length = s.moves := by
    rw [trail_runToEnd, List.length_tail, Trail.length_toList, Nat.add_sub_cancel, moves_runToEnd]
  rw [Command.movesAlong, List.length_zip, htail, Nat.min_eq_right (nextMove_runToEnd c).le_length]

end Robot

end GridRobot
