import GridRobot.Proofs.Robot.Driving

/-!
# Refused moves and robots at rest

A refused move takes a direction from the plan, but nothing that can be seen of the robot changes,
except that it is done. A robot that is done rests: it gives the outcome of its last tick again and
again, and no part of it changes, even if moves are left that it could make.

* `tick_of_isDone`, `ticks_of_tick_eq`: the ticks of a robot that is done;
* `Robot.Driven r r'`: further ticks and runs of `r` lead to `r'`; `Driven.eq_of_isDone`;
* `Robot.LooksLike r r'`: the robots stand in the same place of the same map and have cleaned the
  same tiles; `TickTo.looksLike`: a refused move is not seen;
* `Robot.EndedBy c o r`: the tick that has ended the run of `r`, and what came of it;
* `refusals_and_rest`: all this for every reachable robot.
-/

namespace GridRobot.Robot

variable {c : Command} {r r' : Robot} {o : Tick}

theorem isDone_iff : r.isDone = true ↔ r.status ≠ .running := by
  simp [isDone]

theorem isDone_eq_false_iff : r.isDone = false ↔ r.status = .running := by
  simp [isDone]

/-! ### Robots at rest -/

/-- A robot that is done gives an outcome that ends a run, and stays as it is. -/
theorem tick_of_isDone (h : r.isDone = true) :
    ∃ o, (o = .finished ∨ ∃ e, o = .refused e) ∧ r.tick = (o, r) := by
  cases hs : r.status with
  | running => exact absurd hs (isDone_iff.1 h)
  | finished => exact ⟨.finished, .inl rfl, tick_of_status hs nofun⟩
  | aborted e => exact ⟨.refused e, .inr ⟨e, rfl⟩, tick_of_status hs nofun⟩

/-- A robot that a tick leaves as it is gives the same outcome every time. -/
theorem ticks_of_tick_eq (h : r.tick = (o, r)) (n : Nat) : ticks n r = (List.replicate n o, r) := by
  induction n with
  | zero => rfl
  | succ n ih => rw [ticks_succ, h, ih, List.replicate_succ]

theorem runToEnd_of_isDone (h : r.isDone = true) : r.runToEnd.2 = r := by
  obtain ⟨o, rfl | ⟨e, rfl⟩, ht⟩ := tick_of_isDone h
  · rw [runToEnd_of_finished ht]
  · rw [runToEnd_of_refused ht]

theorem isDone_runToEnd (r : Robot) : r.runToEnd.2.isDone = true := by
  obtain ⟨o, ho, -⟩ := r.runToEnd_spec
  rw [isDone_iff]
  intro hs
  rw [hs] at ho
  cases ho

/-- The robots that further ticks and runs of a robot lead to. -/
inductive Driven (r : Robot) : Robot → Prop
  | refl : Driven r r
  | tick {r' : Robot} : Driven r r' → Driven r r'.tick.2
  | runToEnd {r' : Robot} : Driven r r' → Driven r r'.runToEnd.2

/-- Whatever is done to a robot at rest, no part of it changes. -/
theorem Driven.eq_of_isDone (h : r.Driven r') (hr : r.isDone = true) : r' = r := by
  induction h with
  | refl => rfl
  | tick _ ih =>
    obtain ⟨o, -, ht⟩ := tick_of_isDone hr
    rw [ih, ht]
  | runToEnd _ ih => rw [ih, runToEnd_of_isDone hr]

/-! ### Refused moves -/

/-- The robots stand in the same place of the same map, have come there in the same way and have
cleaned the same tiles. -/
structure LooksLike (r r' : Robot) : Prop where
  command_eq : r'.command = r.command
  position_eq : r'.position = r.position
  trail_eq : r'.trail = r.trail
  cleaned_eq : r'.cleaned = r.cleaned
  tile_eq : ∀ p, r'.tile p = r.tile p

/-- A robot that was refused a move looks as before. -/
theorem TickTo.looksLike {e : MoveError} (h : r.TickTo (.refused e) r') : r.LooksLike r' := by
  cases h with
  | restRefused | beyondGrid | outOfBounds => exact ⟨rfl, rfl, rfl, rfl, fun _ => rfl⟩

/-- The error names the place of the robot, also when it is given again. -/
theorem OnPlan.origin_eq (h : r.OnPlan c) {e : MoveError} (hs : r.status = .aborted e) :
    e.origin = r.position := by
  obtain ⟨-, -, -, made, rest, -, hu, -⟩ := h
  cases hu with
  | running hr | finished hr =>
    rw [hr] at hs
    cases hs
  | beyondGrid hr | outOfBounds hr =>
    rw [hr] at hs
    cases hs
    rfl

/-! ### The end of a run -/

/-- The robot is done and is as the tick that has ended its run has left it. The outcome of that
tick is `o`. -/
def EndedBy (c : Command) (o : Tick) (r : Robot) : Prop :=
  r.isDone = true ∧ ∃ r₀, Reachable c r₀ ∧ r₀.isDone = false ∧ r₀.tick = (o, r)

/-- The outcome of a tick that has ended a run is given again. -/
theorem EndedBy.tick_eq (h : EndedBy c o r) :
    (o = .finished ∨ ∃ e, o = .refused e) ∧ r.tick = (o, r) := by
  obtain ⟨hr, r₀, -, -, ht⟩ := h
  -- the outcome at rest is read off the status, which the last tick has set
  have hstatus : r.status = o.status := status_tick ht
  have ho : o.status ≠ .running := hstatus ▸ isDone_iff.1 hr
  refine ⟨?_, tick_of_status hstatus ho⟩
  cases o with
  | moved d q => exact absurd rfl ho
  | finished => exact .inl rfl
  | refused e => exact .inr ⟨e, rfl⟩

theorem exists_endedBy_tick (hreach : Reachable c r) (ih : r.isDone = true → ∃ o, EndedBy c o r)
    (hr : r.tick.2.isDone = true) : ∃ o, EndedBy c o r.tick.2 := by
  -- either this tick ends the run, or the robot was at rest
  cases hrest : r.isDone with
  | false => exact ⟨r.tick.1, hr, r, hreach, hrest, rfl⟩
  | true =>
    obtain ⟨o, -, ht⟩ := tick_of_isDone hrest
    rw [ht]
    exact ih hrest

/-- Every robot that is done has a tick that ended its run. -/
theorem Reachable.exists_endedBy (h : Reachable c r) (hr : r.isDone = true) :
    ∃ o, EndedBy c o r := by
  have hended : Reachable c r ∧ (r.isDone = true → ∃ o, EndedBy c o r) := by
    apply h.induction (P := fun r => Reachable c r ∧ (r.isDone = true → ∃ o, EndedBy c o r))
    · refine ⟨.activate, fun hdone => ?_⟩
      rw [activate_eq] at hdone
      cases hdone
    · rintro r ⟨hreach, ih⟩
      exact ⟨hreach.tick, exists_endedBy_tick hreach ih⟩
  exact hended.2 hr

/-- **Refusals and rest.** When a tick of a reachable robot refuses a move, the robot looks as
before, the error names its place, and it is done. A reachable robot that is done gives the outcome
of the tick that ended its run, any number of times, and stays as that tick has left it. -/
theorem refusals_and_rest (h : Reachable c r) :
    (∀ e, r.tick.1 = .refused e →
        r.LooksLike r.tick.2 ∧ e.origin = r.position ∧ r.tick.2.isDone = true) ∧
      (r.isDone = true → ∃ o, EndedBy c o r ∧ (o = .finished ∨ ∃ e, o = .refused e) ∧
        ∀ n, ticks n r = (List.replicate n o, r)) := by
  refine ⟨fun e he => ?_, fun hr => ?_⟩
  · have ht : r.TickTo (.refused e) r.tick.2 := he ▸ r.tickTo_tick
    have hs : r.tick.2.status = .aborted e := ht.status_eq
    refine ⟨ht.looksLike, ?_, isDone_iff.2 (by rw [hs]; nofun)⟩
    rw [h.onPlan.tick.origin_eq hs, ht.looksLike.position_eq]
  · obtain ⟨o, hended⟩ := h.exists_endedBy hr
    exact ⟨o, hended, hended.tick_eq.1, ticks_of_tick_eq hended.tick_eq.2⟩

/-- The fifth move of the plan leaves the map. -/
theorem refusals_and_rest_cornerPlan :
    let r := (ticks 4 (activate cornerPlan)).2
    let e := MoveError.outOfBounds ⟨⟨2, by decide, by decide⟩, ⟨2, by decide, by decide⟩⟩
      ⟨⟨2, by decide, by decide⟩, ⟨3, by decide, by decide⟩⟩
    Reachable cornerPlan r ∧ r.tick.1 = .refused e ∧ r.LooksLike r.tick.2 ∧
      e.origin = r.position ∧ r.tick.2.isDone = true ∧
      ∃ o, EndedBy cornerPlan o r.tick.2 ∧ (o = .finished ∨ ∃ e, o = .refused e) ∧
        ∀ n, ticks n r.tick.2 = (List.replicate n o, r.tick.2) := by
  intro r e
  have hr : Reachable cornerPlan r := Reachable.activate.ticks 4
  have he : r.tick.1 = .refused e := by decide
  obtain ⟨hlooks, horigin, hdone⟩ := (refusals_and_rest hr).1 e he
  exact ⟨hr, he, hlooks, horigin, hdone, (refusals_and_rest hr.tick).2 hdone⟩

end GridRobot.Robot
