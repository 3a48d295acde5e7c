import GridRobot.Proofs.Robot.Invariant

/-!
# Driving a robot

A robot can be ticked by hand, run, or first ticked and then run. Whoever drives it, and however
far it has come, the run that is left ends with the same summary and the same robot.

* `tick_of_status`: a robot that is done gives its last outcome again and stays as it is;
* `runToEnd_tick`, `runToEnd_runToEnd`, `runToEnd_playback`: ticks, runs and played back moves
  leave the run that follows as it is;
* `run_independent_of_driving`: from every reachable robot the run is that of a fresh one.
-/

namespace GridRobot.Robot

variable {c : Command} {r : Robot}

/-- A robot whose run is over gives the same outcome again, and nothing changes. -/
theorem tick_of_status {o : Tick} (h : r.status = o.status) (ho : o.status ≠ .running) :
    r.tick = (o, r) := by
  cases o with
  | moved d q => exact absurd rfl ho
  | finished => simp only [tick, h, Tick.status]
  | refused e => simp only [tick, h, Tick.status]

/-- A run after a tick is the run without it. -/
theorem runToEnd_tick (r : Robot) : r.tick.2.runToEnd = r.runToEnd := by
  obtain ⟨o, r', h⟩ : ∃ o r', r.tick = (o, r') := ⟨_, _, rfl⟩
  have hstatus : r'.status = o.status := status_tick h
  rw [h]
  -- a move is the first step of the run; the other outcomes are given again
  cases o with
  | moved d q => exact (runToEnd_of_moved h).symm
  | finished =>
    have hrest : r'.tick = (.finished, r') := tick_of_status hstatus nofun
    rw [runToEnd_of_finished h, runToEnd_of_finished hrest]
  | refused e =>
    have hrest : r'.tick = (.refused e, r') := tick_of_status hstatus nofun
    rw [runToEnd_of_refused h, runToEnd_of_refused hrest]

/-- A second run changes nothing and has the summary of the first. -/
theorem runToEnd_runToEnd (r : Robot) : r.runToEnd.2.runToEnd = r.runToEnd :=
  runToEnd_preserves (P := fun r' => r'.runToEnd = r.runToEnd)
    (fun r' h => (runToEnd_tick r').trans h) rfl

/-! ### Playing back -/

section Playback

variable {r' : Robot} {made : List (Direction × Position)}

theorem playOnto_of_moved {d : Direction} {q : Position} (h : r.tick = (.moved d q, r')) :
    playOnto made r = playOnto ((d, q) :: made) r' := by
  rw [playOnto]
  split <;> simp_all

theorem playOnto_of_stopped {o : Tick} (h : r.tick = (o, r')) (ho : ∀ d q, o ≠ .moved d q) :
    playOnto made r = (made.reverse, r') := by
  rw [playOnto]
  split
  · next d q _ hr => exact absurd (Prod.mk.inj (h.symm.trans hr)).1 (ho d q)
  · simp_all

/-- A property that a tick preserves is preserved while the moves are played back. -/
theorem playOnto_preserves {P : Robot → Prop} (hP : ∀ r, P r → P r.tick.2) (h : P r) :
    P (playOnto made r).2 := by
  induction made, r using playOnto.induct with
  | case1 made r d q r' hr _ ih =>
    rw [playOnto_of_moved hr]
    exact ih (by simpa [hr] using hP r h)
  | case2 made r o r' ho hr =>
    rw [playOnto_of_stopped hr ho]
    simpa [hr] using hP r h

/-- The moves that are left can be played back before the run. -/
theorem runToEnd_playback (r : Robot) : r.playback.2.runToEnd = r.runToEnd :=
  playOnto_preserves (P := fun r' => r'.runToEnd = r.runToEnd)
    (fun r' h => (runToEnd_tick r').trans h) rfl

end Playback

/-- **The driver does not matter.** From every robot that ticks and runs lead to, a run has the
summary of the run of a fresh robot and ends in the same state. A second run does so again, and
so does a run after all moves were played back. -/
theorem run_independent_of_driving (h : Reachable c r) :
    r.runToEnd = (activate c).runToEnd ∧ r.runToEnd.2.runToEnd = r.runToEnd ∧
      r.playback.2.runToEnd = (activate c).runToEnd := by
  have hrun : r.runToEnd = (activate c).runToEnd :=
    h.induction (P := fun r => r.runToEnd = (activate c).runToEnd) rfl
      fun r hr => (runToEnd_tick r).trans hr
  exact ⟨hrun, runToEnd_runToEnd r, (runToEnd_playback r).trans hrun⟩

theorem run_independent_of_driving_cornerPlan :
    Reachable cornerPlan (activate cornerPlan).tick.2.tick.2 ∧
      (activate cornerPlan).tick.2.tick.2.runToEnd = (activate cornerPlan).runToEnd ∧
      (activate cornerPlan).tick.2.tick.2.runToEnd.2.runToEnd =
        (activate cornerPlan).tick.2.tick.2.runToEnd ∧
      (activate cornerPlan).tick.2.tick.2.playback.2.runToEnd = (activate cornerPlan).runToEnd :=
  have hr : Reachable cornerPlan (activate cornerPlan).tick.2.tick.2 := .tick (.tick .activate)
  ⟨hr, run_independent_of_driving hr⟩

end GridRobot.Robot
