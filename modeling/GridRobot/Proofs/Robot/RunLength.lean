import GridRobot.Proofs.Robot.Agreement
import GridRobot.Proofs.Robot.Playback
import GridRobot.Proofs.Robot.Rest

/-!
# How long a run takes

A run ticks until a tick does not move the robot. The last tick finds the plan spent, or is refused
its move, so there is one tick more than there are moves. What is left of the plan bounds them: a
plan that is made to its end takes one tick more than its distance, and one that leaves the map at
most its distance.

* `Robot.RunsIn r n result`: ticking `r` until it does not move makes `n` ticks and comes to
  `result`; nothing in it says that there is such an `n`;
* `exists_runsIn`, `RunsIn.eq_runToEnd`: there is one, and the result is that of `runToEnd`;
* `RunsIn.exists_added`, `RunsIn.le_remainingDistance`: how many ticks there are;
* `RunsIn.isDone_ticks`, `RunsIn.isDone_ticks_of_lt`: when the robot is done;
* `run_takes_ticks`: the runs of reachable robots.
-/

namespace GridRobot.Robot

/-- The robot ticks until it does not move. That takes `n` ticks and comes to a summary and a
robot. -/
inductive RunsIn : Robot → Nat → RunSummary × Robot → Prop
  | finished {r r' : Robot} : r.tick = (.finished, r') → RunsIn r 1 (r'.summary .completed, r')
  | refused {r r' : Robot} {e : MoveError} : r.tick = (.refused e, r') →
      RunsIn r 1 (r'.summary (.aborted e.target?), r')
  | moved {r r' : Robot} {d : Direction} {q : Position} {n : Nat} {result : RunSummary × Robot} :
      r.tick = (.moved d q, r') → RunsIn r' n result → RunsIn r (n + 1) result

variable {c : Command} {r r' : Robot} {o : Tick} {n : Nat} {result : RunSummary × Robot}

/-! ### Every run ends -/

theorem exists_runsIn (r : Robot) : ∃ n, RunsIn r n r.runToEnd := by
  induction r using runToEnd.induct with
  | case1 r d q r' hr _ ih =>
    obtain ⟨n, hn⟩ := ih
    exact ⟨n + 1, runToEnd_of_moved hr ▸ .moved hr hn⟩
  | case2 r r' hr => exact ⟨1, runToEnd_of_finished hr ▸ .finished hr⟩
  | case3 r e r' hr => exact ⟨1, runToEnd_of_refused hr ▸ .refused hr⟩

theorem RunsIn.eq_runToEnd (h : RunsIn r n result) : result = r.runToEnd := by
  induction h with
  | finished ht => exact (runToEnd_of_finished ht).symm
  | refused ht => exact (runToEnd_of_refused ht).symm
  | moved ht _ ih => rw [ih, runToEnd_of_moved ht]

/-! ### The number of ticks -/

/-- What a tick adds to the trail. -/
theorem TickTo.trail_eq (h : r.TickTo o r') :
    r'.trail.toList = r.trail.toList ++ (o.move?.map Prod.snd).toList := by
  cases h with
  | restFinished | restRefused | finish | beyondGrid | outOfBounds => exact (List.append_nil _).symm
  | move => exact Trail.toList_push ..

/-- There is one tick for each position that is added to the trail, and one more. -/
theorem RunsIn.exists_added (h : RunsIn r n result) :
    ∃ added, result.2.trail.toList = r.trail.toList ++ added ∧ n = added.length + 1 := by
  induction h with
  | @finished r r' ht | @refused r r' e ht =>
    have htrail := r.tickTo_tick.trail_eq
    rw [ht] at htrail
    exact ⟨[], htrail, rfl⟩
  | @moved r r' d q n result ht _ ih =>
    obtain ⟨added, hadded, hn⟩ := ih
    have htrail := r.tickTo_tick.trail_eq
    rw [ht] at htrail
    refine ⟨q :: added, ?_, by rw [hn, List.length_cons]⟩
    rw [hadded, htrail, List.append_assoc]
    rfl

/-- A run that adds some positions to the trail makes so many ticks and one more, and no other
number. -/
theorem runsIn_iff {added : List Position}
    (hadded : r.runToEnd.2.trail.toList = r.trail.toList ++ added) :
    RunsIn r n result ↔ n = added.length + 1 ∧ result = r.runToEnd := by
  have hcount : ∀ m, RunsIn r m r.runToEnd → m = added.length + 1 := by
    intro m hm
    obtain ⟨added', htrail, hlen⟩ := hm.exists_added
    rw [hlen, List.append_cancel_left (hadded.symm.trans htrail)]
  constructor
  · intro h
    have hresult := h.eq_runToEnd
    subst hresult
    exact ⟨hcount n h, rfl⟩
  · rintro ⟨rfl, rfl⟩
    obtain ⟨m, hm⟩ := exists_runsIn r
    exact hcount m hm ▸ hm

/-- Each tick but the last takes a unit of distance. -/
theorem RunsIn.le_remainingDistance (h : RunsIn r n result) :
    n ≤ r.cursor.remainingDistance + 1 := by
  induction h with
  | finished | refused => omega
  | moved ht _ ih =>
    have := remainingDistance_tick ht
    omega

/-! ### When the robot is done -/

/-- The ticks of a run lead to the robot with which it ends. -/
theorem RunsIn.ticks_eq (h : RunsIn r n result) : (ticks n r).2 = result.2 := by
  induction h with
  | finished ht | refused ht => rw [ticks_succ, ht]; rfl
  | moved ht _ ih => rw [ticks_succ, ht, ih]

theorem RunsIn.isDone_ticks (h : RunsIn r n result) : (ticks n r).2.isDone = true := by
  rw [h.ticks_eq, h.eq_runToEnd]
  exact isDone_runToEnd r

/-- Before the last tick of its run the robot is not done. -/
theorem RunsIn.isDone_ticks_of_lt (h : RunsIn r n result) (hr : r.isDone = false) {k : Nat}
    (hk : k < n) : (ticks k r).2.isDone = false := by
  induction h generalizing k with
  | finished | refused =>
    obtain rfl : k = 0 := by omega
    exact hr
  | moved ht _ ih =>
    cases k with
    | zero => exact hr
    | succ k =>
      rw [ticks_succ, ht]
      exact ih (isDone_eq_false_iff.2 (status_tick ht)) (Nat.lt_of_succ_lt_succ hk)

/-! ### Runs from the start -/

theorem isDone_activate (c : Command) : (activate c).isDone = false := by
  rw [activate_eq]
  rfl

theorem runsIn_activate (c : Command) :
    RunsIn (activate c) ((activate c).runToEnd.1.moves + 1) (activate c).runToEnd := by
  obtain ⟨n, hn⟩ := exists_runsIn (activate c)
  obtain ⟨added, htrail, hlen⟩ := hn.exists_added
  have hlength : (activate c).runToEnd.2.trail.moves + 1 = 1 + added.length := by
    have htotal := congrArg List.length htrail
    rwa [List.length_append, Trail.length_toList, activate_eq, Trail.toList_single,
      List.length_singleton, ← activate_eq] at htotal
  rw [moves_runToEnd, hlength, Nat.add_comm, ← hlen]
  exact hn

/-- A run makes all the moves of a plan that stays inside the map, and otherwise not all. -/
theorem moves_runToEnd_activate (c : Command) :
    if c.traverse.inBounds then (activate c).runToEnd.1.moves = c.totalDistance
    else (activate c).runToEnd.1.moves < c.totalDistance := by
  have hin := outcome_eq_completed_iff c
  have hnext := nextMove_runToEnd c
  rw [← Command.length_moves]
  -- the outcome says whether there is a move after the last one
  generalize (activate c).runToEnd.1.outcome = o at hin hnext
  cases hnext with
  | none hn =>
    rw [if_pos (hin.1 rfl)]
    exact hn
  | beyondGrid hd | outOfBounds hd =>
    rw [if_neg fun h => nomatch hin.2 h]
    exact (List.getElem?_eq_some_iff.1 hd).1

/-- **How long runs take.** Let a plan be shorter than `2 ^ 64`. Ticking a reachable robot until it
does not move comes to an end. That takes one tick more than positions are added to its trail, and
at most one more than its cursor says. A fresh robot is done after one tick more than it makes moves
and not before: these are all the moves of a plan that stays inside the map, and otherwise they are
fewer. -/
theorem run_takes_ticks (hc : c.totalDistance < UInt64.size) :
    (∀ r, Reachable c r →
      r.cursor.wordRemaining.toNat = r.cursor.remainingDistance ∧
        ∃ added, r.runToEnd.2.trail.toList = r.trail.toList ++ added ∧
          added.length + 1 ≤ r.cursor.remainingDistance + 1 ∧
          ∀ n result, RunsIn r n result ↔ n = added.length + 1 ∧ result = r.runToEnd) ∧
      (c.traverse.inBounds = true →
        (ticks c.totalDistance (activate c)).2.isDone = false ∧
          (ticks (c.totalDistance + 1) (activate c)).2.isDone = true) ∧
      (c.traverse.inBounds = false →
        let m := (activate c).runToEnd.1.moves
        (ticks m (activate c)).2.isDone = false ∧ (ticks (m + 1) (activate c)).2.isDone = true ∧
          m + 1 ≤ c.totalDistance) := by
  have hrun := runsIn_activate c
  have hbefore := hrun.isDone_ticks_of_lt (isDone_activate c) (Nat.lt_succ_self _)
  have hmoves := moves_runToEnd_activate c
  refine ⟨fun r hr => ?_, fun hin => ?_, fun hin => ?_⟩
  · obtain ⟨n, hn⟩ := exists_runsIn r
    obtain ⟨added, htrail, hlen⟩ := hn.exists_added
    have hconserved := hr.onPlan.conserved
    refine ⟨?_, added, htrail, hlen ▸ hn.le_remainingDistance, fun m result => runsIn_iff htrail⟩
    rw [Cursor.toNat_wordRemaining]
    exact Nat.mod_eq_of_lt (by omega)
  · rw [hin, if_pos rfl] at hmoves
    rw [← hmoves]
    exact ⟨hbefore, hrun.isDone_ticks⟩
  · rw [hin, if_neg Bool.false_ne_true] at hmoves
    exact ⟨hbefore, hrun.isDone_ticks, hmoves⟩

/-- The first leg of the plan stays inside the map. -/
def firstLeg : Command := { cornerPlan with steps := cornerPlan.steps.take 1 }

/-- The whole plan leaves the map with its last move. -/
theorem run_takes_ticks_cornerPlan :
    let r := (activate cornerPlan).tick.2
    let m := (activate cornerPlan).runToEnd.1.moves
    cornerPlan.totalDistance < UInt64.size ∧ Reachable cornerPlan r ∧
      (∃ added, r.runToEnd.2.trail.toList = r.trail.toList ++ added ∧
        added.length + 1 ≤ r.cursor.remainingDistance + 1 ∧
        ∀ n result, RunsIn r n result ↔ n = added.length + 1 ∧ result = r.runToEnd) ∧
      cornerPlan.traverse.inBounds = false ∧ (ticks m (activate cornerPlan)).2.isDone = false ∧
      (ticks (m + 1) (activate cornerPlan)).2.isDone = true ∧ m + 1 ≤ cornerPlan.totalDistance ∧
      firstLeg.totalDistance < UInt64.size ∧ firstLeg.traverse.inBounds = true ∧
      (ticks firstLeg.totalDistance (activate firstLeg)).2.isDone = false ∧
      (ticks (firstLeg.totalDistance + 1) (activate firstLeg)).2.isDone = true := by
  intro r m
  have hc : cornerPlan.totalDistance < UInt64.size := by decide
  have hr : Reachable cornerPlan r := .tick .activate
  have hout : cornerPlan.traverse.inBounds = false := by decide
  obtain ⟨hruns, -, hleaves⟩ := run_takes_ticks hc
  obtain ⟨hbefore, hdone, hle⟩ := hleaves hout
  have hc' : firstLeg.totalDistance < UInt64.size := by decide
  have hin : firstLeg.traverse.inBounds = true := by decide
  exact ⟨hc, hr, (hruns r hr).2, hout, hbefore, hdone, hle, hc', hin,
    (run_takes_ticks hc').2.1 hin⟩

end GridRobot.Robot
