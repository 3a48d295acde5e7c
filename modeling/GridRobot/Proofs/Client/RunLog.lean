import GridRobot.Proofs.Client.Actions
import GridRobot.Proofs.Client.Configuration
import GridRobot.Proofs.Robot.Journal

/-!
# The log of a run

When a text is accepted and its command is run, the check logs what it has read and where the path
leads, and the robot logs the rest. This log tells the run exactly, and the coarser logs are what is
left of it when the finer events are dropped.

* `Level.kept`: the levels of the events that a log has, spelled out; `Level.select_eq_filter`;
* `logAt`: the log of a check and of the robot that it is followed by, at a level;
* `TellsRun c s log`: the log tells a run of `c` that has come to `s`;
* `log_tells_run`: the log of every text that is accepted.
-/

namespace GridRobot

/-- The log of the check of a text and of a robot, at a level. -/
def logAt (l : Level) (text : String) (r : Robot) : List Event :=
  l.select (checkEvents (check text) ++ r.events)

/-- The log tells a run of a command that has come to a summary. -/
structure TellsRun (c : Command) (s : RunSummary) (log : List Event) : Prop where
  /-- As many moves are logged as are made. -/
  length_moved : (withMessages ["Moved"] log).length = s.moves
  /-- Each move is logged with its direction and the position it leads to. -/
  moved : ∀ k < s.moves, ∃ d p q, s.trail[k]? = some p ∧ s.trail[k + 1]? = some q ∧
    p.step? d = some q ∧ c.moves[k]? = some d ∧
    (withMessages ["Moved"] log)[k]? = some (.moved d q)
  /-- The legs are logged one after the other, as far as the moves are enough for them. A move that
  is refused counts. -/
  exhausted : ∃ j, withMessages ["step exhausted"] log =
      (List.range j).map (fun i => .stepExhausted (i + 1)) ∧
    IsGreatest (legsWithin c.steps (s.moves + if s.outcome = .completed then 0 else 1)) j
  /-- The end of the run is logged once, and last. -/
  ended : ∃ e, Robot.EndEvent c s e ∧ withMessages endMessages log = [e] ∧ log.getLast? = some e

/-! ### Levels -/

namespace Level

/-- The levels of the events that the log at a level has. -/
def kept : Level → List Level
  | error => [error]
  | warn => [error, warn]
  | info => [error, warn, info]
  | debug => [error, warn, info, debug]
  | trace => [error, warn, info, debug, trace]

theorem mem_kept_iff {l l' : Level} : l' ∈ l.kept ↔ l'.rank ≤ l.rank := by
  cases l <;> cases l' <;> decide

/-- These are the levels up to the level itself, in the order of their importance. -/
theorem kept_eq_take (l : Level) : l.kept = all.take (l.rank + 1) := by
  cases l <;> rfl

theorem select_eq_filter (l : Level) (log : List Event) :
    l.select log = log.filter fun e => e.level ∈ l.kept := by
  simp only [select, mem_kept_iff]

/-- At the finest level there is everything. -/
theorem select_trace (log : List Event) : trace.select log = log := by
  refine List.filter_eq_self.2 fun e _ => ?_
  cases e.level <;> rfl

end Level

/-! ### The log of the robot -/

namespace Robot

variable {c : Command}

/-- Each move of a run is one unit in the direction that is logged. -/
theorem step?_of_movesAlong {d : Direction} {q : Position} {k : Nat}
    (hd : c.moves[k]? = some d) (hq : (activate c).runToEnd.1.trail[k + 1]? = some q) :
    ∃ p, (activate c).runToEnd.1.trail[k]? = some p ∧ p.step? d = some q := by
  rw [trail_runToEnd] at hq ⊢
  obtain ⟨p, hp⟩ : ∃ p, (activate c).runToEnd.2.trail.toList[k]? = some p :=
    ⟨_, List.getElem?_eq_getElem (Nat.lt_of_succ_lt (List.getElem?_eq_some_iff.1 hq).1)⟩
  obtain ⟨d', hd', hs⟩ := Reachable.activate.runToEnd.onPlan.consistent.unit_moves k p q hp hq
  rw [hd] at hd'
  cases hd'
  exact ⟨p, hp, hs⟩

/-- The legs that a run has spent. -/
theorem isGreatest_index_runToEnd (c : Command) :
    let s := (activate c).runToEnd.1
    IsGreatest (legsWithin c.steps (s.moves + if s.outcome = .completed then 0 else 1))
      (activate c).runToEnd.2.cursor.index := by
  intro s
  have hreach : Reachable c (activate c).runToEnd.2 := Reachable.activate.runToEnd
  have hmoves : s.moves = (activate c).runToEnd.2.trail.moves := moves_runToEnd _
  have hrefused : (if s.outcome = .completed then 0 else 1) =
      if (activate c).runToEnd.2.status.isAborted then 1 else 0 := by
    obtain ⟨o, ho, hs⟩ := (activate c).runToEnd_spec
    rw [show s = _ from hs]
    cases hstatus : (activate c).runToEnd.2.status <;> rw [hstatus] at ho <;> cases ho <;> rfl
  have hconserved := hreach.onPlan.conserved
  rw [Command.totalDistance, ← hreach.journaled.steps_eq] at hconserved
  rw [hmoves, hrefused, ← hreach.journaled.steps_eq]
  exact Cursor.isGreatest_index (by omega)

end Robot

/-! ### The log of a check and a run -/

/-- What a check logs is of other kinds. -/
theorem Checked.withMessages_events (k : Checked) :
    withMessages ["Moved"] k.events = [] ∧ withMessages ["step exhausted"] k.events = [] ∧
      withMessages endMessages k.events = [] := by
  obtain ⟨c, t, _ | _ | _⟩ := k <;> exact ⟨rfl, rfl, rfl⟩

/-- What a check logs is at the level of its message. -/
theorem Checked.message_mem (k : Checked) : ∀ e ∈ k.events, e.message ∈ e.level.messages := by
  have hparsed : "parsed command" ∈ Level.messages .debug := by decide
  have hinside : "path stays in bounds" ∈ Level.messages .debug := by decide
  have houtside : "path leaves bounds" ∈ Level.messages .debug := by decide
  have hrange : "path leaves coordinate range" ∈ Level.messages .debug := by decide
  rw [events, List.forall_mem_cons, List.forall_mem_singleton]
  refine ⟨hparsed, ?_⟩
  cases k.walk.ending with
  | complete => exact hinside
  | offMap => exact houtside
  | offGrid d => exact hrange

theorem tellsRun_runToEnd (k : Checked) :
    let s := (Robot.activate k.command).runToEnd.1
    let r := (Robot.activate k.command).runToEnd.2
    TellsRun k.command s (k.events ++ r.events) := by
  intro s r
  have hreach : Robot.Reachable k.command r := Robot.Reachable.activate.runToEnd
  obtain ⟨hmoved, hexhausted, hended⟩ := k.withMessages_events
  have hlog : withMessages ["Moved"] (k.events ++ r.events) =
      moveEvents (k.command.movesAlong s.trail) := by
    rw [withMessages_append, hmoved, hreach.journaled.moved_eq, ← Robot.trail_runToEnd]
    rfl
  have hlen : (k.command.movesAlong s.trail).length = s.moves :=
    Robot.length_movesAlong_runToEnd k.command
  obtain ⟨o, ho, hs⟩ := (Robot.activate k.command).runToEnd_spec
  obtain ⟨e, he, hend⟩ := hreach.onPlan.exists_endEvent ho
  refine ⟨?_, fun i hi => ?_, ⟨r.cursor.index, ?_, ?_⟩, e, ?_, ?_, ?_⟩
  · rw [hlog, moveEvents, List.length_map, hlen]
  · obtain ⟨d, q, hd, hq, hm⟩ := Command.exists_movesAlong (hlen.symm ▸ hi)
    obtain ⟨p, hp, hstep⟩ := Robot.step?_of_movesAlong hd hq
    refine ⟨d, p, q, hp, hq, hstep, hd, ?_⟩
    rw [hlog, moveEvents, List.getElem?_map, hm]
    rfl
  · rw [withMessages_append, hexhausted, hreach.journaled.exhausted_eq]
    rfl
  · exact Robot.isGreatest_index_runToEnd k.command
  · rwa [show s = _ from hs]
  · rw [withMessages_append, hended, hreach.journaled.ended_eq, he]
    rfl
  · rw [List.getLast?_append, hreach.journaled.getLast?_eq e he]
    rfl

/-- The client logs the same run, however its output is written. -/
theorem events_runText {text : String} {k : Checked} (hk : check text = .ok k) (flags : Flags) :
    (runText text flags).events = k.events ++ (Robot.activate k.command).runToEnd.2.events ++
      [.runComplete (Robot.activate k.command).runToEnd.1.moves] := by
  cases hp : Command.parse text with
  | error e =>
    rw [check, hp] at hk
    cases hk
  | ok c =>
    rw [check_eq_ok hp] at hk
    cases hk
    rw [runText_eq hp]

end GridRobot
