import GridRobot.Proofs.Report.Sentences
import GridRobot.Proofs.Robot.Agreement

/-!
# Reports and runs give the same reason

A plan report is written before the run. It knows the path and whether it stays inside the map,
but not why the path ends where it does: that is worked out from the last position, which is the
last tile of the map if the coordinate range ends there, and otherwise the exit. A start that is
off the map is taken for an exit if the first move leaves the coordinate range.

* `RunSummary.reason`: the sentence that tells how a run ended;
* `Command.BlockedOffMap`: the commands whose start is taken for an exit;
* `report_tells_reason`: the report of every command says the reason for which the run ends, but
  for these commands.
-/

namespace GridRobot

/-- How a run ended, as the report of the plan should have said. -/
def RunSummary.reason (s : RunSummary) : PathSentence :=
  match s.outcome with
  | .completed => .remains s.moves
  | .aborted (some target) => .leavesBounds target
  | .aborted none => .leavesRange s.finalPosition

/-- The start is off the map and the first move leaves the coordinate range. -/
def Command.BlockedOffMap (c : Command) : Prop :=
  c.bounds.contains c.start = false ∧ ∃ d, c.moves.head? = some d ∧ c.start.step? d = none

/-- A command that starts west of its map, at the western edge of the grid, and moves west. -/
def Command.westOfMap : Command where
  bounds := ⟨.origin, ⟨7, by decide, by decide⟩, ⟨7, by decide, by decide⟩⟩
  start := ⟨.lowest, 0⟩
  steps := [⟨.west, 1, by decide, by decide⟩]

namespace RunSummary

variable {s : RunSummary}

theorem reason_eq_remains_iff {n : Nat} :
    s.reason = .remains n ↔ s.outcome = .completed ∧ s.moves = n := by
  unfold reason
  split <;> simp_all

theorem reason_eq_leavesBounds_iff {p : Position} :
    s.reason = .leavesBounds p ↔ s.outcome = .aborted (some p) := by
  unfold reason
  split <;> simp_all

theorem reason_eq_leavesRange_iff {p : Position} :
    s.reason = .leavesRange p ↔ s.outcome = .aborted none ∧ s.finalPosition = p := by
  unfold reason
  split <;> simp_all

end RunSummary

namespace PlanReport

variable {c : Command} {t : Traversal} {p : Position}

theorem sentence_of_inBounds (h : t.inBounds = true) :
    (of c t).sentence = .remains (t.path.length - 1) := by
  simp [sentence, of, Traversal.exitPosition, h]

theorem sentence_of_exit (h : t.inBounds = false) (hp : t.path.getLast? = some p) :
    (of c t).sentence = if c.bounds.contains p then .leavesRange p else .leavesBounds p := by
  simp [sentence, of, Traversal.exitPosition, h, hp]

end PlanReport

namespace Robot

variable {c : Command} {r : Robot} {o : RunOutcome}

/-- A robot that stands off the map has not moved. -/
theorem OnPlan.trail_eq_of_off_map (h : r.OnPlan c) (hoff : c.bounds.contains r.position = false) :
    r.trail.toList = [c.start] := by
  have hcons := h.consistent
  have hhead := hcons.head?_eq
  have hlast := hcons.getLast?_eq
  have hinside := hcons.inside
  cases ht : r.trail.toList with
  | nil => exact absurd ht r.trail.toList_ne_nil
  | cons p rest =>
    rw [ht] at hhead hlast hinside
    cases hhead
    cases rest with
    | nil => rfl
    | cons q rest =>
      rw [List.getLast?_cons_cons] at hlast
      have hin := hinside r.position (List.mem_of_getLast? hlast)
      rw [hoff] at hin
      cases hin

theorem traverse_of_blockedOffMap (h : c.BlockedOffMap) : c.traverse = ⟨false, [c.start]⟩ := by
  obtain ⟨-, d, hd, hs⟩ := h
  obtain ⟨rest, hmoves⟩ : ∃ rest, c.moves = d :: rest := ⟨_, List.eq_cons_of_mem_head? hd⟩
  rw [Command.traverse, Command.walk_eq_walkMoves, hmoves, walkMoves_offGrid hs]
  rfl

/-- A robot that stops at the end of the coordinate range stands on the map, unless its command is
blocked off the map. -/
theorem OnPlan.contains_of_stopsAtRange (h : r.OnPlan c)
    (hs : StopsAtRange c c.traverse (r.summary o)) (hb : ¬ c.BlockedOffMap) :
    c.bounds.contains r.position = true := by
  obtain ⟨-, ⟨p, d, hp, hd, hstep⟩, -, htrail⟩ := hs
  by_contra hoff
  rw [Bool.not_eq_true] at hoff
  have hpath : c.traverse.path = [c.start] := htrail.symm.trans (h.trail_eq_of_off_map hoff)
  have hpos : r.position = c.start := by
    have hlast := h.consistent.getLast?_eq
    rw [h.trail_eq_of_off_map hoff] at hlast
    exact (Option.some.inj hlast).symm
  rw [hpath] at hp hd
  cases hp
  rw [List.length_singleton, Nat.sub_self, ← List.head?_eq_getElem?] at hd
  exact hb ⟨hpos ▸ hoff, d, hd, hstep⟩

/-- The report gives the reason for which a robot stopped. -/
theorem OnPlan.sentence_eq (h : r.OnPlan c) (ho : r.status.outcome? = some o)
    (hb : ¬ c.BlockedOffMap) :
    (PlanReport.of c c.traverse).sentence = (r.summary o).reason := by
  rcases h.agrees ho with ⟨hin, hout, htrail⟩ | hrange | ⟨hin, p, hout, hoff, hpath⟩
  · rw [PlanReport.sentence_of_inBounds hin, ← htrail, eq_comm,
      RunSummary.reason_eq_remains_iff]
    exact ⟨hout, by simp [summary]⟩
  · have hinside := h.contains_of_stopsAtRange hrange hb
    obtain ⟨hin, -, hout, htrail⟩ := hrange
    have hlast : c.traverse.path.getLast? = some r.position :=
      htrail ▸ h.consistent.getLast?_eq
    rw [PlanReport.sentence_of_exit hin hlast, if_pos hinside, eq_comm]
    exact RunSummary.reason_eq_leavesRange_iff.2 ⟨hout, rfl⟩
  · have hp : c.traverse.path.getLast? = some p := by simp [hpath]
    rw [PlanReport.sentence_of_exit hin hp, hoff, eq_comm]
    exact RunSummary.reason_eq_leavesBounds_iff.2 hout

/-- A robot whose command is blocked off the map stops on its start, which the report takes for the
exit. -/
theorem OnPlan.of_blockedOffMap (h : r.OnPlan c) (ho : r.status.outcome? = some o)
    (hb : c.BlockedOffMap) :
    (r.summary o).reason = .leavesRange c.start ∧
      (PlanReport.of c c.traverse).sentence = .leavesBounds c.start := by
  have ht := traverse_of_blockedOffMap hb
  have hlast := h.consistent.getLast?_eq
  constructor
  · rcases h.agrees ho with ⟨hin, -, -⟩ | ⟨-, -, hout, htrail⟩ | ⟨-, p, -, -, hpath⟩
    · rw [ht] at hin
      cases hin
    · rw [show r.trail.toList = c.traverse.path from htrail, ht] at hlast
      exact RunSummary.reason_eq_leavesRange_iff.2 ⟨hout, (Option.some.inj hlast).symm⟩
    · -- The path would be longer than the start.
      rw [ht] at hpath
      have hlen := congrArg List.length hpath
      simp [summary] at hlen
  · have hexit : (⟨false, [c.start]⟩ : Traversal).path.getLast? = some c.start := rfl
    rw [ht, PlanReport.sentence_of_exit rfl hexit, hb.1]
    rfl

/-! ### Every command -/

theorem sentence_eq_reason (hb : ¬ c.BlockedOffMap) :
    (PlanReport.of c c.traverse).sentence = (activate c).runToEnd.1.reason := by
  obtain ⟨r, o, hplan, ho, hs⟩ := exists_onPlan_runToEnd c
  rw [hs]
  exact hplan.sentence_eq ho hb

theorem reason_of_blockedOffMap (hb : c.BlockedOffMap) :
    (activate c).runToEnd.1.reason = .leavesRange c.start ∧
      (PlanReport.of c c.traverse).sentence = .leavesBounds c.start := by
  obtain ⟨r, o, hplan, ho, hs⟩ := exists_onPlan_runToEnd c
  rw [hs]
  exact hplan.of_blockedOffMap ho hb

/-- **Reports tell why a run ends.** The report of a plan says that the path stays in bounds, leaves
them or ends with the coordinate range exactly when the run does, with the same number of moves and
the same positions. The exception is a command that is blocked off the map: its run ends with the
coordinate range on the start, and the report says that the path leaves bounds there. -/
theorem report_tells_reason (c : Command) (showPath : Bool) :
    let text := (PlanReport.of c c.traverse).render showPath
    let s := (activate c).runToEnd.1
    (∀ n, Says text (PathSentence.remains n).text ↔ s.outcome = .completed ∧ s.moves = n) ∧
    (∀ p, Says text (PathSentence.leavesBounds p).text ↔
      s.outcome = .aborted (some p) ∨ c.BlockedOffMap ∧ c.start = p) ∧
    (∀ p, Says text (PathSentence.leavesRange p).text ↔
      s.outcome = .aborted none ∧ s.finalPosition = p ∧ ¬ c.BlockedOffMap) ∧
    (c.BlockedOffMap → s.outcome = .aborted none ∧ s.finalPosition = c.start) := by
  intro text s
  simp only [text, PlanReport.says_iff]
  by_cases hb : c.BlockedOffMap
  · obtain ⟨hreason, hsentence⟩ := reason_of_blockedOffMap hb
    obtain ⟨hout, hfinal⟩ : s.outcome = .aborted none ∧ s.finalPosition = c.start :=
      RunSummary.reason_eq_leavesRange_iff.1 hreason
    simp [hsentence, hout, hfinal, hb]
  · rw [sentence_eq_reason hb]
    exact ⟨fun n => RunSummary.reason_eq_remains_iff,
      fun p => by simp [RunSummary.reason_eq_leavesBounds_iff, s, hb],
      fun p => by simp [RunSummary.reason_eq_leavesRange_iff, s, hb], fun h => absurd h hb⟩

/-- The report of a command that is blocked off the map does not give the reason of its run. -/
theorem report_misses_reason :
    let c := Command.westOfMap
    let text := (PlanReport.of c c.traverse).render false
    let s := (activate c).runToEnd.1
    ¬ (Says text (PathSentence.leavesBounds c.start).text ↔ s.outcome = .aborted (some c.start)) ∧
      ¬ (Says text (PathSentence.leavesRange c.start).text ↔
        s.outcome = .aborted none ∧ s.finalPosition = c.start) := by
  intro c text s
  have hb : c.BlockedOffMap := ⟨by decide, .west, by decide, by decide⟩
  obtain ⟨hreason, hsentence⟩ := reason_of_blockedOffMap hb
  obtain ⟨hout, hfinal⟩ : s.outcome = .aborted none ∧ s.finalPosition = c.start :=
    RunSummary.reason_eq_leavesRange_iff.1 hreason
  simp [text, PlanReport.says_iff, hsentence, hout, hfinal]

end Robot

end GridRobot
