import GridRobot.Proofs.Client.Requests
import GridRobot.Proofs.Command.Printing
import GridRobot.Proofs.Report.Runs
import GridRobot.Proofs.Robot.Agreement
import GridRobot.Proofs.Robot.Playback

/-!
# What a check and a run come to

A check judges a plan by the exit of its path, and a run by the outcome of the robot. Text output
and JSON output of a run are made by driving the robot in two ways. None of this makes a difference.

* `checkText_eq`, `runText_eq`: the outcomes for text that is accepted; `Action.outcome_of_error`:
  the outcome for text that is rejected;
* `errorText_some`: an error with its cause, as it is printed;
* `calls_agree`: any two calls on the same text exit with the same code, which says whether the
  path stays inside the map;
* `ShowsRun`: lines that show every move of a run and no other; `text_and_json_tell_run` says that
  text output has such lines between the reports of the plan and of the run that JSON output is made
  of.
-/

namespace GridRobot

/-! ### The exit of a path -/

theorem Command.exitPosition_eq_none_iff (c : Command) :
    c.traverse.exitPosition = none ↔ c.traverse.inBounds = true := by
  have hlast : c.traverse.path.getLast? ≠ none :=
    mt List.getLast?_eq_none_iff.1 c.walk.trail.toList_ne_nil
  unfold Traversal.exitPosition
  cases c.traverse.inBounds <;> simp [hlast]

/-! ### The outcomes of actions -/

section Outcomes

variable {text : String} {c : Command} {flags : Flags}

theorem Action.outcome_of_error {e : CommandError} (action : Action)
    (h : Command.parse text = .error e) : action.outcome text flags = .rejected e := by
  have hcheck : GridRobot.check text = .error e := by
    rw [GridRobot.check, h]
    rfl
  cases action with
  | check =>
    change checkText text flags = _
    rw [checkText, hcheck]
  | run =>
    change runText text flags = _
    rw [runText, hcheck]

theorem checkText_eq (h : Command.parse text = .ok c) (flags : Flags) :
    checkText text flags =
      { stdout :=
          if flags.json then (PlanReport.of c c.traverse).toJson.pretty ++ "\n"
          else (PlanReport.of c c.traverse).render flags.showPath
        events := (Checked.mk c c.walk).events
        error := c.traverse.exitPosition.map fun exit =>
          errorText ("Path leaves the map at " ++ exit.text) none } := by
  rw [checkText, check_eq_ok h]
  rfl

/-- The lines that show moves. -/
def moveLines (moves : List (Direction × Position)) : List String :=
  moves.map fun m => moveLine m.1 m.2

/-- However the output is written, the run is that of a fresh robot. -/
theorem runText_eq (h : Command.parse text = .ok c) (flags : Flags) :
    let s := (Robot.activate c).runToEnd.1
    runText text flags =
      { stdout :=
          if flags.json then
            (Json.obj [("plan", (PlanReport.of c c.traverse).toJson),
              ("run", s.toJson)]).sortKeys.pretty ++ "\n"
          else
            (PlanReport.of c c.traverse).render flags.showPath ++
              String.join (moveLines (c.movesAlong s.trail)) ++ s.render flags.showPath
        events := (Checked.mk c c.walk).events ++ (Robot.activate c).runToEnd.2.events ++
          [.runComplete s.moves]
        error := s.outcome.error? } := by
  have hagain : (Robot.activate c).runToEnd.2.runToEnd = (Robot.activate c).runToEnd :=
    Robot.runToEnd_runToEnd _
  obtain ⟨json, showPath⟩ := flags
  rw [runText, check_eq_ok h]
  cases json with
  | true =>
    simp only [if_true]
    rfl
  | false =>
    simp only [Bool.false_eq_true, if_false, Robot.playback_activate, hagain]
    rfl

end Outcomes

/-! ### Exit codes -/

namespace Outcome

variable {o : Outcome}

theorem exit_eq_zero_iff : o.exit = 0 ↔ o.error = none := by
  unfold exit
  cases o.error <;> simp

theorem exit_eq_one_iff : o.exit = 1 ↔ ¬ o.exit = 0 := by
  unfold exit
  cases o.error <;> simp

end Outcome

theorem RunOutcome.error?_eq_none_iff {o : RunOutcome} : o.error? = none ↔ o = .completed := by
  unfold error?
  split <;> simp_all

/-- An action succeeds on the commands whose path stays inside the map. -/
theorem Action.exit_outcome_eq_zero_iff {action : Action} {text : String} {flags : Flags} :
    (action.outcome text flags).exit = 0 ↔
      ∃ c, Command.parse text = .ok c ∧ c.traverse.inBounds = true := by
  rw [Outcome.exit_eq_zero_iff]
  cases hp : Command.parse text with
  | error e =>
    rw [outcome_of_error action hp]
    exact iff_of_false (Option.some_ne_none _) fun ⟨_, hc, _⟩ => nomatch hc
  | ok c =>
    simp only [Except.ok.injEq, exists_eq_left']
    cases action with
    | check =>
      rw [outcome, checkText_eq hp]
      exact Option.map_eq_none_iff.trans c.exitPosition_eq_none_iff
    | run =>
      rw [outcome, runText_eq hp]
      exact RunOutcome.error?_eq_none_iff.trans (Robot.outcome_eq_completed_iff c)

/-- An error with its cause: a line for the error, and the cause in a line of its own. -/
theorem errorText_some (message cause : String) :
    errorText message (some cause) =
      "Error: " ++ message ++ "\n\nCaused by:\n    " ++ cause ++ "\n" := by
  apply String.toList_injective
  simp [errorText]

/-- What a call on a text comes to, whatever is to be done with the text and however the output is
to be written. -/
structure Judges (text : String) (t : Transcript) : Prop where
  /-- The call succeeds if the path stays inside the map. -/
  exit_eq_zero_iff : t.exit = 0 ↔
    ∃ c, Command.parse text = .ok c ∧ c.traverse.inBounds = true
  /-- Otherwise it fails. -/
  exit_eq_one_iff : t.exit = 1 ↔
    ¬ ∃ c, Command.parse text = .ok c ∧ c.traverse.inBounds = true
  /-- For a text that is rejected there is no output, and the message of the fault is the cause of
  the error. -/
  rejected : ∀ e, Command.parse text = .error e →
    t.stdout = "" ∧
      t.stderr = "Error: Invalid command\n\nCaused by:\n    " ++ e.message ++ "\n"

theorem Asks.judges {arguments : List String} {env : Environment} {host : Host} {action : Action}
    {text : String} {flags : Flags} (h : Asks arguments env host action text flags) :
    Judges text (client arguments env host) := by
  obtain ⟨hexit, hstdout, hstderr⟩ := h.client_eq
  refine ⟨?_, ?_, fun e he => ?_⟩
  · rw [hexit, Action.exit_outcome_eq_zero_iff]
  · rw [hexit, Outcome.exit_eq_one_iff, Action.exit_outcome_eq_zero_iff]
  · rw [hstdout, hstderr, Action.outcome_of_error action he]
    exact ⟨rfl, errorText_some "Invalid command" e.message⟩

/-- **Checks and runs agree.** Two calls on the same text, to check it or to run it and with any
switches, exit with the same code: zero if the text is a command whose path stays inside the map,
and one otherwise. If the text is rejected, both of them print nothing but the same error. -/
theorem calls_agree {arguments arguments' : List String} {env env' : Environment}
    {host host' : Host} {action action' : Action} {text : String} {flags flags' : Flags}
    (h : Asks arguments env host action text flags)
    (h' : Asks arguments' env' host' action' text flags') :
    let t := client arguments env host
    let t' := client arguments' env' host'
    t.exit = t'.exit ∧ Judges text t ∧ Judges text t' ∧
      ∀ e, Command.parse text = .error e → t.stdout = t'.stdout ∧ t.stderr = t'.stderr := by
  intro t t'
  have hexit : t.exit = t'.exit := by
    by_cases hin : ∃ c, Command.parse text = .ok c ∧ c.traverse.inBounds = true
    · rw [h.judges.exit_eq_zero_iff.2 hin, h'.judges.exit_eq_zero_iff.2 hin]
    · rw [h.judges.exit_eq_one_iff.2 hin, h'.judges.exit_eq_one_iff.2 hin]
  refine ⟨hexit, h.judges, h'.judges, fun e he => ?_⟩
  obtain ⟨hstdout, hstderr⟩ := h.judges.rejected e he
  obtain ⟨hstdout', hstderr'⟩ := h'.judges.rejected e he
  exact ⟨hstdout.trans hstdout'.symm, hstderr.trans hstderr'.symm⟩

/-- An empty directory. -/
def emptyHost : Host := ⟨0, none, ⟨[], []⟩⟩

/-- An environment that asks for JSON output and for a log file. -/
def jsonEnvironment : Environment :=
  [("ROBOT_JSON", "ON"), ("ROBOT_LOG_TO_FILE", "x"), ("ROBOT_LOG_DIR", "logs"),
    ("ROBOT_SESSION_ID", "s1")]

theorem asks_jsonEnvironment (flags : Flags) (action : Action) (text : String) :
    Asks (action.word :: (flags.words ++ ["--", text])) jsonEnvironment emptyHost action text
      ⟨true, flags.showPath⟩ := by
  have hconfig : Config.ofEnvironment jsonEnvironment =
      ⟨none, false, true, true, some "logs", some "s1"⟩ := by decide
  have hlogging : ∀ f, LogFile.of? (Config.ofEnvironment jsonEnvironment) jsonEnvironment
      emptyHost = some f → emptyHost.files.obstacle? f.dir = none := by
    intro f hf
    have hfile : LogFile.of? (Config.ofEnvironment jsonEnvironment) jsonEnvironment emptyHost =
        some ⟨"s1", "logs/s1"⟩ := by rw [hconfig]; decide
    rw [hfile] at hf
    cases hf
    decide
  have h := asks_words action flags text hlogging
  rw [hconfig] at h
  simpa [Flags.or] using h

/-- A check in text and a run in JSON of a plan that leaves its map, and of a text without a plan. -/
theorem calls_agree_cornerPlan :
    let text := "M:0,3,0,3;S:0,0;[E2,N3]"
    let t := client ["check", "--", text] [] emptyHost
    let t' := client ["run", "--show-path", "--", text] jsonEnvironment emptyHost
    let short := "M:0,3,0,3;S:0,0"
    let u := client ["check", "--", short] [] emptyHost
    let u' := client ["run", "--", short] jsonEnvironment emptyHost
    Asks ["check", "--", text] [] emptyHost .check text ⟨false, false⟩ ∧
      Asks ["run", "--show-path", "--", text] jsonEnvironment emptyHost .run text ⟨true, true⟩ ∧
      t.exit = t'.exit ∧ t.exit = 1 ∧
      Command.parse short = .error (.sectionCount 2) ∧ u.stdout = "" ∧ u.stderr = u'.stderr ∧
      u.stderr = "Error: Invalid command\n\nCaused by:\n    " ++
        "invalid command format: expected 3 sections but got 2\n" := by
  intro text t t' short u u'
  have h : Asks ["check", "--", text] [] emptyHost .check text ⟨false, false⟩ :=
    asks_words .check {} text nofun
  have h' : Asks ["run", "--show-path", "--", text] jsonEnvironment emptyHost .run text
      ⟨true, true⟩ := asks_jsonEnvironment ⟨false, true⟩ .run text
  have hleaves : ¬ ∃ c, Command.parse text = .ok c ∧ c.traverse.inBounds = true := by
    rintro ⟨c, hc, hin⟩
    have hcorner : Command.parse text = .ok Robot.cornerPlan := by decide
    rw [hcorner] at hc
    cases hc
    revert hin
    decide
  obtain ⟨hexit, hjudges, -, -⟩ := calls_agree h h'
  have hshort : Command.parse short = .error (.sectionCount 2) := by decide
  have g : Asks ["check", "--", short] [] emptyHost .check short ⟨false, false⟩ :=
    asks_words .check {} short nofun
  obtain ⟨-, hcause, -, hsame⟩ := calls_agree g (asks_jsonEnvironment {} .run short)
  obtain ⟨hstdout, hstderr⟩ := hcause.rejected _ hshort
  have hmessage : (CommandError.sectionCount 2).message =
      "invalid command format: expected 3 sections but got 2" := by decide
  refine ⟨h, h', hexit, hjudges.exit_eq_one_iff.2 hleaves, hshort, hstdout, (hsame _ hshort).2, ?_⟩
  rw [show u.stderr = _ from hstderr, hmessage]
  rfl

/-! ### What a run shows -/

/-- Lines that show a run: one for each of its moves, in order, with the direction from the plan and
the position from the trail. The move after these is not there or was refused. -/
structure ShowsRun (c : Command) (s : RunSummary) (lines : List String) : Prop where
  length_eq : lines.length = s.moves
  line : ∀ k < s.moves, ∃ d p, c.moves[k]? = some d ∧ s.trail[k + 1]? = some p ∧
    lines[k]? = some ("  " ++ d.column ++ " -> (" ++ Decimal.ofInt p.x.val ++ ", " ++
      Decimal.ofInt p.y.val ++ ")\n")
  /-- Each of them is one line of the output. -/
  one_break : ∀ l ∈ lines, l.toList.count '\n' = 1
  next : Robot.NextMove c s.moves s.finalPosition s.outcome

theorem showsRun_moveLines (c : Command) :
    let s := (Robot.activate c).runToEnd.1
    ShowsRun c s (moveLines (c.movesAlong s.trail)) := by
  intro s
  have hlen : (c.movesAlong s.trail).length = s.moves := Robot.length_movesAlong_runToEnd c
  refine ⟨by rw [moveLines, List.length_map, hlen], fun k hk => ?_, fun l hl => ?_,
    Robot.nextMove_runToEnd c⟩
  · obtain ⟨d, p, hd, hp, hm⟩ := Command.exists_movesAlong (hlen.symm ▸ hk)
    refine ⟨d, p, hd, hp, ?_⟩
    rw [moveLines, List.getElem?_map, hm, ← moveLine_eq]
    rfl
  · obtain ⟨m, -, rfl⟩ := List.mem_map.1 hl
    exact count_newline_moveLine m.1 m.2

/-- **Text and JSON tell the same run.** JSON output of a run has a summary `s` under the name for
it, and could not have any other there. Text output has the report of the plan, then a line for each
move of `s` and no other line, and then the report of `s`, which could not be that of any other
summary if it shows the trail. -/
theorem text_and_json_tell_run {arguments arguments' : List String} {env env' : Environment}
    {host host' : Host} {text : String} {c : Command} {flags flags' : Flags}
    (hc : Command.parse text = .ok c)
    (hjson : Asks arguments env host .run text flags) (hon : flags.json = true)
    (htext : Asks arguments' env' host' .run text flags') (hoff : flags'.json = false) :
    let s := (Robot.activate c).runToEnd.1
    let report := PlanReport.of c c.traverse
    (client arguments env host).stdout =
        (Json.obj [("plan", report.toJson), ("run", s.toJson)]).sortKeys.pretty ++ "\n" ∧
      (∀ (plan : Json) (s' : RunSummary), (client arguments env host).stdout =
        (Json.obj [("plan", plan), ("run", s'.toJson)]).sortKeys.pretty ++ "\n" → s' = s) ∧
      ∃ lines, ShowsRun c s lines ∧
        (client arguments' env' host').stdout =
          report.render flags'.showPath ++ String.join lines ++ s.render flags'.showPath ∧
        (flags'.showPath = true → ∀ s' : RunSummary, (client arguments' env' host').stdout =
          report.render true ++ String.join lines ++ s'.render true → s' = s) := by
  intro s report
  have hout : (client arguments env host).stdout =
      (Json.obj [("plan", report.toJson), ("run", s.toJson)]).sortKeys.pretty ++ "\n" := by
    rw [hjson.client_eq.2.1, Action.outcome, runText_eq hc, hon]
    rfl
  have hout' : (client arguments' env' host').stdout =
      report.render flags'.showPath ++ String.join (moveLines (c.movesAlong s.trail)) ++
        s.render flags'.showPath := by
    rw [htext.client_eq.2.1, Action.outcome, runText_eq hc, hoff]
    rfl
  refine ⟨hout, fun plan s' h => ?_, moveLines (c.movesAlong s.trail), showsRun_moveLines c, hout',
    fun hpath s' h => ?_⟩
  · rw [hout, String.append_left_inj] at h
    exact (RunSummary.eq_of_pretty_eq h).symm
  · rw [hout', hpath, String.append_right_inj] at h
    exact (RunSummary.render_true_injective h).symm

theorem text_and_json_tell_run_cornerPlan :
    let text := "M:0,3,0,3;S:0,0;[E2,N3]"
    let c := Robot.cornerPlan
    let s := (Robot.activate c).runToEnd.1
    let report := PlanReport.of c c.traverse
    Command.parse text = .ok c ∧
      Asks ["run", "--", text] jsonEnvironment emptyHost .run text ⟨true, false⟩ ∧
      Asks ["run", "--show-path", "--", text] [] emptyHost .run text ⟨false, true⟩ ∧
      (client ["run", "--", text] jsonEnvironment emptyHost).stdout =
        (Json.obj [("plan", report.toJson), ("run", s.toJson)]).sortKeys.pretty ++ "\n" ∧
      (∀ (plan : Json) (s' : RunSummary),
        (client ["run", "--", text] jsonEnvironment emptyHost).stdout =
          (Json.obj [("plan", plan), ("run", s'.toJson)]).sortKeys.pretty ++ "\n" → s' = s) ∧
      ∃ lines, ShowsRun c s lines ∧
        (client ["run", "--show-path", "--", text] [] emptyHost).stdout =
          report.render true ++ String.join lines ++ s.render true ∧
        ∀ s' : RunSummary, (client ["run", "--show-path", "--", text] [] emptyHost).stdout =
          report.render true ++ String.join lines ++ s'.render true → s' = s := by
  intro text c s report
  have hc : Command.parse text = .ok c := by decide
  have hjson : Asks ["run", "--", text] jsonEnvironment emptyHost .run text ⟨true, false⟩ :=
    asks_jsonEnvironment {} .run text
  have htext : Asks ["run", "--show-path", "--", text] [] emptyHost .run text ⟨false, true⟩ :=
    asks_words .run ⟨false, true⟩ text nofun
  obtain ⟨hj, hjonly, lines, hl, ht, htonly⟩ := text_and_json_tell_run hc hjson rfl htext rfl
  exact ⟨hc, hjson, htext, hj, hjonly, lines, hl, ht, htonly rfl⟩

end GridRobot
