import GridRobot.Json.Encode
import GridRobot.Proofs.Grid.Text
import GridRobot.Proofs.Json.Pretty

/-!
# What the output of a run says

A run report with the trail tells everything that the summary of the run holds. Without the trail
it is the beginning of that report. The summary as JSON tells as much, and the line of a move tells
the move.

* `Position.prefixCode_text`, `Position.listText_injective`: positions in text, one or several;
* `RunOutcome.prefixCode_opening`: the words before the final position tell how the run ended;
* `RunSummary.toList_render`: the lines of a report;
* `RunSummary.render_true_injective`, `RunSummary.report_tells_run`: a report with the trail is that
  of one summary only;
* `moveLine_eq`, `count_newline_moveLine`, `moveLine_inj`: the line of a move is one line, with the
  direction and the position of the move;
* `RunSummary.sortKeys_toJson_injective`, `RunSummary.eq_of_pretty_eq`: JSON output is that of one
  summary only.
-/

namespace GridRobot

theorem Decimal.prefixCode_ofNat {x : Char} (hd : x.isDigit = false) (hx : x ∉ ['+', '-']) :
    PrefixCode fun n => (ofNat n).toList ++ [x] :=
  .of_terminated (fun n => (numeral_ofNat n).not_mem_of_not_sign hd hx) fun _ _ h =>
    ofNat_injective (String.toList_injective h)

/-! ### Positions -/

namespace Position

/-- The closing parenthesis is the only one. -/
theorem prefixCode_text : PrefixCode fun p : Position => p.text.toList := by
  have hend : ∀ p : Position, p.text.toList =
      ('(' :: (p.x.text.toList ++ ',' :: ' ' :: p.y.text.toList)) ++ [')'] := by
    intro p
    simp [toList_text]
  have hcoord : ∀ c : Coord, ')' ∉ c.text.toList := fun c =>
    c.not_mem_text (by decide) (by decide)
  simp only [hend]
  refine PrefixCode.of_terminated (fun p => ?_) fun p q h => ?_
  · simp [hcoord]
  · apply text_injective
    apply String.toList_injective
    rw [hend, hend, h]

theorem toList_listText_cons (p : Position) (ps : List Position) :
    (listText (p :: ps)).toList =
      p.text.toList ++ ps.flatMap fun q => ", ".toList ++ q.text.toList := by
  rw [listText, String.toList_intercalate, List.map_cons, List.map_cons,
    intercalate_cons_eq_flatMap, List.flatMap_map, List.flatMap_map]

/-- A list of positions tells them, although each of them has a comma and a blank in it as well. -/
theorem listText_injective : Function.Injective listText := by
  have hnil : ∀ p ps, listText (p :: ps) ≠ listText [] := by
    intro p ps h
    have hlist := congrArg String.toList h
    simp [toList_text, listText] at hlist
  intro ps qs h
  cases ps with
  | nil =>
    cases qs with
    | nil => rfl
    | cons q qs => exact absurd h.symm (hnil q qs)
  | cons p ps =>
    cases qs with
    | nil => exact absurd h (hnil p ps)
    | cons q qs =>
      have hlist := congrArg String.toList h
      rw [toList_listText_cons, toList_listText_cons] at hlist
      obtain ⟨rfl, hrest⟩ := prefixCode_text hlist
      -- the end of the line stands for the end of the list
      have hline := congrArg (· ++ ['\n']) hrest
      rw [((prefixCode_text.prepend ", ".toList).flatMap_append_cons_inj
        (fun q => ⟨',', _, rfl, by decide⟩) hline).1]

end Position

/-! ### Lines -/

namespace RunOutcome

/-- What the first line says before the final position. -/
def opening : RunOutcome → String
  | completed => "Target reached at "
  | aborted (some target) =>
    "Unable to reach " ++ target.text ++ ", it is outside the map. Stopped at "
  | aborted none => "Unable to move past the coordinate range. Stopped at "

theorem opening_some (q : Position) : opening (aborted (some q)) =
    "Unable to reach " ++ q.text ++ ", it is outside the map. Stopped at " := rfl

theorem toList_opening_some (q : Position) : (opening (aborted (some q))).toList =
    "Unable to reach ".toList ++
      (q.text.toList ++ ", it is outside the map. Stopped at ".toList) := by
  rw [opening_some, String.toList_append, String.toList_append, List.append_assoc]

/-- The words at the beginning tell which of the three forms a line has. -/
theorem prefixCode_opening : PrefixCode fun o : RunOutcome => o.opening.toList := by
  intro o o' s s' h
  rcases o with _ | _ | q <;> rcases o' with _ | _ | q'
  case completed.completed | aborted.none.aborted.none => exact ⟨rfl, List.append_cancel_left h⟩
  case aborted.some.aborted.some =>
    simp only [toList_opening_some, List.append_assoc] at h
    obtain ⟨rfl, hend⟩ := Position.prefixCode_text (List.append_cancel_left h)
    exact ⟨rfl, List.append_cancel_left hend⟩
  all_goals
    simp only [toList_opening_some, List.append_assoc] at h
    exact absurd (prefix_or_prefix_of_append_eq h) (by decide)

theorem sentence_eq (o : RunOutcome) (p : Position) :
    o.sentence p = o.opening ++ p.text ++ "." := by
  cases o with
  | completed => rfl
  | aborted target => cases target <;> rfl

end RunOutcome

namespace RunSummary

/-- The lines of a report and, if it is asked for, the line of the trail. -/
theorem toList_render (s : RunSummary) (showPath : Bool) :
    (s.render showPath).toList =
      s.outcome.opening.toList ++ (s.finalPosition.text.toList ++ (".\nMoves made: ".toList ++
        (((Decimal.ofNat s.moves).toList ++ ['\n']) ++ ("Tiles cleaned: ".toList ++
          (((Decimal.ofNat s.cleanedTiles).toList ++ ['/']) ++
            (((Decimal.ofNat s.totalTiles).toList ++ ['\n']) ++
              if showPath then "Trail: ".toList ++ ((Position.listText s.trail).toList ++ ['\n'])
              else [])))))) := by
  cases showPath <;> simp [render, RunOutcome.sentence_eq]

/-- A report with the trail tells the summary. -/
theorem render_true_injective : Function.Injective fun s : RunSummary => s.render true := by
  intro s s' h
  have hnewline : PrefixCode fun n => (Decimal.ofNat n).toList ++ ['\n'] :=
    Decimal.prefixCode_ofNat (by decide) (by decide)
  have hslash : PrefixCode fun n => (Decimal.ofNat n).toList ++ ['/'] :=
    Decimal.prefixCode_ofNat (by decide) (by decide)
  have hlist := congrArg String.toList h
  simp only [toList_render, if_true] at hlist
  obtain ⟨houtcome, hlist⟩ := RunOutcome.prefixCode_opening hlist
  obtain ⟨hfinal, hlist⟩ := Position.prefixCode_text hlist
  obtain ⟨hmoves, hlist⟩ := hnewline (List.append_cancel_left hlist)
  obtain ⟨hcleaned, hlist⟩ := hslash (List.append_cancel_left hlist)
  obtain ⟨htotal, hlist⟩ := hnewline hlist
  have htrail : s.trail = s'.trail := Position.listText_injective <|
    String.toList_injective <| List.append_cancel_right <| List.append_cancel_left hlist
  cases s
  cases s'
  simp_all only

/-- **A report with the trail loses nothing.** It is the report of one summary only, and the report
without the trail is a proper beginning of it. -/
theorem report_tells_run :
    (∀ s s' : RunSummary, s.render true = s'.render true ↔ s = s') ∧
      ∀ s : RunSummary, (s.render false).toList <+: (s.render true).toList ∧
        s.render false ≠ s.render true := by
  refine ⟨fun s s' => ⟨fun h => render_true_injective h, fun h => by rw [h]⟩, fun s => ⟨?_, ?_⟩⟩
  · simp [toList_render]
  · intro h
    have hlist := congrArg String.toList h
    simp [toList_render] at hlist

end RunSummary

/-! ### Lines of moves -/

namespace Direction

/-- The name of a direction in a column of five characters. -/
def column : Direction → String
  | north => "North"
  | east => "East "
  | south => "South"
  | west => "West "

theorem padRight_name (d : Direction) : padRight 5 d.name = d.column := by
  cases d <;> rfl

theorem length_toList_column (d : Direction) : d.column.toList.length = 5 := by
  cases d <;> rfl

theorem newline_not_mem_column (d : Direction) : '\n' ∉ d.column.toList := by
  cases d <;> decide

theorem column_injective : Function.Injective column := by
  intro d d' h
  cases d <;> cases d' <;> first | rfl | exact absurd h (by decide)

end Direction

section Moves

variable (d : Direction) (p : Position)

/-- The line of a move, spelled out. -/
theorem moveLine_eq : moveLine d p = "  " ++ d.column ++ " -> (" ++ Decimal.ofInt p.x.val ++ ", " ++
    Decimal.ofInt p.y.val ++ ")\n" := by
  apply String.toList_injective
  simp [moveLine, d.padRight_name, Position.text, Coord.text]

theorem toList_moveLine :
    (moveLine d p).toList =
      "  ".toList ++ (d.column.toList ++ (" -> ".toList ++ (p.text.toList ++ ['\n']))) := by
  simp [moveLine, d.padRight_name]

/-- The line of a move ends where it breaks. -/
theorem count_newline_moveLine : (moveLine d p).toList.count '\n' = 1 := by
  have hcolumn : d.column.toList.count '\n' = 0 := List.count_eq_zero.2 d.newline_not_mem_column
  have hp : p.text.toList.count '\n' = 0 :=
    List.count_eq_zero.2 (p.not_mem_text (by decide) (by decide))
  simp [toList_moveLine, hcolumn, hp]

end Moves

/-- The line of a move names the direction and the position. -/
theorem moveLine_inj {d d' : Direction} {p p' : Position} :
    moveLine d p = moveLine d' p' ↔ d = d' ∧ p = p' := by
  constructor
  · intro h
    have hlist := congrArg String.toList h
    rw [toList_moveLine, toList_moveLine] at hlist
    obtain ⟨hd, hrest⟩ := List.append_inj (List.append_cancel_left hlist)
      (d.length_toList_column.trans d'.length_toList_column.symm)
    obtain ⟨hp, -⟩ := Position.prefixCode_text (List.append_cancel_left hrest)
    exact ⟨Direction.column_injective (String.toList_injective hd), hp⟩
  · rintro ⟨rfl, rfl⟩
    rfl

/-! ### Summaries as JSON -/

namespace Position

theorem sortKeys_toJson_injective : Function.Injective fun p : Position => p.toJson.sortKeys := by
  intro p q h
  have hx : (Json.num p.x.val).sortKeys = (Json.num q.x.val).sortKeys :=
    Json.sortKeys_eq_of_mem h "x" (by simp) (by simp)
  have hy : (Json.num p.y.val).sortKeys = (Json.num q.y.val).sortKeys :=
    Json.sortKeys_eq_of_mem h "y" (by simp) (by simp)
  simp only [Json.sortKeys_num, Json.num.injEq] at hx hy
  exact Position.ext (Coord.ext hx) (Coord.ext hy)

theorem sortKeys_listToJson_injective :
    Function.Injective fun ps : List Position => (listToJson ps).sortKeys := by
  intro ps qs h
  simp only [listToJson, Json.sortKeys_arr, List.map_map, Json.arr.injEq] at h
  exact (List.map_inj_right fun _ _ hpq => sortKeys_toJson_injective hpq).1 h

/-- Null stands for no position. -/
theorem sortKeys_getD_null_injective :
    Function.Injective fun p : Option Position => ((p.map toJson).getD .null).sortKeys := by
  have hnull : ∀ p : Position, p.toJson.sortKeys ≠ Json.null.sortKeys := by
    intro p h
    simp [toJson, Json.sortKeys_obj] at h
  intro p q h
  cases p with
  | none =>
    cases q with
    | none => rfl
    | some q => exact absurd h.symm (hnull q)
  | some p =>
    cases q with
    | none => exact absurd h (hnull p)
    | some q => rw [sortKeys_toJson_injective h]

end Position

theorem RunOutcome.sortKeys_toJson_injective :
    Function.Injective fun o : RunOutcome => o.toJson.sortKeys := by
  have hkind : ∀ target, completed.toJson.sortKeys ≠ (aborted target).toJson.sortKeys := by
    intro target h
    have hstr : (Json.str "completed").sortKeys = (Json.str "aborted").sortKeys :=
      Json.sortKeys_eq_of_mem h "kind" (by simp) (by simp)
    simp at hstr
  intro o o' h
  cases o with
  | completed =>
    cases o' with
    | completed => rfl
    | aborted target' => exact absurd h (hkind target')
  | aborted target =>
    cases o' with
    | completed => exact absurd h.symm (hkind target)
    | aborted target' =>
      have htarget : ((target.map Position.toJson).getD .null).sortKeys =
          ((target'.map Position.toJson).getD .null).sortKeys :=
        Json.sortKeys_eq_of_mem h "target" (by simp) (by simp)
      rw [Position.sortKeys_getD_null_injective htarget]

namespace RunSummary

/-- The fields of a summary are all in its JSON form. -/
theorem sortKeys_toJson_injective : Function.Injective fun s : RunSummary => s.toJson.sortKeys := by
  intro s s' h
  have houtcome : s.outcome.toJson.sortKeys = s'.outcome.toJson.sortKeys :=
    Json.sortKeys_eq_of_mem h "outcome" (by simp) (by simp)
  have hfinal : s.finalPosition.toJson.sortKeys = s'.finalPosition.toJson.sortKeys :=
    Json.sortKeys_eq_of_mem h "final_position" (by simp) (by simp)
  have hmoves : (Json.num s.moves).sortKeys = (Json.num s'.moves).sortKeys :=
    Json.sortKeys_eq_of_mem h "moves" (by simp) (by simp)
  have hcleaned : (Json.num s.cleanedTiles).sortKeys = (Json.num s'.cleanedTiles).sortKeys :=
    Json.sortKeys_eq_of_mem h "cleaned_tiles" (by simp) (by simp)
  have htotal : (Json.num s.totalTiles).sortKeys = (Json.num s'.totalTiles).sortKeys :=
    Json.sortKeys_eq_of_mem h "total_tiles" (by simp) (by simp)
  have htrail : (Position.listToJson s.trail).sortKeys = (Position.listToJson s'.trail).sortKeys :=
    Json.sortKeys_eq_of_mem h "trail" (by simp) (by simp)
  simp only [Json.sortKeys_num, Json.num.injEq, Int.ofNat_inj] at hmoves hcleaned htotal
  replace houtcome := RunOutcome.sortKeys_toJson_injective houtcome
  replace hfinal := Position.sortKeys_toJson_injective hfinal
  replace htrail := Position.sortKeys_listToJson_injective htrail
  cases s
  cases s'
  simp_all only

/-- JSON output with a summary in it is that of one summary only, whatever the plan is. -/
theorem eq_of_pretty_eq {plan plan' : Json} {s s' : RunSummary}
    (h : (Json.obj [("plan", plan), ("run", s.toJson)]).sortKeys.pretty =
      (Json.obj [("plan", plan'), ("run", s'.toJson)]).sortKeys.pretty) : s = s' := by
  have hrun : s.toJson.sortKeys = s'.toJson.sortKeys :=
    Json.sortKeys_eq_of_mem (Json.pretty_injective h) "run" (by simp) (by simp)
  exact sortKeys_toJson_injective hrun

end RunSummary

end GridRobot
