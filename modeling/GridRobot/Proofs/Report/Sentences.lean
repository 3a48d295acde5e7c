import GridRobot.Proofs.Command.Printing
import GridRobot.Proofs.Grid.Text

/-!
# What a plan report says

A plan report has one sentence on what becomes of the path. Its other lines repeat the command and
list positions, and none of them can be taken for such a sentence.

* `Says`: a sentence occurs in a text;
* `PathSentence`: the three sentences on a path, with `PathSentence.text`;
* `PlanReport.sentence`: the one that is the verdict of a report.

`PlanReport.says_iff` says that the report of a command says its own sentence and no other.
-/

namespace GridRobot

/-- The sentence occurs in the text. -/
def Says (text sentence : String) : Prop := sentence.toList <:+: text.toList

/-- What a report can say about a path. -/
inductive PathSentence
  | remains (moves : Nat)
  | leavesBounds (exit : Position)
  | leavesRange (last : Position)

/-- The sentence in words. -/
def PathSentence.text : PathSentence → String
  | remains moves => "Path will remain in bounds (" ++ Decimal.ofNat moves ++ " moves)."
  | leavesBounds exit => "Path will leave bounds at " ++ exit.text ++ "."
  | leavesRange last => "Path will leave the coordinate range after " ++ last.text ++ "."

/-! ### Finding a sentence in a text -/

section Search

variable {α : Type} {x y : α} {l a b : List α}

theorem eq_nil_of_prefix_cons (h : x ∉ l) (hl : l <+: x :: b) : l = [] := by
  cases l with
  | nil => rfl
  | cons c l =>
    obtain ⟨rfl, -⟩ := List.cons_prefix_cons.1 hl
    exact absurd List.mem_cons_self h

/-- What does not have the separator is found on one side of it. -/
theorem infix_append_cons_iff (h : x ∉ l) : l <:+: a ++ x :: b ↔ l <:+: a ∨ l <:+: b := by
  constructor
  · intro hl
    rcases List.infix_append_iff.1 hl with hl | hl | ⟨l₁, l₂, rfl, h₁, h₂⟩
    · exact .inl hl
    · rcases List.infix_cons_iff.1 hl with hl | hl
      · rw [eq_nil_of_prefix_cons h hl]
        exact .inr List.nil_infix
      · exact .inr hl
    · have hl₂ : l₂ = [] := eq_nil_of_prefix_cons (fun hx => h (List.mem_append_right _ hx)) h₂
      rw [hl₂, List.append_nil]
      exact .inl h₁.isInfix
  · rintro (hl | hl)
    · exact hl.trans (List.prefix_append _ _).isInfix
    · exact hl.trans ((List.suffix_cons x b).trans (List.suffix_append _ _)).isInfix

/-- What begins with the only `x` and ends with the only `y` has nothing of its kind inside it but
itself. -/
theorem infix_enclosed_iff (hxy : x ≠ y) (hx : x ∉ b) (hy : y ∉ b) :
    x :: (a ++ [y]) <:+: x :: (b ++ [y]) ↔ a = b := by
  constructor
  · intro h
    rcases List.infix_cons_iff.1 h with h | h
    · rcases List.prefix_concat_iff.1 (List.cons_prefix_cons.1 h).2 with h | h
      · exact List.append_cancel_right h
      · exact absurd (h.subset (List.mem_append_right _ List.mem_cons_self)) hy
    · have hm : x ∈ b ++ [y] := h.subset List.mem_cons_self
      simp [hx, hxy] at hm
  · rintro rfl
    exact List.infix_rfl

end Search

/-! ### Sentences on a path -/

namespace PathSentence

/-- The sentence without its first letter and its full stop. -/
def middle : PathSentence → List Char
  | remains moves =>
    "ath will remain in bounds (".toList ++ (Decimal.ofNat moves).toList ++ " moves)".toList
  | leavesBounds exit => "ath will leave bounds at ".toList ++ exit.text.toList
  | leavesRange last => "ath will leave the coordinate range after ".toList ++ last.text.toList

theorem toList_text (s : PathSentence) : s.text.toList = 'P' :: (s.middle ++ ['.']) := by
  cases s <;> (unfold text middle; simp)

theorem not_mem_middle (s : PathSentence) {x : Char} (hx : x ∈ ['P', '.', '\n']) :
    x ∉ s.middle := by
  simp only [List.mem_cons, List.not_mem_nil, or_false] at hx
  have hd : x.isDigit = false ∧ x ∉ ['+', '-'] ∧ x ∉ ['+', '-', '(', ',', ' ', ')'] := by
    rcases hx with rfl | rfl | rfl <;> decide
  have hwords : x ∉ "ath will remain in bounds (".toList ∧ x ∉ " moves)".toList ∧
      x ∉ "ath will leave bounds at ".toList ∧
      x ∉ "ath will leave the coordinate range after ".toList := by
    rcases hx with rfl | rfl | rfl <;> decide
  cases s with
  | remains n =>
    have hn := (Decimal.numeral_ofNat n).not_mem_of_not_sign hd.1 hd.2.1
    unfold middle
    simp only [List.mem_append, not_or]
    exact ⟨⟨hwords.1, hn⟩, hwords.2.1⟩
  | leavesBounds p =>
    unfold middle
    exact fun h => (List.mem_append.1 h).elim hwords.2.2.1 (p.not_mem_text hd.1 hd.2.2)
  | leavesRange p =>
    unfold middle
    exact fun h => (List.mem_append.1 h).elim hwords.2.2.2 (p.not_mem_text hd.1 hd.2.2)

/-- Different sentences begin differently or have different numbers in them. -/
theorem middle_injective {s s' : PathSentence} (h : s.middle = s'.middle) : s = s' := by
  cases s with
  | remains m =>
    cases s' with
    | remains n =>
      have hn := List.append_cancel_left (List.append_cancel_right h)
      rw [Decimal.ofNat_injective (String.toList_injective hn)]
    | leavesBounds | leavesRange =>
      unfold middle at h
      simp at h
  | leavesBounds p =>
    cases s' with
    | leavesBounds q =>
      rw [Position.text_injective (String.toList_injective (List.append_cancel_left h))]
    | remains | leavesRange =>
      unfold middle at h
      simp at h
  | leavesRange p =>
    cases s' with
    | leavesRange q =>
      rw [Position.text_injective (String.toList_injective (List.append_cancel_left h))]
    | remains | leavesBounds =>
      unfold middle at h
      simp at h

theorem infix_iff {s s' : PathSentence} : s.text.toList <:+: s'.text.toList ↔ s = s' := by
  rw [toList_text, toList_text, infix_enclosed_iff (by decide) (s'.not_mem_middle (by decide))
    (s'.not_mem_middle (by decide))]
  exact ⟨middle_injective, fun h => h ▸ rfl⟩

end PathSentence

/-! ### The lines of a report -/

namespace PlanReport

/-- What the report says about the path. -/
def sentence (r : PlanReport) : PathSentence :=
  match r.exitPosition with
  | none => .remains r.moves
  | some exit => if r.bounds.contains exit then .leavesRange exit else .leavesBounds exit

theorem verdict_eq (r : PlanReport) : r.verdict = r.sentence.text := by
  unfold verdict sentence
  cases r.exitPosition with
  | none => rfl
  | some exit =>
    dsimp only
    split <;> rfl

theorem toList_render (r : PlanReport) (showPath : Bool) :
    (r.render showPath).toList =
      ("Command:  ".toList ++ r.command.toList) ++ '\n' ::
        (("Map:      ".toList ++ r.bounds.text.toList) ++ '\n' ::
          (("Start:    ".toList ++ r.start.text.toList) ++ '\n' ::
            (r.sentence.text.toList ++ '\n' ::
              (if showPath then
                (r.pathHeading.toList ++ (Position.listText r.positions).toList) ++ ['\n']
              else [])))) := by
  unfold render
  rw [verdict_eq]
  cases showPath <;> simp

/-- The sentences have a `w`, which the lines above the verdict do not have, and a full stop, which
the line below it does not have. -/
theorem says_render_iff {r : PlanReport} {s : PathSentence} (showPath : Bool)
    (hr : 'w' ∉ r.command.toList) : Says (r.render showPath) s.text ↔ r.sentence = s := by
  have hnot : ∀ {x : Char} {line : List Char}, x ∈ s.text.toList → x ∉ line →
      ¬ s.text.toList <:+: line := fun hx hline h => hline (h.subset hx)
  have hw : 'w' ∈ s.text.toList := by cases s <;> (unfold PathSentence.text; simp)
  have hstop : '.' ∈ s.text.toList := by simp [PathSentence.toList_text]
  have hline : '\n' ∉ s.text.toList := by
    simp [PathSentence.toList_text, s.not_mem_middle]
  have hcommand : 'w' ∉ "Command:  ".toList ++ r.command.toList := by simp [hr]
  have hmap : 'w' ∉ "Map:      ".toList ++ r.bounds.text.toList := by
    simp [r.bounds.not_mem_text (x := 'w') (by decide) (by decide)]
  have hstart : 'w' ∉ "Start:    ".toList ++ r.start.text.toList := by
    simp [r.start.not_mem_text (x := 'w') (by decide) (by decide)]
  have hpath : '.' ∉ (if showPath then
      (r.pathHeading.toList ++ (Position.listText r.positions).toList) ++ ['\n'] else []) := by
    have hpositions := Position.not_mem_listText (x := '.') r.positions (by decide) (by decide)
    have hheading : '.' ∉ r.pathHeading.toList := by
      unfold pathHeading
      split <;> decide
    cases showPath <;> simp [hpositions, hheading]
  unfold Says
  rw [toList_render, infix_append_cons_iff hline, infix_append_cons_iff hline,
    infix_append_cons_iff hline, infix_append_cons_iff hline, PathSentence.infix_iff]
  simp only [hnot hw hcommand, hnot hw hmap, hnot hw hstart, hnot hstop hpath, false_or, or_false]
  exact eq_comm

/-- The report of a command says its own sentence and no other. -/
theorem says_iff {c : Command} {t : Traversal} {s : PathSentence} (showPath : Bool) :
    Says ((of c t).render showPath) s.text ↔ (of c t).sentence = s :=
  says_render_iff showPath (c.not_mem_text (by decide) (by decide) rfl)

end PlanReport

end GridRobot
