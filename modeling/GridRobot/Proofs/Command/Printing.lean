import GridRobot.Proofs.Command.Rejection
import GridRobot.Proofs.Grid.Text
import GridRobot.Report.Basic

/-!
# Printed commands

A command is printed with its sections in the usual order. Distances are printed in full, but
they are read as coordinates, so that legs longer than the greatest coordinate can be printed and
not read back.

* `Section.printed`: a section as it is printed; `Command.toList_text` puts a printed command
  together from its sections;
* `parse_text`: a command without such legs is read back;
* `parse_text_of_lt`: otherwise the distance of the first such leg is reported;
* `distance_le_of_parse`: no command that was read has such legs;
* `Command.text_inj`: whether it can be read back or not, a printed text is that of one command.
-/

namespace GridRobot

namespace Step

variable {s : Step}

theorem toList_text (s : Step) :
    s.text.toList = s.direction.letter :: (Decimal.ofNat s.distance).toList := by
  simp [text]

theorem not_mem_text {x : Char} (hd : x.isDigit = false) (hx : x ∉ ['+', '-'])
    (hl : Direction.ofLetter? x = none) : x ∉ s.text.toList := by
  rw [toList_text, List.mem_cons]
  rintro (rfl | h)
  · rw [Direction.ofLetter?_letter] at hl
    cases hl
  · exact (Decimal.numeral_ofNat s.distance).not_mem_of_not_sign hd hx h

theorem stepText_text (h : s.distance ≤ 2147483647) : StepText s.text.toList s := by
  rw [toList_text]
  exact .mk (Decimal.numeral_ofNat s.distance) h

/-- A distance above the greatest coordinate is no coordinate. -/
theorem tokenFault_text (h : 2147483647 < s.distance) :
    TokenFault s.text.toList (.invalidInteger .stepDistance (Decimal.ofNat s.distance)) := by
  have hc : ¬ CoordText (Decimal.ofNat s.distance).toList := by
    rintro ⟨n, hn⟩
    have hval := hn.eq (Decimal.numeral_ofNat s.distance)
    have hupper := n.upper
    omega
  rw [toList_text, ← String.ofList_toList (s := Decimal.ofNat s.distance), String.toList_ofList]
  exact .distance hc

end Step

/-! ### Printed sections -/

namespace Section

/-- A section as it is printed. -/
def printed : Section → List Char
  | map b => 'M' :: ':' :: [','].intercalate
      [b.min.x.text.toList, b.max.x.text.toList, b.min.y.text.toList, b.max.y.text.toList]
  | start p => 'S' :: ':' :: [','].intercalate [p.x.text.toList, p.y.text.toList]
  | steps l => '[' :: ([','].intercalate (l.map fun s => s.text.toList) ++ [']'])

theorem not_mem_printed {x : Char} (s : Section) (hd : x.isDigit = false)
    (hx : x ∉ ['+', '-', 'M', 'S', ':', ',', '[', ']']) (hl : Direction.ofLetter? x = none) :
    x ∉ s.printed := by
  simp only [List.mem_cons, List.not_mem_nil, not_or] at hx
  have hsign : x ∉ ['+', '-'] := by simp [hx]
  have hcoord : ∀ c : Coord, x ∉ c.text.toList := fun c => c.not_mem_text hd hsign
  cases s with
  | map b => simp [printed, hcoord, hx]
  | start p => simp [printed, hcoord, hx]
  | steps l =>
    have hl : x ∉ [','].intercalate (l.map fun s => s.text.toList) := by
      refine not_mem_intercalate (by simp [hx]) fun token ht => ?_
      obtain ⟨s, -, rfl⟩ := List.mem_map.1 ht
      exact s.not_mem_text hd hsign hl
    simp [printed, hl, hx]

theorem sectionText_printed_map (b : Bounds) : SectionText (map b).printed (.map b) :=
  .map b.min.x.numeral_text b.max.x.numeral_text b.min.y.numeral_text b.max.y.numeral_text

theorem sectionText_printed_start (p : Position) : SectionText (start p).printed (.start p) :=
  .start p.x.numeral_text p.y.numeral_text

theorem sectionText_printed_steps {l : List Step} (h : ∀ s ∈ l, s.distance ≤ 2147483647) :
    SectionText (steps l).printed (.steps l) := by
  cases l with
  | nil => exact .noSteps
  | cons s l =>
    refine .steps (List.cons_ne_nil _ _) ?_
    rw [List.forall₂_map_left_iff, List.forall₂_same]
    exact fun s hs => Step.stepText_text (h s hs)

/-- Of several legs that are too long to be read back the first is reported. -/
theorem contentFault_printed_steps {before after : List Step} {s : Step}
    (hbefore : ∀ s' ∈ before, s'.distance ≤ 2147483647) (h : 2147483647 < s.distance) :
    ContentFault .steps ([','].intercalate ((before ++ s :: after).map fun s => s.text.toList))
      (.invalidInteger .stepDistance (Decimal.ofNat s.distance)) := by
  have hcomma : ∀ token ∈ (before ++ s :: after).map fun s => s.text.toList, ',' ∉ token := by
    intro token ht
    obtain ⟨s', -, rfl⟩ := List.mem_map.1 ht
    exact s'.not_mem_text (by decide) (by decide) rfl
  rw [List.map_append, List.map_cons] at hcomma ⊢
  refine .token ?_ rfl hcomma ?_ (Step.tokenFault_text h)
  · -- Fields with a letter in them cannot be joined to nothing.
    intro hnil
    have hs := splitOn_eq_iff.2 ⟨by simp, hnil.symm, hcomma⟩
    rw [List.splitOn_nil] at hs
    cases before <;> simp [Step.toList_text] at hs
  · intro token ht
    obtain ⟨s', hs', rfl⟩ := List.mem_map.1 ht
    exact ⟨s', Step.stepText_text (hbefore s' hs')⟩

end Section

/-! ### Whole commands -/

namespace Command

variable {c : Command}

theorem toList_text (c : Command) :
    c.text.toList = [';'].intercalate (c.sections.map Section.printed) := by
  unfold text
  simp [sections, Section.printed, Function.comp_def]

theorem splitOn_text (c : Command) :
    c.text.toList.splitOn ';' = c.sections.map Section.printed := by
  refine splitOn_eq_iff.2 ⟨List.cons_ne_nil _ _, c.toList_text, fun part hp => ?_⟩
  obtain ⟨s, -, rfl⟩ := List.mem_map.1 hp
  exact s.not_mem_printed (by decide) (by decide) rfl

theorem not_mem_text {x : Char} (hd : x.isDigit = false)
    (hx : x ∉ ['+', '-', 'M', 'S', ':', ',', '[', ']', ';']) (hl : Direction.ofLetter? x = none) :
    x ∉ c.text.toList := by
  simp only [List.mem_cons, List.not_mem_nil, not_or] at hx
  rw [toList_text]
  refine not_mem_intercalate (by simp [hx]) fun part hp => ?_
  obtain ⟨s, -, rfl⟩ := List.mem_map.1 hp
  exact s.not_mem_printed hd (by simp [hx]) hl

theorem parse_text (h : ∀ s ∈ c.steps, s.distance ≤ 2147483647) : parse c.text = .ok c := by
  rw [parse_of_length_eq (by rw [splitOn_text]; rfl), splitOn_text]
  refine foldlM_readSection_finish_iff.2 ⟨c.sections, ?_, List.Perm.refl _⟩
  exact .cons (Section.sectionText_printed_map _) <| .cons (Section.sectionText_printed_start _) <|
    .cons (Section.sectionText_printed_steps h) .nil

theorem parse_text_of_lt {before after : List Step} {s : Step} (hc : c.steps = before ++ s :: after)
    (hbefore : ∀ s' ∈ before, s'.distance ≤ 2147483647) (h : 2147483647 < s.distance) :
    parse c.text = .error (.invalidInteger .stepDistance (Decimal.ofNat s.distance)) := by
  have hfault : ContentFault .steps ([','].intercalate (c.steps.map fun s => s.text.toList))
      (.invalidInteger .stepDistance (Decimal.ofNat s.distance)) := by
    rw [hc]
    exact Section.contentFault_printed_steps hbefore h
  have hread : List.Forall₂ SectionText
      [(Section.map c.bounds).printed, (Section.start c.start).printed]
      [.map c.bounds, .start c.start] :=
    .cons (Section.sectionText_printed_map _) (.cons (Section.sectionText_printed_start _) .nil)
  obtain ⟨-, htext, hsep⟩ := splitOn_eq_iff.1 c.splitOn_text
  apply parse_of_commandFault
  rw [htext]
  exact .atSection rfl hsep hread (by simp [Section.kind]) (.content .steps hfault)

/-- Among legs of which some are too long there is a first. -/
theorem exists_steps_eq_append (h : ∃ s ∈ c.steps, 2147483647 < s.distance) :
    ∃ before s after, c.steps = before ++ s :: after ∧
      (∀ s' ∈ before, s'.distance ≤ 2147483647) ∧ 2147483647 < s.distance := by
  obtain ⟨s, hs⟩ : ∃ s, c.steps.find? (fun s => 2147483647 < s.distance) = some s := by
    rw [← Option.isSome_iff_exists]
    simpa using h
  obtain ⟨hlt, before, after, hsteps, hbefore⟩ := List.find?_eq_some_iff_append.1 hs
  exact ⟨before, s, after, hsteps, by simpa using hbefore, by simpa using hlt⟩

end Command

theorem StepText.forall_distance_le {tokens : List (List Char)} {l : List Step}
    (h : List.Forall₂ StepText tokens l) : ∀ s ∈ l, s.distance ≤ 2147483647 := by
  induction h with
  | nil => simp
  | cons h _ ih =>
    obtain ⟨-, hle⟩ := h
    exact List.forall_mem_cons.2 ⟨hle, ih⟩

theorem SectionText.forall_distance_le {text : List Char} {l : List Step}
    (h : SectionText text (.steps l)) : ∀ s ∈ l, s.distance ≤ 2147483647 := by
  cases h with
  | noSteps => simp
  | steps _ ht => exact StepText.forall_distance_le ht

namespace Command

variable {c : Command}

/-- Legs that were read are not longer than the greatest coordinate. -/
theorem distance_le_of_parse {text : String} (h : parse text = .ok c) :
    ∀ s ∈ c.steps, s.distance ≤ 2147483647 := by
  by_cases hlen : (text.toList.splitOn ';').length = 3
  · rw [parse_of_length_eq hlen, foldlM_readSection_finish_iff, exists_sections_iff] at h
    obtain ⟨-, -, l, -, -, -, hl⟩ := h
    exact hl.forall_distance_le
  · rw [parse_of_length_ne hlen] at h
    cases h

/-- **Which commands are read back.** A printed command is read back as itself exactly when no leg
is longer than the greatest coordinate. -/
theorem parse_text_eq_ok_iff (c : Command) :
    parse c.text = .ok c ↔ ∀ s ∈ c.steps, s.distance ≤ 2147483647 :=
  ⟨distance_le_of_parse, parse_text⟩

/-- A leg that is one unit too long to be read. -/
def longLeg : Command where
  bounds := ⟨.origin, ⟨5, by decide, by decide⟩, ⟨5, by decide, by decide⟩⟩
  start := .origin
  steps := [⟨.north, 2147483648, by decide, by decide⟩]

theorem not_forall_parse_text :
    parse longLeg.text = .error (.invalidInteger .stepDistance "2147483648") ∧
      ¬ ∀ c : Command, parse c.text = .ok c := by
  have h : parse longLeg.text = .error (.invalidInteger .stepDistance "2147483648") := by decide
  refine ⟨h, fun hall => ?_⟩
  rw [hall longLeg] at h
  cases h

end Command

/-! ### Different commands are printed differently -/

theorem Step.text_injective : Function.Injective Step.text := by
  intro s s' h
  have hlist := congrArg String.toList h
  rw [toList_text, toList_text, List.cons.injEq] at hlist
  have hdirection : s.direction = s'.direction := by
    rw [← Option.some_inj, ← Direction.ofLetter?_letter, hlist.1, Direction.ofLetter?_letter]
  have hdistance : s.distance = s'.distance :=
    Decimal.ofNat_injective (String.toList_injective hlist.2)
  cases s
  cases s'
  simp_all

namespace Section

/-- There is text between the brackets only if there are legs. -/
theorem intercalate_text_injective :
    Function.Injective fun l : List Step => [','].intercalate (l.map fun s => s.text.toList) := by
  have hnil : ∀ (s : Step) (l : List Step),
      [','].intercalate ((s :: l).map fun s => s.text.toList) ≠ [] := by
    intro s l h
    cases l <;> simp [Step.toList_text] at h
  intro l l' h
  cases l with
  | nil =>
    cases l' with
    | nil => rfl
    | cons s' l' => exact absurd h.symm (hnil s' l')
  | cons s l =>
    cases l' with
    | nil => exact absurd h (hnil s l)
    | cons s' l' =>
      refine (intercalate_map_inj (fun s s' hs => ?_) (fun s => ?_) (List.cons_ne_nil s l)
        (List.cons_ne_nil s' l')).1 h
      · exact Step.text_injective (String.toList_injective hs)
      · exact s.not_mem_text (by decide) (by decide) rfl

/-- A printed section tells its kind and its contents. -/
theorem printed_injective : Function.Injective printed := by
  have hcoords : ∀ {cs cs' : List Coord}, cs ≠ [] → cs' ≠ [] →
      [','].intercalate (cs.map fun c => c.text.toList) =
        [','].intercalate (cs'.map fun c => c.text.toList) → cs = cs' := by
    intro cs cs' hne hne' h
    refine (intercalate_map_inj (fun c c' hc => ?_) (fun c => ?_) hne hne').1 h
    · exact Coord.text_injective (String.toList_injective hc)
    · exact c.not_mem_text (by decide) (by decide)
  intro s s' h
  cases s with
  | map b =>
    cases s' with
    | map b' =>
      have hfields : [b.min.x, b.max.x, b.min.y, b.max.y] =
          [b'.min.x, b'.max.x, b'.min.y, b'.max.y] :=
        hcoords (List.cons_ne_nil _ _) (List.cons_ne_nil _ _) (List.cons.inj (List.cons.inj h).2).2
      simp only [List.cons.injEq, and_true] at hfields
      obtain ⟨hminX, hmaxX, hminY, hmaxY⟩ := hfields
      have hmin : b.min = b'.min := Position.ext hminX hminY
      have hmax : b.max = b'.max := Position.ext hmaxX hmaxY
      cases b
      cases b'
      simp_all
    | start | steps => cases (List.cons.inj h).1
  | start p =>
    cases s' with
    | start p' =>
      have hfields : [p.x, p.y] = [p'.x, p'.y] :=
        hcoords (List.cons_ne_nil _ _) (List.cons_ne_nil _ _) (List.cons.inj (List.cons.inj h).2).2
      simp only [List.cons.injEq, and_true] at hfields
      rw [Position.ext hfields.1 hfields.2]
    | map | steps => cases (List.cons.inj h).1
  | steps l =>
    cases s' with
    | steps l' =>
      rw [intercalate_text_injective (List.append_cancel_right (List.cons.inj h).2)]
    | map | start => cases (List.cons.inj h).1

end Section

namespace Command

variable {c c' : Command}

/-- **Different commands are printed differently.** A printed text is that of one command only,
whether or not it can be read back. -/
theorem text_inj : c.text = c'.text ↔ c = c' := by
  constructor
  · intro h
    have hsections : c.sections = c'.sections := by
      apply List.map_injective_iff.2 Section.printed_injective
      rw [← splitOn_text, ← splitOn_text, h]
    simp only [sections, List.cons.injEq, Section.map.injEq, Section.start.injEq,
      Section.steps.injEq, and_true] at hsections
    cases c
    cases c'
    simp_all
  · rintro rfl
    rfl

end Command

/-! ### Checking a printed command -/

theorem check_eq_ok {text : String} {c : Command} (h : Command.parse text = .ok c) :
    check text = .ok ⟨c, c.walk⟩ := by
  rw [check, h]
  rfl

namespace Command

/-- **Printed text is canonical.** A command without legs longer than the greatest coordinate is
read back from its printed text; otherwise the first of these legs is reported with its distance.
Every command that was read is of the former kind, so checking its text gives a report whose
command text is checked again with the same command and the same report. -/
theorem canonical_text (c : Command) :
    ((∀ s ∈ c.steps, s.distance ≤ 2147483647) → parse c.text = .ok c) ∧
    ((∃ s ∈ c.steps, 2147483647 < s.distance) →
      ∃ before s after, c.steps = before ++ s :: after ∧
        (∀ s' ∈ before, s'.distance ≤ 2147483647) ∧ 2147483647 < s.distance ∧
        parse c.text = .error (.invalidInteger .stepDistance (Decimal.ofNat s.distance))) ∧
    ∀ text, parse text = .ok c → (∀ s ∈ c.steps, s.distance ≤ 2147483647) ∧
      ∃ k, check text = .ok k ∧ k.command = c ∧ k.report.command = c.text ∧
        ∃ k', check k.report.command = .ok k' ∧ k'.command = c ∧ k'.report = k.report := by
  refine ⟨parse_text, fun h => ?_, fun text h => ?_⟩
  · obtain ⟨before, s, after, hsteps, hbefore, hlt⟩ := exists_steps_eq_append h
    exact ⟨before, s, after, hsteps, hbefore, hlt, parse_text_of_lt hsteps hbefore hlt⟩
  · have hle := distance_le_of_parse h
    exact ⟨hle, _, check_eq_ok h, rfl, rfl, _, check_eq_ok (parse_text hle), rfl, rfl⟩

/-- A command at the ends of the coordinate range, with a leg that is as long as can be read. -/
def widest : Command where
  bounds := ⟨⟨.lowest, 0⟩, ⟨.highest, ⟨5, by decide, by decide⟩⟩⟩
  start := ⟨.lowest, .highest⟩
  steps := [⟨.east, 2147483647, by decide, by decide⟩, ⟨.south, 7, by decide, by decide⟩]

theorem canonical_text_widest :
    let text := "[E+2147483647,S007];M:-2147483648,2147483647,-0,+5;S:-2147483648,+02147483647"
    parse text = .ok widest ∧ parse widest.text = .ok widest ∧
      (∃ k, check text = .ok k ∧ k.command = widest ∧
        ∃ k', check k.report.command = .ok k' ∧ k'.command = widest ∧ k'.report = k.report) ∧
      ∃ s ∈ longLeg.steps, parse longLeg.text =
        .error (.invalidInteger .stepDistance (Decimal.ofNat s.distance)) := by
  intro text
  have h : parse text = .ok widest := by decide
  obtain ⟨hprinted, -, hread⟩ := canonical_text widest
  obtain ⟨hle, k, hk, hcommand, -, hk'⟩ := hread text h
  obtain ⟨before, s, after, hsteps, -, -, hs⟩ := (canonical_text longLeg).2.1
    ⟨_, List.mem_cons_self, by decide⟩
  exact ⟨h, hprinted hle, ⟨k, hk, hcommand, hk'⟩, s, by simp [hsteps], hs⟩

end Command

end GridRobot
