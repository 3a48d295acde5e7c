import GridRobot.Command.Parse
import GridRobot.Proofs.Command.Sections
import Mathlib.Data.List.Perm.Basic

/-!
# The grammar of command text

Command text is a map, a start and steps, in any order.

* `CommandText`: command text with its command;
* `Draft.entries`: the sections in a draft.

A draft is known by its sections, and one more section can be put into it exactly when the result
is a draft again: `Draft.add_eq_ok_iff`. So the reader comes to an end with the sections of the
text in whatever order they were written. `Command.parse_eq_ok_iff` says that it accepts exactly
the texts of the grammar, with the right command.
-/

namespace GridRobot

/-- Command text with its command: one section of each kind, in any order, with semicolons
between them. -/
inductive CommandText : List Char → Command → Prop
  | mk {parts : List (List Char)} {m s l : List Char} {c : Command} :
      parts.Perm [m, s, l] → (∀ part ∈ parts, ';' ∉ part) →
      SectionText m (.map c.bounds) → SectionText s (.start c.start) →
      SectionText l (.steps c.steps) → CommandText ([';'].intercalate parts) c

/-- The sections of a command, in the usual order. -/
def Command.sections (c : Command) : List Section :=
  [.map c.bounds, .start c.start, .steps c.steps]

namespace Draft

variable {d d' : Draft} {s : Section}

/-- The sections in a draft, in the usual order. -/
def entries (d : Draft) : List Section :=
  d.bounds.toList.map .map ++ d.start.toList.map .start ++ d.steps.toList.map .steps

/-! ### The sections in a draft -/

@[simp] theorem entries_empty : ({} : Draft).entries = [] := rfl

theorem map_mem_entries {bounds : Bounds} : .map bounds ∈ d.entries ↔ d.bounds = some bounds := by
  simp [entries]

theorem start_mem_entries {p : Position} : .start p ∈ d.entries ↔ d.start = some p := by
  simp [entries]

theorem steps_mem_entries {steps : List Step} :
    .steps steps ∈ d.entries ↔ d.steps = some steps := by
  simp [entries]

/-- A draft has at most one section of each kind. -/
theorem nodup_kind_entries (d : Draft) : (d.entries.map Section.kind).Nodup := by
  obtain ⟨bounds, start, steps⟩ := d
  cases bounds <;> cases start <;> cases steps <;> simp [entries, Section.kind]

theorem eq_of_entries_perm (h : d.entries.Perm d'.entries) : d = d' := by
  obtain ⟨bounds, start, steps⟩ := d
  obtain ⟨bounds', start', steps'⟩ := d'
  congr
  · exact Option.ext fun b => by simpa only [map_mem_entries] using h.mem_iff (a := .map b)
  · exact Option.ext fun p => by simpa only [start_mem_entries] using h.mem_iff (a := .start p)
  · exact Option.ext fun l => by simpa only [steps_mem_entries] using h.mem_iff (a := .steps l)

theorem kind_not_mem_of_perm {l : List Section} (h : d'.entries.Perm (s :: (l ++ d.entries))) :
    s.kind ∉ d.entries.map Section.kind := by
  intro hs
  have hn := (h.map Section.kind).nodup_iff.1 d'.nodup_kind_entries
  rw [List.map_cons, List.map_append] at hn
  exact (List.nodup_cons.1 hn).1 (List.mem_append_right _ hs)

/-! ### Putting a section into a draft -/

/-- A section finds its place in a draft that has no section of its kind. -/
theorem exists_add_eq_ok (h : s.kind ∉ d.entries.map Section.kind) :
    ∃ d', d.add s = .ok d' ∧ d'.entries.Perm (s :: d.entries) := by
  obtain ⟨bounds, start, steps⟩ := d
  cases s with
  | map b =>
    cases bounds with
    | none => exact ⟨_, rfl, List.Perm.refl _⟩
    | some b' => simp [entries, Section.kind] at h
  | start p =>
    cases start with
    | none =>
      refine ⟨_, rfl, ?_⟩
      simp [entries]
    | some p' => simp [entries, Section.kind] at h
  | steps l =>
    cases steps with
    | none =>
      refine ⟨_, rfl, ?_⟩
      simp only [entries, Option.toList_none, Option.toList_some, List.map_nil, List.map_cons,
        List.append_nil]
      exact List.perm_append_singleton _ _
    | some l' => simp [entries, Section.kind] at h

/-- A section is refused when its place is taken. -/
theorem add_eq_error (h : s.kind ∈ d.entries.map Section.kind) :
    d.add s = .error (.duplicateSection s.kind) := by
  obtain ⟨bounds, start, steps⟩ := d
  cases s <;> cases bounds <;> cases start <;> cases steps <;>
    simp [entries, Section.kind, add] at h ⊢

theorem add_eq_ok_iff : d.add s = .ok d' ↔ d'.entries.Perm (s :: d.entries) := by
  constructor
  · intro h
    by_cases hs : s.kind ∈ d.entries.map Section.kind
    · rw [add_eq_error hs] at h
      cases h
    · obtain ⟨d'', hd, hp⟩ := exists_add_eq_ok hs
      rw [hd] at h
      cases h
      exact hp
  · intro h
    obtain ⟨d'', hd, hp⟩ := exists_add_eq_ok (kind_not_mem_of_perm (l := []) h)
    rw [hd, eq_of_entries_perm (h.trans hp.symm)]

/-! ### Reading section after section -/

theorem readSection_eq_ok_iff {text : List Char} :
    d.readSection text = .ok d' ↔
      ∃ s, SectionText text s ∧ d'.entries.Perm (s :: d.entries) := by
  have h : d.readSection text = .ok d' ↔ ∃ s, Section.read text = .ok s ∧ d.add s = .ok d' :=
    bind_eq_ok_iff
  simp only [h, Section.read_eq_ok_iff, add_eq_ok_iff]

theorem foldlM_readSection_eq_ok_iff {texts : List (List Char)} :
    texts.foldlM readSection d = .ok d' ↔
      ∃ sections, List.Forall₂ SectionText texts sections ∧
        d'.entries.Perm (sections ++ d.entries) := by
  induction texts generalizing d with
  | nil =>
    simp only [List.forall₂_nil_left_iff, exists_eq_left, List.nil_append]
    constructor
    · intro h
      cases h
      exact List.Perm.refl _
    · intro h
      rw [eq_of_entries_perm h]
      rfl
  | cons text texts ih =>
    rw [List.foldlM_cons, bind_eq_ok_iff]
    constructor
    · rintro ⟨d₁, h₁, h⟩
      obtain ⟨s, hs, hp₁⟩ := readSection_eq_ok_iff.1 h₁
      obtain ⟨sections, hsections, hp⟩ := ih.1 h
      refine ⟨s :: sections, .cons hs hsections, hp.trans ?_⟩
      exact (hp₁.append_left sections).trans List.perm_middle
    · rintro ⟨_, hf, hp⟩
      cases hf with
      | @cons _ s _ sections hs hsections =>
        have hp' : d'.entries.Perm (s :: (sections ++ d.entries)) := hp
        obtain ⟨d₁, hd₁, hp₁⟩ := exists_add_eq_ok (kind_not_mem_of_perm hp')
        refine ⟨d₁, readSection_eq_ok_iff.2 ⟨s, hs, hp₁⟩, ih.2 ⟨sections, hsections, ?_⟩⟩
        exact hp'.trans (List.perm_middle.symm.trans (hp₁.append_left sections).symm)

theorem finish_eq_ok_iff {c : Command} : d.finish = .ok c ↔ d.entries = c.sections := by
  obtain ⟨bounds, start, steps⟩ := d
  obtain ⟨b, p, l⟩ := c
  cases bounds <;> cases start <;> cases steps <;> simp [finish, entries, Command.sections]

end Draft

namespace Command

variable {c : Command} {parts : List (List Char)}

/-- The parts are the sections of a command when the draft that they fill gives the command. -/
theorem foldlM_readSection_finish_iff :
    (parts.foldlM Draft.readSection {}).bind Draft.finish = .ok c ↔
      ∃ sections, List.Forall₂ SectionText parts sections ∧ sections.Perm c.sections := by
  have hbind : (parts.foldlM Draft.readSection {}).bind Draft.finish = .ok c ↔
      ∃ d, parts.foldlM Draft.readSection {} = .ok d ∧ d.finish = .ok c := bind_eq_ok_iff
  rw [hbind]
  constructor
  · rintro ⟨d, hd, hc⟩
    obtain ⟨sections, hs, hp⟩ := Draft.foldlM_readSection_eq_ok_iff.1 hd
    refine ⟨sections, hs, ?_⟩
    rw [Draft.finish_eq_ok_iff.1 hc, Draft.entries_empty, List.append_nil] at hp
    exact hp.symm
  · rintro ⟨sections, hs, hp⟩
    let d : Draft := ⟨some c.bounds, some c.start, some c.steps⟩
    refine ⟨d, Draft.foldlM_readSection_eq_ok_iff.2 ⟨sections, hs, ?_⟩, rfl⟩
    rw [Draft.entries_empty, List.append_nil]
    exact hp.symm

theorem exists_sections_iff :
    (∃ sections, List.Forall₂ SectionText parts sections ∧ sections.Perm c.sections) ↔
      ∃ m s l, parts.Perm [m, s, l] ∧ SectionText m (.map c.bounds) ∧
        SectionText s (.start c.start) ∧ SectionText l (.steps c.steps) := by
  have hcomp : (∃ sections, List.Forall₂ SectionText parts sections ∧ sections.Perm c.sections) ↔
      ∃ texts, parts.Perm texts ∧ List.Forall₂ SectionText texts c.sections :=
    iff_of_eq (congrFun₂ List.forall₂_comp_perm_eq_perm_comp_forall₂ parts c.sections)
  rw [hcomp]
  constructor
  · rintro ⟨_, hp, h⟩
    obtain _ | ⟨hm, _ | ⟨hs, _ | ⟨hl, _ | _⟩⟩⟩ := h
    exact ⟨_, _, _, hp, hm, hs, hl⟩
  · rintro ⟨m, s, l, hp, hm, hs, hl⟩
    exact ⟨[m, s, l], hp, .cons hm (.cons hs (.cons hl .nil))⟩

/-- **Acceptance.** The reader accepts a text with a command exactly when the grammar of command
text gives the text that command. -/
theorem parse_eq_ok_iff (text : String) (c : Command) :
    parse text = .ok c ↔ CommandText text.toList c := by
  unfold parse
  constructor
  · intro h
    dsimp only at h
    split at h
    · obtain ⟨m, s, l, hp, hm, hs, hl⟩ :=
        exists_sections_iff.1 (foldlM_readSection_finish_iff.1 h)
      obtain ⟨-, htext, hsep⟩ := splitOn_eq_iff.1 (rfl : text.toList.splitOn ';' = _)
      rw [htext]
      exact .mk hp hsep hm hs hl
    · cases h
  · generalize text.toList = chars
    intro h
    cases h with
    | @mk parts m s l _ hp hsep hm hs hl =>
      have hlen : parts.length = 3 := hp.length_eq
      have hsplit : ([';'].intercalate parts).splitOn ';' = parts :=
        splitOn_eq_iff.2 ⟨List.ne_nil_of_length_eq_add_one hlen, rfl, hsep⟩
      dsimp only
      rw [hsplit, if_pos hlen]
      exact foldlM_readSection_finish_iff.2 (exists_sections_iff.2 ⟨m, s, l, hp, hm, hs, hl⟩)

end Command

end GridRobot
