import GridRobot.Proofs.Command.Acceptance

/-!
# Faults of command text

Command text is judged from left to right and rejected for the first fault. The faults are
described here without the reader, each with the error it is reported as.

* `CoordText`, `FirstMalformed`: integers that are no coordinates;
* `TokenFault`: what can be wrong with a step;
* `SectionBody`, `ContentFault`: what kind of section a text is, by how it begins, and what can be
  wrong with its contents;
* `SectionFault`: what can be wrong with a section that follows others;
* `CommandFault`: what can be wrong with a whole text.

`Command.parse_eq_error_iff` says that the reader rejects a text exactly when it has a fault, with
the error of that fault, and that a section is never reported missing: three sections of which
none is repeated are one of each kind.
-/

namespace GridRobot

/-- Text that stands for a coordinate. -/
def CoordText (text : List Char) : Prop := ∃ c : Coord, Decimal.Numeral text c.val

/-- The error of the first text that stands for no coordinate, of several in the order in which
they are judged. -/
inductive FirstMalformed : List (Field × List Char) → CommandError → Prop
  | here {field : Field} {text : List Char} {rest : List (Field × List Char)} :
      ¬ CoordText text →
      FirstMalformed ((field, text) :: rest) (.invalidInteger field (String.ofList text))
  | later {field : Field} {text : List Char} {rest : List (Field × List Char)}
      {e : CommandError} : CoordText text → FirstMalformed rest e →
      FirstMalformed ((field, text) :: rest) e

/-- A step that cannot be read, with its error. The direction is judged first, then whether the
rest is a coordinate at all, and then whether that is positive. -/
inductive TokenFault : List Char → CommandError → Prop
  | empty : TokenFault [] (.invalidStep "")
  | direction {letter : Char} {rest : List Char} : (∀ d : Direction, d.letter ≠ letter) →
      TokenFault (letter :: rest) (.invalidStep (String.ofList (letter :: rest)))
  | distance {d : Direction} {rest : List Char} : ¬ CoordText rest →
      TokenFault (d.letter :: rest) (.invalidInteger .stepDistance (String.ofList rest))
  | notPositive {d : Direction} {rest : List Char} {n : Coord} : Decimal.Numeral rest n.val →
      n.val ≤ 0 →
      TokenFault (d.letter :: rest) (.nonPositiveDistance (String.ofList (d.letter :: rest)))

/-- The text of a section with its kind, which is known by how the text begins, and with the text
of its contents. -/
inductive SectionBody : List Char → SectionKind → List Char → Prop
  | map {body : List Char} : SectionBody ('M' :: ':' :: body) .map body
  | start {body : List Char} : SectionBody ('S' :: ':' :: body) .start body
  | steps {body : List Char} : SectionBody ('[' :: (body ++ [']'])) .steps body

/-- Contents of a section that cannot be read, with their error. The number of integers is judged
before the integers. Those of the map are judged corner by corner, although the text has them axis
by axis. Of several steps that cannot be read the leftmost is reported. -/
inductive ContentFault : SectionKind → List Char → CommandError → Prop
  | mapFormat {body : List Char} : body.count ',' + 1 ≠ 4 →
      ContentFault .map body (.mapFormat (body.count ',' + 1))
  | mapInteger {minX maxX minY maxY : List Char} {e : CommandError} :
      (∀ field ∈ [minX, maxX, minY, maxY], ',' ∉ field) →
      FirstMalformed [(.minX, minX), (.minY, minY), (.maxX, maxX), (.maxY, maxY)] e →
      ContentFault .map ([','].intercalate [minX, maxX, minY, maxY]) e
  | startFormat {body : List Char} : body.count ',' + 1 ≠ 2 →
      ContentFault .start body (.startFormat (body.count ',' + 1))
  | startInteger {x y : List Char} {e : CommandError} : (∀ field ∈ [x, y], ',' ∉ field) →
      FirstMalformed [(.startX, x), (.startY, y)] e →
      ContentFault .start ([','].intercalate [x, y]) e
  | token {body token : List Char} {before after : List (List Char)} {e : CommandError} :
      body ≠ [] → body = [','].intercalate (before ++ token :: after) →
      (∀ t ∈ before ++ token :: after, ',' ∉ t) → (∀ t ∈ before, ∃ s, StepText t s) →
      TokenFault token e → ContentFault .steps body e

/-- A section that cannot follow sections of some kinds, with its error. A fault of the contents
is reported even if the kind is there already. -/
inductive SectionFault (earlier : List SectionKind) : List Char → CommandError → Prop
  | unknown {text : List Char} : (∀ kind body, ¬ SectionBody text kind body) →
      SectionFault earlier text (.unknownSection (String.ofList text))
  | content {text body : List Char} {kind : SectionKind} {e : CommandError} :
      SectionBody text kind body → ContentFault kind body e → SectionFault earlier text e
  | repeated {text : List Char} {s : Section} : SectionText text s → s.kind ∈ earlier →
      SectionFault earlier text (.duplicateSection s.kind)

/-- Command text that is rejected, with its error: there are not three sections, or the leftmost
section at fault comes after sections that are in order. -/
inductive CommandFault : List Char → CommandError → Prop
  | sectionCount {text : List Char} : text.count ';' ≠ 2 →
      CommandFault text (.sectionCount (text.count ';' + 1))
  | atSection {text : List Char} {before after : List (List Char)} {sections : List Section}
      {e : CommandError} : (before ++ text :: after).length = 3 →
      (∀ part ∈ before ++ text :: after, ';' ∉ part) → List.Forall₂ SectionText before sections →
      (sections.map Section.kind).Nodup → SectionFault (sections.map Section.kind) text e →
      CommandFault ([';'].intercalate (before ++ text :: after)) e

variable {text body : List Char} {e : CommandError}

/-! ### No section is reported missing -/

section Missing

variable {kind missing : SectionKind} {fields : List (Field × List Char)}

theorem FirstMalformed.not_missingSection : ¬ FirstMalformed fields (.missingSection missing) := by
  intro h
  induction fields with
  | nil => cases h
  | cons _ _ ih =>
    cases h with
    | later _ h => exact ih h

theorem ContentFault.not_missingSection : ¬ ContentFault kind body (.missingSection missing) := by
  intro h
  cases h with
  | mapInteger _ h => exact h.not_missingSection
  | startInteger _ h => exact h.not_missingSection
  | token _ _ _ _ h => cases h

theorem CommandFault.not_missingSection : ¬ CommandFault text (.missingSection missing) := by
  intro h
  cases h with
  | atSection _ _ _ _ h =>
    cases h with
    | content _ h => exact h.not_missingSection

end Missing

/-! ### Integers -/

namespace Section

variable {field : Field} {rest : List (Field × List Char)}

theorem readCoord_eq_error (h : ¬ CoordText text) :
    readCoord field text = .error (.invalidInteger field (String.ofList text)) := by
  cases hr : readCoord field text with
  | ok c => exact absurd ⟨c, readCoord_eq_ok_iff.1 hr⟩ h
  | error e =>
    unfold readCoord at hr
    split at hr
    · cases hr
    · exact hr.symm

/-- Reading one more integer in front of others. -/
theorem readCoord_bind_eq_error_iff {α : Type} {next : Coord → Except CommandError α}
    (h : ∀ c, next c = .error e ↔ FirstMalformed rest e) :
    readCoord field text >>= next = .error e ↔ FirstMalformed ((field, text) :: rest) e := by
  by_cases ht : CoordText text
  · obtain ⟨c, hc⟩ := ht
    rw [readCoord_eq_ok_iff.2 hc]
    refine (h c).trans ⟨.later ⟨c, hc⟩, fun hf => ?_⟩
    cases hf with
    | here hn => exact absurd ⟨c, hc⟩ hn
    | later _ hf => exact hf
  · rw [readCoord_eq_error ht]
    constructor
    · intro he
      cases he
      exact .here ht
    · intro hf
      cases hf with
      | here => rfl
      | later hc => exact absurd hc ht

theorem pure_eq_error_iff {α : Type} {a : α} :
    (pure a : Except CommandError α) = .error e ↔ FirstMalformed [] e :=
  ⟨fun h => (nomatch h), fun h => (nomatch h)⟩

/-! ### The contents of a section -/

theorem readMap_of_length_ne (h : (body.splitOn ',').length ≠ 4) :
    readMap body = .error (.mapFormat (body.splitOn ',').length) := by
  unfold readMap
  split
  · next hs => simp [hs] at h
  · rfl

theorem readStart_of_length_ne (h : (body.splitOn ',').length ≠ 2) :
    readStart body = .error (.startFormat (body.splitOn ',').length) := by
  unfold readStart
  split
  · next hs => simp [hs] at h
  · rfl

theorem readMap_intercalate_eq_error_iff {minX maxX minY maxY : List Char}
    (hsep : ∀ field ∈ [minX, maxX, minY, maxY], ',' ∉ field) :
    readMap ([','].intercalate [minX, maxX, minY, maxY]) = .error e ↔
      FirstMalformed [(.minX, minX), (.minY, minY), (.maxX, maxX), (.maxY, maxY)] e := by
  unfold readMap
  rw [splitOn_eq_iff.2 ⟨List.cons_ne_nil _ _, rfl, hsep⟩]
  exact readCoord_bind_eq_error_iff fun _ => readCoord_bind_eq_error_iff fun _ =>
    readCoord_bind_eq_error_iff fun _ => readCoord_bind_eq_error_iff fun _ => pure_eq_error_iff

theorem readStart_intercalate_eq_error_iff {x y : List Char}
    (hsep : ∀ field ∈ [x, y], ',' ∉ field) :
    readStart ([','].intercalate [x, y]) = .error e ↔
      FirstMalformed [(.startX, x), (.startY, y)] e := by
  unfold readStart
  rw [splitOn_eq_iff.2 ⟨List.cons_ne_nil _ _, rfl, hsep⟩]
  exact readCoord_bind_eq_error_iff fun _ => readCoord_bind_eq_error_iff fun _ => pure_eq_error_iff

theorem readMap_eq_error_iff : readMap body = .error e ↔ ContentFault .map body e := by
  constructor
  · intro h
    by_cases hlen : (body.splitOn ',').length = 4
    · obtain ⟨minX, maxX, minY, maxY, hs⟩ := List.length_eq_four.1 hlen
      obtain ⟨-, rfl, hsep⟩ := splitOn_eq_iff.1 hs
      exact .mapInteger hsep ((readMap_intercalate_eq_error_iff hsep).1 h)
    · rw [readMap_of_length_ne hlen] at h
      cases h
      rw [length_splitOn] at hlen ⊢
      exact .mapFormat hlen
  · intro h
    cases h with
    | mapFormat hc =>
      rw [← length_splitOn] at hc ⊢
      exact readMap_of_length_ne hc
    | mapInteger hsep hf => exact (readMap_intercalate_eq_error_iff hsep).2 hf

theorem readStart_eq_error_iff : readStart body = .error e ↔ ContentFault .start body e := by
  constructor
  · intro h
    by_cases hlen : (body.splitOn ',').length = 2
    · obtain ⟨x, y, hs⟩ := List.length_eq_two.1 hlen
      obtain ⟨-, rfl, hsep⟩ := splitOn_eq_iff.1 hs
      exact .startInteger hsep ((readStart_intercalate_eq_error_iff hsep).1 h)
    · rw [readStart_of_length_ne hlen] at h
      cases h
      rw [length_splitOn] at hlen ⊢
      exact .startFormat hlen
  · intro h
    cases h with
    | startFormat hc =>
      rw [← length_splitOn] at hc ⊢
      exact readStart_of_length_ne hc
    | startInteger hsep hf => exact (readStart_intercalate_eq_error_iff hsep).2 hf

/-- Every token is a step or has a fault. -/
theorem stepText_or_tokenFault (text : List Char) :
    (∃ s, StepText text s) ∨ ∃ e, TokenFault text e := by
  cases text with
  | nil => exact .inr ⟨_, .empty⟩
  | cons letter rest =>
    by_cases hd : ∃ d : Direction, d.letter = letter
    · obtain ⟨d, rfl⟩ := hd
      by_cases hc : CoordText rest
      · obtain ⟨n, hn⟩ := hc
        by_cases hpos : 0 < n.val
        · have hupper := n.upper
          let s : Step := ⟨d, n.val.toNat, by omega, by omega⟩
          have hs : (s.distance : Int) = n.val := Int.toNat_of_nonneg (Int.le_of_lt hpos)
          exact .inl ⟨s, .mk (hs ▸ hn) (by omega)⟩
        · exact .inr ⟨_, .notPositive hn (Int.not_lt.1 hpos)⟩
      · exact .inr ⟨_, .distance hc⟩
    · exact .inr ⟨_, .direction fun d hl => hd ⟨d, hl⟩⟩

theorem readStep_of_tokenFault (h : TokenFault text e) : readStep text = .error e := by
  cases h with
  | empty => rfl
  | @direction letter rest hl =>
    have hd : Direction.ofLetter? letter = none :=
      Option.eq_none_iff_forall_ne_some.2 fun d hd => hl d (Direction.ofLetter?_eq_some_iff.1 hd)
    simp [readStep, hd]
  | distance hc => simp [readStep, readCoord_eq_error hc]
  | @notPositive d rest n hn hle =>
    have hs : Step.ofDistance? d n.val.toNat = none := by
      rw [Int.toNat_of_nonpos hle]
      rfl
    simp [readStep, readCoord_eq_ok_iff.2 hn, hs]

theorem readStep_eq_error_iff : readStep text = .error e ↔ TokenFault text e := by
  refine ⟨fun h => ?_, readStep_of_tokenFault⟩
  rcases stepText_or_tokenFault text with ⟨s, hs⟩ | ⟨e', he'⟩
  · rw [readStep_eq_ok_iff.2 hs] at h
    cases h
  · rw [readStep_of_tokenFault he'] at h
    cases h
    exact he'

theorem readSteps_eq_error_iff : readSteps body = .error e ↔ ContentFault .steps body e := by
  have hread : (body.splitOn ',').mapM readStep = .error e ↔
      ∃ before token after, body.splitOn ',' = before ++ token :: after ∧
        (∀ t ∈ before, ∃ s, StepText t s) ∧ TokenFault token e := by
    simp only [mapM_eq_error_iff, readStep_eq_ok_iff, readStep_eq_error_iff]
  unfold readSteps
  split
  · next hb =>
    refine ⟨fun h => (nomatch h), fun h => ?_⟩
    cases h with
    | token hne => exact absurd hb hne
  · next hb =>
    rw [hread]
    constructor
    · rintro ⟨before, token, after, hs, hbefore, ht⟩
      obtain ⟨-, hbody, hsep⟩ := splitOn_eq_iff.1 hs
      exact .token hb hbody hsep hbefore ht
    · intro h
      cases h with
      | @token _ token before after _ _ hbody hsep hbefore ht =>
        have hne : before ++ token :: after ≠ [] := by simp
        exact ⟨before, token, after, splitOn_eq_iff.2 ⟨hne, hbody, hsep⟩, hbefore, ht⟩

/-! ### Whole sections -/

theorem read_eq_error_iff_of_body {kind : SectionKind} (h : SectionBody text kind body) :
    read text = .error e ↔ ContentFault kind body e := by
  cases h with
  | map => exact map_eq_error_iff.trans readMap_eq_error_iff
  | start => exact map_eq_error_iff.trans readStart_eq_error_iff
  | steps =>
    rw [read_brackets]
    exact map_eq_error_iff.trans readSteps_eq_error_iff

theorem read_of_unknown (h : ∀ kind body, ¬ SectionBody text kind body) :
    read text = .error (.unknownSection (String.ofList text)) := by
  unfold read
  split
  · next body hp => exact absurd (List.append_eq_of_isPrefixOf?_eq_some hp ▸ .map) (h .map body)
  · split
    · next body hp =>
      exact absurd (List.append_eq_of_isPrefixOf?_eq_some hp ▸ .start) (h .start body)
    · split
      · next body hb => exact absurd (stripBrackets?_eq_some_iff.1 hb ▸ .steps) (h .steps body)
      · rfl

end Section

/-! ### Sections after sections -/

namespace Draft

variable {d : Draft} {s : Section}

theorem add_eq_error_iff :
    d.add s = .error e ↔ s.kind ∈ d.entries.map Section.kind ∧ e = .duplicateSection s.kind := by
  by_cases hs : s.kind ∈ d.entries.map Section.kind
  · rw [add_eq_error hs, Except.error.injEq]
    exact ⟨fun h => ⟨hs, h.symm⟩, fun h => h.2.symm⟩
  · obtain ⟨d', hd, -⟩ := exists_add_eq_ok hs
    simp [hd, hs]

theorem readSection_eq_error_iff :
    d.readSection text = .error e ↔ SectionFault (d.entries.map Section.kind) text e := by
  have hbind : d.readSection text = .error e ↔
      Section.read text = .error e ∨ ∃ s, Section.read text = .ok s ∧ d.add s = .error e :=
    bind_eq_error_iff
  simp only [hbind, Section.read_eq_ok_iff, add_eq_error_iff]
  constructor
  · rintro (h | ⟨s, hs, hkind, rfl⟩)
    · by_cases hbody : ∃ kind body, SectionBody text kind body
      · obtain ⟨kind, body, hb⟩ := hbody
        exact .content hb ((Section.read_eq_error_iff_of_body hb).1 h)
      · have hu : ∀ kind body, ¬ SectionBody text kind body := fun kind body hb =>
          hbody ⟨kind, body, hb⟩
        rw [Section.read_of_unknown hu] at h
        cases h
        exact .unknown hu
    · exact .repeated hs hkind
  · intro h
    cases h with
    | unknown hu => exact .inl (Section.read_of_unknown hu)
    | content hb hc => exact .inl ((Section.read_eq_error_iff_of_body hb).2 hc)
    | repeated hs hkind => exact .inr ⟨_, hs, hkind, rfl⟩

/-- Sections of different kinds fill a draft. -/
theorem exists_entries_perm {sections : List Section} (h : (sections.map Section.kind).Nodup) :
    ∃ d : Draft, d.entries.Perm sections := by
  induction sections with
  | nil => exact ⟨{}, List.Perm.refl _⟩
  | cons s sections ih =>
    rw [List.map_cons, List.nodup_cons] at h
    obtain ⟨d, hd⟩ := ih h.2
    have hs : s.kind ∉ d.entries.map Section.kind := fun hs => h.1 ((hd.map _).mem_iff.1 hs)
    obtain ⟨d', -, hd'⟩ := exists_add_eq_ok hs
    exact ⟨d', hd'.trans (hd.cons s)⟩

/-- A draft of three sections is complete, because they are of different kinds. -/
theorem exists_finish_eq_ok (h : d.entries.length = 3) : ∃ c, d.finish = .ok c := by
  obtain ⟨bounds, start, steps⟩ := d
  cases bounds <;> cases start <;> cases steps <;> simp [entries, finish] at h ⊢

end Draft

/-! ### Whole texts -/

theorem SectionFault.congr {earlier earlier' : List SectionKind}
    (h : ∀ kind, kind ∈ earlier ↔ kind ∈ earlier') (hf : SectionFault earlier text e) :
    SectionFault earlier' text e := by
  cases hf with
  | unknown hu => exact .unknown hu
  | content hb hc => exact .content hb hc
  | repeated hs hkind => exact .repeated hs ((h _).1 hkind)

/-- The first section that is refused is the leftmost one at fault. -/
theorem Draft.foldlM_readSection_eq_error_iff {parts : List (List Char)} :
    parts.foldlM Draft.readSection {} = .error e ↔
      ∃ before text after sections, parts = before ++ text :: after ∧
        List.Forall₂ SectionText before sections ∧ (sections.map Section.kind).Nodup ∧
        SectionFault (sections.map Section.kind) text e := by
  rw [foldlM_eq_error_iff]
  constructor
  · rintro ⟨before, text, after, d, rfl, hd, hf⟩
    obtain ⟨sections, hsections, hp⟩ := foldlM_readSection_eq_ok_iff.1 hd
    rw [entries_empty, List.append_nil] at hp
    have hkinds := hp.map Section.kind
    refine ⟨before, text, after, sections, rfl, hsections, ?_, ?_⟩
    · exact hkinds.nodup_iff.1 d.nodup_kind_entries
    · exact (readSection_eq_error_iff.1 hf).congr fun _ => hkinds.mem_iff
  · rintro ⟨before, text, after, sections, rfl, hsections, hn, hf⟩
    obtain ⟨d, hp⟩ := exists_entries_perm hn
    have hkinds := hp.map Section.kind
    refine ⟨before, text, after, d, rfl, foldlM_readSection_eq_ok_iff.2 ⟨sections, hsections, ?_⟩,
      readSection_eq_error_iff.2 (hf.congr fun _ => hkinds.mem_iff.symm)⟩
    rwa [entries_empty, List.append_nil]

namespace Command

theorem parse_of_length_eq {text : String} (h : (text.toList.splitOn ';').length = 3) :
    parse text = ((text.toList.splitOn ';').foldlM Draft.readSection {}).bind Draft.finish :=
  if_pos h

theorem parse_of_length_ne {text : String} (h : (text.toList.splitOn ';').length ≠ 3) :
    parse text = .error (.sectionCount (text.toList.splitOn ';').length) :=
  if_neg h

/-- When there are three sections only one of them can be at fault: they are never too few. -/
theorem parse_eq_error_iff_foldlM {text : String} (h : (text.toList.splitOn ';').length = 3) :
    parse text = .error e ↔
      (text.toList.splitOn ';').foldlM Draft.readSection {} = .error e := by
  have hbind : parse text = .error e ↔
      (text.toList.splitOn ';').foldlM Draft.readSection {} = .error e ∨
        ∃ d, (text.toList.splitOn ';').foldlM Draft.readSection {} = .ok d ∧
          d.finish = .error e := by
    rw [parse_of_length_eq h]
    exact bind_eq_error_iff
  rw [hbind, or_iff_left]
  rintro ⟨d, hd, hf⟩
  obtain ⟨sections, hsections, hp⟩ := Draft.foldlM_readSection_eq_ok_iff.1 hd
  rw [Draft.entries_empty, List.append_nil] at hp
  have hlen : d.entries.length = 3 := by rw [hp.length_eq, ← hsections.length_eq, h]
  obtain ⟨c, hc⟩ := Draft.exists_finish_eq_ok hlen
  rw [hc] at hf
  cases hf

theorem commandFault_of_parse {text : String} (h : parse text = .error e) :
    CommandFault text.toList e := by
  by_cases hlen : (text.toList.splitOn ';').length = 3
  · rw [parse_eq_error_iff_foldlM hlen, Draft.foldlM_readSection_eq_error_iff] at h
    obtain ⟨before, part, after, sections, hs, hsections, hn, hf⟩ := h
    obtain ⟨-, htext, hsep⟩ := splitOn_eq_iff.1 hs
    rw [htext]
    exact .atSection (hs ▸ hlen) hsep hsections hn hf
  · rw [parse_of_length_ne hlen] at h
    cases h
    rw [length_splitOn] at hlen ⊢
    exact .sectionCount fun hc => hlen (by rw [hc])

theorem parse_of_commandFault {text : String} (h : CommandFault text.toList e) :
    parse text = .error e := by
  generalize hchars : text.toList = chars at h
  cases h with
  | sectionCount hc =>
    have hlen : (text.toList.splitOn ';').length = chars.count ';' + 1 := by
      rw [hchars, length_splitOn]
    rw [← hlen]
    exact parse_of_length_ne (by omega)
  | @atSection part before after sections _ hlen hsep hsections hn hf =>
    have hs : text.toList.splitOn ';' = before ++ part :: after :=
      splitOn_eq_iff.2 ⟨by simp, hchars, hsep⟩
    rw [parse_eq_error_iff_foldlM (hs ▸ hlen), hs]
    exact Draft.foldlM_readSection_eq_error_iff.2
      ⟨before, part, after, sections, rfl, hsections, hn, hf⟩

/-- **Rejection.** The reader rejects a text with an error exactly when the text has the fault
that the error reports, which is the first one, and no section is ever reported missing. -/
theorem parse_eq_error_iff (text : String) :
    (∀ e, parse text = .error e ↔ CommandFault text.toList e) ∧
      ∀ kind, parse text ≠ .error (.missingSection kind) :=
  ⟨fun _ => ⟨commandFault_of_parse, parse_of_commandFault⟩,
    fun _ h => (commandFault_of_parse h).not_missingSection⟩

-- The `y` of the lower corner is judged before the `x` of the upper one, which precedes it.
example : parse "M:0,a,b,5;S:1,1;[]" = .error (.invalidInteger .minY "b") := by decide

-- A map that is repeated and has a fault of its own is reported for that fault.
example : parse "M:0,5,0,5;M:1,2,3;A" = .error (.mapFormat 3) := by decide

end Command

end GridRobot
