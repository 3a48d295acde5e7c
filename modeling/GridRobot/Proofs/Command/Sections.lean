import GridRobot.Command.Section
import GridRobot.Proofs.Text.Fields
import GridRobot.Proofs.Text.Numerals

/-!
# The grammar of a section

What each of the three sections of command text may look like, with its contents.

* `StepText`: a direction letter and a numeral;
* `SectionText`: a whole section.

`Section.read_eq_ok_iff` says that the reader of sections accepts exactly this grammar, with the
right contents.
-/

namespace GridRobot

/-- A step in text. Its distance is read as a coordinate, so it is at most the greatest one. -/
inductive StepText : List Char → Step → Prop
  | mk {digits : List Char} {s : Step} : Decimal.Numeral digits s.distance →
      s.distance ≤ 2147483647 → StepText (s.direction.letter :: digits) s

/-- The text of a section with its contents. The least and greatest `x` of the map come before
its least and greatest `y`. -/
inductive SectionText : List Char → Section → Prop
  | map {a b d e : List Char} {min max : Position} :
      Decimal.Numeral a min.x.val → Decimal.Numeral b max.x.val →
      Decimal.Numeral d min.y.val → Decimal.Numeral e max.y.val →
      SectionText ('M' :: ':' :: [','].intercalate [a, b, d, e]) (.map ⟨min, max⟩)
  | start {x y : List Char} {p : Position} :
      Decimal.Numeral x p.x.val → Decimal.Numeral y p.y.val →
      SectionText ('S' :: ':' :: [','].intercalate [x, y]) (.start p)
  | noSteps : SectionText ['[', ']'] (.steps [])
  | steps {tokens : List (List Char)} {steps : List Step} :
      tokens ≠ [] → List.Forall₂ StepText tokens steps →
      SectionText ('[' :: ([','].intercalate tokens ++ [']'])) (.steps steps)

variable {text body : List Char}

theorem Decimal.Numeral.comma_not_mem {z : Int} (h : Decimal.Numeral text z) : ',' ∉ text :=
  h.not_mem (by decide) (by decide) (by decide)

theorem StepText.comma_not_mem {s : Step} (h : StepText text s) : ',' ∉ text := by
  obtain ⟨hn, -⟩ := h
  rw [List.mem_cons]
  rintro (h | h)
  · cases hd : s.direction <;> simp [hd, Direction.letter] at h
  · exact hn.comma_not_mem h

theorem StepText.forall_comma_not_mem {tokens : List (List Char)} {steps : List Step}
    (h : List.Forall₂ StepText tokens steps) : ∀ token ∈ tokens, ',' ∉ token :=
  ((List.forall₂_and_left tokens steps).1 (h.imp fun _ _ ht => ⟨ht.comma_not_mem, ht⟩)).1

namespace Section

variable {s : Section}

/-! ### Integers and steps -/

theorem readCoord_eq_ok_iff {field : Field} {c : Coord} :
    readCoord field text = .ok c ↔ Decimal.Numeral text c.val := by
  have h : (Decimal.toInt? text).bind Coord.ofInt? = some c ↔ Decimal.Numeral text c.val := by
    rw [Option.bind_eq_some_iff]
    constructor
    · rintro ⟨z, hz, hc⟩
      rw [Coord.ofInt?_eq_some_iff.1 hc]
      exact Decimal.toInt?_eq_some_iff.1 hz
    · intro hc
      exact ⟨c.val, Decimal.toInt?_eq_some_iff.2 hc, Coord.ofInt?_val c⟩
  rw [← h]
  unfold readCoord
  split
  · next hc => rw [hc, Except.ok.injEq, Option.some.injEq]
  · next hc => rw [hc]; simp

theorem readStep_eq_ok_iff {s : Step} : readStep text = .ok s ↔ StepText text s := by
  constructor
  · intro h
    unfold readStep at h
    split at h
    · cases h
    · split at h
      · cases h
      · next hd =>
        split at h
        · cases h
        · next distance hc =>
          split at h
          · next hs =>
            cases h
            obtain ⟨rfl, hn⟩ := Step.ofDistance?_eq_some_iff.1 hs
            rw [Direction.ofLetter?_eq_some_iff] at hd
            subst hd
            -- A leg has a positive distance, so the integer before it is not negative.
            have hval : distance.val = s.distance := by have := s.pos; omega
            have hle := distance.upper
            refine .mk ?_ (by omega)
            rw [← hval]
            exact readCoord_eq_ok_iff.1 hc
          · cases h
  · rintro ⟨hn, hle⟩
    let distance : Coord := ⟨s.distance, by omega, by omega⟩
    have hc : ∀ field, readCoord field _ = .ok distance := fun field =>
      readCoord_eq_ok_iff.2 hn
    have hs : Step.ofDistance? s.direction distance.val.toNat = some s :=
      Step.ofDistance?_eq_some_iff.2 ⟨rfl, rfl⟩
    simp [readStep, hc, hs]

/-! ### The contents of a section -/

theorem readMap_eq_ok_iff {min max : Position} :
    readMap body = .ok ⟨min, max⟩ ↔ ∃ a b d e, body = [','].intercalate [a, b, d, e] ∧
      Decimal.Numeral a min.x.val ∧ Decimal.Numeral b max.x.val ∧
      Decimal.Numeral d min.y.val ∧ Decimal.Numeral e max.y.val := by
  constructor
  · intro h
    unfold readMap at h
    split at h
    · next a b d e hs =>
      obtain ⟨x₀, hx₀, h⟩ := bind_eq_ok_iff.1 h
      obtain ⟨y₀, hy₀, h⟩ := bind_eq_ok_iff.1 h
      obtain ⟨x₁, hx₁, h⟩ := bind_eq_ok_iff.1 h
      obtain ⟨y₁, hy₁, h⟩ := bind_eq_ok_iff.1 h
      cases h
      exact ⟨a, b, d, e, (splitOn_eq_iff.1 hs).2.1, readCoord_eq_ok_iff.1 hx₀,
        readCoord_eq_ok_iff.1 hx₁, readCoord_eq_ok_iff.1 hy₀, readCoord_eq_ok_iff.1 hy₁⟩
    · cases h
  · rintro ⟨a, b, d, e, rfl, ha, hb, hd, he⟩
    have hs : ([','].intercalate [a, b, d, e]).splitOn ',' = [a, b, d, e] := by
      refine splitOn_eq_iff.2 ⟨List.cons_ne_nil _ _, rfl, ?_⟩
      simp [ha.comma_not_mem, hb.comma_not_mem, hd.comma_not_mem, he.comma_not_mem]
    unfold readMap
    rw [hs]
    refine bind_eq_ok_iff.2 ⟨_, readCoord_eq_ok_iff.2 ha, ?_⟩
    refine bind_eq_ok_iff.2 ⟨_, readCoord_eq_ok_iff.2 hd, ?_⟩
    refine bind_eq_ok_iff.2 ⟨_, readCoord_eq_ok_iff.2 hb, ?_⟩
    exact bind_eq_ok_iff.2 ⟨_, readCoord_eq_ok_iff.2 he, rfl⟩

theorem readStart_eq_ok_iff {p : Position} :
    readStart body = .ok p ↔ ∃ x y, body = [','].intercalate [x, y] ∧
      Decimal.Numeral x p.x.val ∧ Decimal.Numeral y p.y.val := by
  constructor
  · intro h
    unfold readStart at h
    split at h
    · next x y hs =>
      obtain ⟨x', hx, h⟩ := bind_eq_ok_iff.1 h
      obtain ⟨y', hy, h⟩ := bind_eq_ok_iff.1 h
      cases h
      exact ⟨x, y, (splitOn_eq_iff.1 hs).2.1, readCoord_eq_ok_iff.1 hx, readCoord_eq_ok_iff.1 hy⟩
    · cases h
  · rintro ⟨x, y, rfl, hx, hy⟩
    have hs : ([','].intercalate [x, y]).splitOn ',' = [x, y] := by
      refine splitOn_eq_iff.2 ⟨List.cons_ne_nil _ _, rfl, ?_⟩
      simp [hx.comma_not_mem, hy.comma_not_mem]
    unfold readStart
    rw [hs]
    refine bind_eq_ok_iff.2 ⟨_, readCoord_eq_ok_iff.2 hx, ?_⟩
    exact bind_eq_ok_iff.2 ⟨_, readCoord_eq_ok_iff.2 hy, rfl⟩

/-- Nothing at all stands for no steps; otherwise every field is a step. -/
theorem readSteps_eq_ok_iff {steps : List Step} :
    readSteps body = .ok steps ↔ body = [] ∧ steps = [] ∨
      ∃ tokens, tokens ≠ [] ∧ body = [','].intercalate tokens ∧
        List.Forall₂ StepText tokens steps := by
  have hread : (body.splitOn ',').mapM readStep = .ok steps ↔
      List.Forall₂ StepText (body.splitOn ',') steps := by
    simp only [mapM_eq_ok_iff, readStep_eq_ok_iff]
  unfold readSteps
  split
  · next hb =>
    subst hb
    constructor
    · intro h
      cases h
      exact .inl ⟨rfl, rfl⟩
    · rintro (⟨-, rfl⟩ | ⟨tokens, hne, hb, ht⟩)
      · rfl
      · -- One empty field is the only way to join fields to nothing, and it is no step.
        have hs := splitOn_eq_iff.2 ⟨hne, hb, StepText.forall_comma_not_mem ht⟩
        rw [List.splitOn_nil] at hs
        subst hs
        cases ht with
        | cons h => cases h
  · next hb =>
    rw [hread]
    constructor
    · intro h
      obtain ⟨hne, hbody, -⟩ := splitOn_eq_iff.1 (rfl : body.splitOn ',' = _)
      exact .inr ⟨_, hne, hbody, h⟩
    · rintro (⟨h, -⟩ | ⟨tokens, hne, hbody, ht⟩)
      · exact absurd h hb
      · rwa [splitOn_eq_iff.2 ⟨hne, hbody, StepText.forall_comma_not_mem ht⟩]

theorem stripBrackets?_eq_some_iff :
    stripBrackets? text = some body ↔ text = '[' :: (body ++ [']']) := by
  constructor
  · intro h
    unfold stripBrackets? at h
    split at h
    · next rest =>
      split at h
      · next hl =>
        obtain ⟨body', rfl⟩ := List.getLast?_eq_some_iff.1 hl
        cases h
        rw [List.dropLast_concat]
      · cases h
    · cases h
  · rintro rfl
    simp [stripBrackets?]

/-! ### Whole sections -/

theorem sectionText_of_read (h : read text = .ok s) : SectionText text s := by
  unfold read at h
  split at h
  · next body hp =>
    obtain rfl := List.append_eq_of_isPrefixOf?_eq_some hp
    obtain ⟨⟨min, max⟩, hm, rfl⟩ := map_eq_ok_iff.1 h
    obtain ⟨a, b, d, e, rfl, ha, hb, hd, he⟩ := readMap_eq_ok_iff.1 hm
    exact .map ha hb hd he
  · split at h
    · next body hp =>
      obtain rfl := List.append_eq_of_isPrefixOf?_eq_some hp
      obtain ⟨p, hs, rfl⟩ := map_eq_ok_iff.1 h
      obtain ⟨x, y, rfl, hx, hy⟩ := readStart_eq_ok_iff.1 hs
      exact .start hx hy
    · split at h
      · next body hb =>
        obtain rfl := stripBrackets?_eq_some_iff.1 hb
        obtain ⟨steps, hs, rfl⟩ := map_eq_ok_iff.1 h
        rcases readSteps_eq_ok_iff.1 hs with ⟨rfl, rfl⟩ | ⟨tokens, hne, rfl, ht⟩
        · exact .noSteps
        · exact .steps hne ht
      · cases h

theorem read_brackets (body : List Char) :
    read ('[' :: (body ++ [']'])) = steps <$> readSteps body := by
  have hb : stripBrackets? ('[' :: (body ++ [']'])) = some body :=
    stripBrackets?_eq_some_iff.2 rfl
  unfold read
  rw [hb]
  rfl

theorem read_of_sectionText (h : SectionText text s) : read text = .ok s := by
  cases h with
  | map ha hb hd he =>
    have hm := readMap_eq_ok_iff.2 ⟨_, _, _, _, rfl, ha, hb, hd, he⟩
    exact map_eq_ok_iff.2 ⟨_, hm, rfl⟩
  | start hx hy =>
    have hs := readStart_eq_ok_iff.2 ⟨_, _, rfl, hx, hy⟩
    exact map_eq_ok_iff.2 ⟨_, hs, rfl⟩
  | noSteps => rfl
  | @steps tokens steps hne ht =>
    have hs := readSteps_eq_ok_iff.2 (.inr ⟨tokens, hne, rfl, ht⟩)
    rw [read_brackets, hs]
    rfl

/-- The reader of sections accepts a text exactly when it is a section of the grammar, with the
contents that the grammar gives it. -/
theorem read_eq_ok_iff : read text = .ok s ↔ SectionText text s :=
  ⟨sectionText_of_read, read_of_sectionText⟩

end Section

end GridRobot
