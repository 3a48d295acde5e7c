import Mathlib.Data.List.Forall2

/-!
# Text in fields

Text that is a list of fields with a separator between them, and readers that read one field
after the other and stop at the first fault.

* `splitOn_eq_iff`: splitting a text at a separator gives the only fields without the separator
  that make up the text, so that joined texts tell the values (`intercalate_map_inj`);
* `length_splitOn`: how many fields there are;
* `bind_eq_ok_iff`, `map_eq_ok_iff`, `mapM_eq_ok_iff`: when a reader made of several readers
  succeeds;
* `bind_eq_error_iff`, `map_eq_error_iff`, `mapM_eq_error_iff`, `foldlM_eq_error_iff`: when it
  fails, and that the first failure is the one that is reported;
* `exists_eq_error_iff`: a reader fails when it does not succeed with any value.
-/

namespace GridRobot

section Split

variable {α : Type} [BEq α] [LawfulBEq α] {x : α} {text field : List α} {fields : List (List α)}

theorem not_mem_of_mem_splitOn (h : field ∈ text.splitOn x) : x ∉ field := by
  induction text generalizing field with
  | nil => simp_all
  | cons a text ih =>
    rw [List.splitOn_cons_eq_if_modifyHead] at h
    split at h
    · rcases List.mem_cons.1 h with rfl | h
      · exact List.not_mem_nil
      · exact ih h
    · next ha =>
      obtain ⟨f, fs, hfs⟩ := List.exists_cons_of_ne_nil (List.splitOn_ne_nil x text)
      rw [hfs] at h ih
      rw [List.modifyHead_cons] at h
      rcases List.mem_cons.1 h with rfl | h
      · rw [List.mem_cons]
        rintro (rfl | hx)
        · exact ha (beq_self_eq_true _)
        · exact ih List.mem_cons_self hx
      · exact ih (List.mem_cons_of_mem f h)

theorem splitOn_eq_iff :
    text.splitOn x = fields ↔
      fields ≠ [] ∧ text = [x].intercalate fields ∧ ∀ f ∈ fields, x ∉ f := by
  constructor
  · rintro rfl
    exact ⟨List.splitOn_ne_nil x text, (List.intercalate_splitOn x).symm,
      fun f hf => not_mem_of_mem_splitOn hf⟩
  · rintro ⟨hne, rfl, hx⟩
    exact List.splitOn_intercalate x hx hne

/-- Values are found again in their texts if these are joined by a character that they do not
have. -/
theorem intercalate_map_inj {β : Type} {code : β → List α} (hcode : Function.Injective code)
    (hx : ∀ b, x ∉ code b) {bs bs' : List β} (hne : bs ≠ []) (hne' : bs' ≠ []) :
    [x].intercalate (bs.map code) = [x].intercalate (bs'.map code) ↔ bs = bs' := by
  have hsplit : ∀ {bs : List β}, bs ≠ [] →
      ([x].intercalate (bs.map code)).splitOn x = bs.map code := by
    intro bs hne
    exact splitOn_eq_iff.2 ⟨by simpa using hne, rfl, by simpa using fun b _ => hx b⟩
  constructor
  · intro h
    apply List.map_injective_iff.2 hcode
    rw [← hsplit hne, ← hsplit hne', h]
  · rintro rfl
    rfl

/-- What stands before the first separator, and what stands after it. -/
theorem append_cons_inj {a a' b b' : List α} (h : x ∉ a) (h' : x ∉ a') :
    a ++ x :: b = a' ++ x :: b' ↔ a = a' ∧ b = b' := by
  constructor
  · intro heq
    have hs := congrArg (List.splitOn x) heq
    rw [List.splitOn_append_cons_self_of_not_mem h,
      List.splitOn_append_cons_self_of_not_mem h', List.cons.injEq] at hs
    obtain rfl := hs.1
    exact ⟨rfl, by simpa using heq⟩
  · rintro ⟨rfl, rfl⟩
    rfl

omit [BEq α] [LawfulBEq α] in
theorem not_mem_intercalate {sep : List α} (hsep : x ∉ sep) (h : ∀ f ∈ fields, x ∉ f) :
    x ∉ sep.intercalate fields := by
  induction fields with
  | nil => simp
  | cons f fields ih =>
    rw [List.forall_mem_cons] at h
    cases fields with
    | nil => simpa using h.1
    | cons f' fields =>
      rw [List.intercalate_cons_cons, List.mem_append, List.mem_append]
      rintro ((hf | hs) | hx)
      · exact h.1 hf
      · exact hsep hs
      · exact ih h.2 hx

omit [LawfulBEq α] in
/-- One more field than separators. -/
theorem length_splitOn : (text.splitOn x).length = text.count x + 1 := by
  induction text with
  | nil => simp
  | cons a text ih =>
    rw [List.splitOn_cons_eq_if_modifyHead, List.count_cons]
    split
    · rw [List.length_cons, ih]
    · rw [List.length_modifyHead, ih, Nat.add_zero]

end Split

section Readers

variable {ε α β : Type}

theorem bind_eq_ok_iff {r : Except ε α} {f : α → Except ε β} {b : β} :
    r >>= f = .ok b ↔ ∃ a, r = .ok a ∧ f a = .ok b := by
  cases r <;> simp [bind, Except.bind]

theorem map_eq_ok_iff {r : Except ε α} {f : α → β} {b : β} :
    f <$> r = .ok b ↔ ∃ a, r = .ok a ∧ f a = b := by
  cases r <;> simp [Functor.map, Except.map]

/-- Reading field after field succeeds when every field is read. -/
theorem mapM_eq_ok_iff {read : α → Except ε β} {fields : List α} {values : List β} :
    fields.mapM read = .ok values ↔ List.Forall₂ (fun a b => read a = .ok b) fields values := by
  induction fields generalizing values with
  | nil =>
    rw [List.mapM_nil, List.forall₂_nil_left_iff]
    exact ⟨fun h => by cases h; rfl, fun h => h ▸ rfl⟩
  | cons a fields ih =>
    rw [List.mapM_cons, List.forall₂_cons_left_iff, bind_eq_ok_iff]
    constructor
    · rintro ⟨b, hb, h⟩
      obtain ⟨bs, hbs, h⟩ := bind_eq_ok_iff.1 h
      cases h
      exact ⟨b, bs, hb, ih.1 hbs, rfl⟩
    · rintro ⟨b, bs, hb, hbs, rfl⟩
      exact ⟨b, hb, bind_eq_ok_iff.2 ⟨bs, ih.2 hbs, rfl⟩⟩

/-! ### The first failure -/

variable {e : ε}

theorem bind_eq_error_iff {r : Except ε α} {f : α → Except ε β} :
    r >>= f = .error e ↔ r = .error e ∨ ∃ a, r = .ok a ∧ f a = .error e := by
  cases r <;> simp [bind, Except.bind]

theorem map_eq_error_iff {r : Except ε α} {f : α → β} : f <$> r = .error e ↔ r = .error e := by
  cases r <;> simp [Functor.map, Except.map]

/-- What is not accepted is rejected. -/
theorem exists_eq_error_iff {r : Except ε α} : (∃ e, r = .error e) ↔ ∀ a, r ≠ .ok a := by
  cases r <;> simp

/-- Taking up field after field fails at the first field that is refused after those before it
have been taken up. -/
theorem foldlM_eq_error_iff {step : β → α → Except ε β} {fields : List α} {b : β} :
    fields.foldlM step b = .error e ↔ ∃ before a after b', fields = before ++ a :: after ∧
      before.foldlM step b = .ok b' ∧ step b' a = .error e := by
  constructor
  · induction fields generalizing b with
    | nil => exact fun h => nomatch h
    | cons a fields ih =>
      rw [List.foldlM_cons, bind_eq_error_iff]
      rintro (h | ⟨b₁, h₁, h⟩)
      · exact ⟨[], a, fields, b, rfl, rfl, h⟩
      · obtain ⟨before, a', after, b', rfl, hb, h⟩ := ih h
        exact ⟨a :: before, a', after, b', rfl, bind_eq_ok_iff.2 ⟨b₁, h₁, hb⟩, h⟩
  · rintro ⟨before, a, after, b', rfl, hb, h⟩
    rw [List.foldlM_append, hb]
    refine bind_eq_error_iff.2 (.inr ⟨b', rfl, ?_⟩)
    rw [List.foldlM_cons]
    exact bind_eq_error_iff.2 (.inl h)

/-- Reading field after field fails at the first field that cannot be read. -/
theorem mapM_eq_error_iff {read : α → Except ε β} {fields : List α} :
    fields.mapM read = .error e ↔ ∃ before a after, fields = before ++ a :: after ∧
      (∀ f ∈ before, ∃ b, read f = .ok b) ∧ read a = .error e := by
  induction fields with
  | nil =>
    rw [List.mapM_nil]
    refine ⟨fun h => (nomatch h), ?_⟩
    rintro ⟨before, a, after, h, -⟩
    simp at h
  | cons f fields ih =>
    rw [List.mapM_cons, bind_eq_error_iff]
    constructor
    · rintro (h | ⟨b, hb, h⟩)
      · exact ⟨[], f, fields, rfl, by simp, h⟩
      · obtain h | ⟨bs, -, h⟩ := bind_eq_error_iff.1 h
        · obtain ⟨before, a, after, rfl, hbefore, h⟩ := ih.1 h
          exact ⟨f :: before, a, after, rfl, by simpa using ⟨⟨b, hb⟩, hbefore⟩, h⟩
        · cases h
    · rintro ⟨before, a, after, hfields, hbefore, h⟩
      cases before with
      | nil =>
        cases hfields
        exact .inl h
      | cons f' before =>
        cases hfields
        obtain ⟨b, hb⟩ := hbefore f List.mem_cons_self
        have hrest : ∀ f' ∈ before, ∃ b, read f' = .ok b := fun f' hf' =>
          hbefore f' (List.mem_cons_of_mem f hf')
        exact .inr ⟨b, hb, bind_eq_error_iff.2 (.inl (ih.2 ⟨before, a, after, rfl, hrest, h⟩))⟩

end Readers

end GridRobot
