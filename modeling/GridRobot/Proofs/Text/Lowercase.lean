import GridRobot.Text.Lowercase
import Mathlib.Data.List.Forall2

/-!
# Words in lower case

A text can be compared with a word in lower case by way of its own lower-case form. When is that
the same as to compare them up to the case of ASCII letters? Characters beyond ASCII may have
ASCII letters in their lower-case forms, but only `i` and `k`.

* `lowerChar_of_ascii`, `lowerChar_beyond_ascii`: the lower-case form of a character;
* `LowerForm`: the lower-case forms of a text, in which a capital sigma may become a final one;
* `IsPlain`, `IsPlainWord`: the characters, and the words, that only come from ASCII;
* `CaseVariant`: a word with some of its letters in upper case; `CaseVariant.lowercase_eq`.

`LowerForm.eq_iff_caseVariant` says that a text has a lower-case form that is equal to a plain word
exactly if it is a variant of that word.
-/

namespace GridRobot

/-! ### Characters -/

/-- The run leads from its characters to characters beyond ASCII. -/
def CaseRun.StaysBeyondAscii (r : CaseRun) : Prop :=
  0x80 ≤ r.first + r.shift ∧ r.last + r.shift < 0xd800 ∨
    0xe000 ≤ r.first + r.shift ∧ r.last + r.shift < 0x110000

instance (r : CaseRun) : Decidable r.StaysBeyondAscii := inferInstanceAs (Decidable (_ ∨ _))

set_option maxRecDepth 4000 in
/-- All runs stay beyond ASCII but that of the Kelvin sign, whose lower-case form is `k`. -/
theorem caseRuns_spec : ∀ r ∈ caseRuns,
    r.StaysBeyondAscii ∨ r.first = 0x212a ∧ r.last = 0x212a ∧ r.shift = -8383 := by
  decide

theorem CaseRun.le_of_holds {r : CaseRun} {n : Nat} (h : r.holds n = true) :
    r.first ≤ n ∧ n ≤ r.last := by
  unfold holds at h
  simp only [Bool.and_eq_true, decide_eq_true_eq] at h
  exact h.1

theorem CaseRun.StaysBeyondAscii.le_toNat {r : CaseRun} (h : r.StaysBeyondAscii) {n : Nat}
    (hn : r.holds n = true) : 0x80 ≤ (Char.ofNat (n + r.shift).toNat).toNat := by
  obtain ⟨hfirst, hlast⟩ := r.le_of_holds hn
  unfold StaysBeyondAscii at h
  have hvalid : (n + r.shift).toNat.isValidChar := by
    unfold Nat.isValidChar
    omega
  rw [Char.ofNat, dif_pos hvalid]
  show 0x80 ≤ (n + r.shift).toNat
  omega

theorem lowerChar_of_ascii {c : Char} (hc : c.toNat < 0x80) : lowerChar c = [c.toLower] :=
  if_pos hc

/-- Beyond ASCII the dotted capital `I` and the Kelvin sign are the only characters with an ASCII
letter in their lower-case form. -/
theorem lowerChar_beyond_ascii {c : Char} (hc : 0x80 ≤ c.toNat) :
    lowerChar c = ['i', Char.ofNat 0x307] ∨ lowerChar c = ['k'] ∨
      ∃ a, lowerChar c = [a] ∧ 0x80 ≤ a.toNat := by
  unfold lowerChar
  rw [if_neg (by omega)]
  by_cases hi : c.toNat = 0x130
  · exact .inl (if_pos hi)
  · right
    rw [if_neg hi]
    cases hrun : caseRuns.find? fun r => r.holds c.toNat with
    | none => exact .inr ⟨c, rfl, hc⟩
    | some r =>
      have hholds : r.holds c.toNat = true :=
        List.find?_some (p := fun r : CaseRun => r.holds c.toNat) hrun
      rcases caseRuns_spec r (List.mem_of_find?_eq_some hrun) with h | ⟨hfirst, hlast, hshift⟩
      · exact .inr ⟨_, rfl, h.le_toNat hholds⟩
      · obtain ⟨hle, hge⟩ := r.le_of_holds hholds
        have hkelvin : c.toNat = 0x212a := by omega
        refine .inl ?_
        show [Char.ofNat (c.toNat + r.shift).toNat] = ['k']
        rw [hkelvin, hshift]
        rfl

example : lowerChar '\u212a' = ['k'] := by decide

/-- An ASCII character in lower case that characters beyond ASCII do not have in their lower-case
forms. -/
def IsPlain (a : Char) : Prop := a.toNat < 0x80 ∧ a.toLower = a ∧ a ≠ 'i' ∧ a ≠ 'k'

instance (a : Char) : Decidable (IsPlain a) := inferInstanceAs (Decidable (_ ∧ _))

/-- A word of such characters. -/
def IsPlainWord (w : List Char) : Prop := ∀ a ∈ w, IsPlain a

-- a property of all characters of a list is checked on the list, not on all characters
instance (w : List Char) : Decidable (IsPlainWord w) := List.decidableBAll IsPlain w

/-- A word of ASCII characters in lower case. -/
def IsLowerWord (w : List Char) : Prop := ∀ a ∈ w, a.toNat < 0x80 ∧ a.toLower = a

instance (w : List Char) : Decidable (IsLowerWord w) :=
  List.decidableBAll (fun a : Char => a.toNat < 0x80 ∧ a.toLower = a) w

/-- What holds for each code point of ASCII holds for each ASCII character. -/
theorem ascii_induction {P : Char → Prop} (h : ∀ n < 0x80, P (Char.ofNat n)) {c : Char}
    (hc : c.toNat < 0x80) : P c := by
  have hP := h c.toNat hc
  rwa [Char.ofNat_toNat] at hP

theorem toNat_toUpper_lt {a : Char} (ha : a.toNat < 0x80) : a.toUpper.toNat < 0x80 :=
  ascii_induction (P := fun a => a.toUpper.toNat < 0x80) (by decide) ha

theorem toLower_toUpper {a : Char} (ha : a.toNat < 0x80) : a.toUpper.toLower = a.toLower :=
  ascii_induction (P := fun a => a.toUpper.toLower = a.toLower) (by decide) ha

theorem eq_toLower_or {c : Char} (hc : c.toNat < 0x80) : c = c.toLower ∨ c = c.toLower.toUpper :=
  ascii_induction (P := fun c => c = c.toLower ∨ c = c.toLower.toUpper) (by decide) hc

theorem IsPlain.toLower_eq_iff {a c : Char} (ha : IsPlain a) (hc : c.toNat < 0x80) :
    c.toLower = a ↔ c = a ∨ c = a.toUpper := by
  constructor
  · rintro rfl
    exact eq_toLower_or hc
  · rintro (rfl | rfl)
    · exact ha.2.1
    · rw [toLower_toUpper ha.1, ha.2.1]

/-! ### Texts -/

/-- The text that a character becomes in lower case: its own lower-case form, but for a capital
sigma that ends a word. -/
def LowersTo (c : Char) (l : List Char) : Prop := l = lowerChar c ∨ c = 'Σ' ∧ l = ['ς']

/-- The lower-case forms of a text. Which sigmas are final is left open. -/
inductive LowerForm : List Char → List Char → Prop
  | nil : LowerForm [] []
  | cons {c : Char} {l s t : List Char} : LowersTo c l → LowerForm s t →
      LowerForm (c :: s) (l ++ t)

/-- The text is the word with any of its letters in upper case. -/
def CaseVariant (w s : List Char) : Prop := List.Forall₂ (fun a c => c = a ∨ c = a.toUpper) w s

variable {a c : Char} {l s t w : List Char}

theorem LowersTo.eq_of_ascii (h : LowersTo c l) (hc : c.toNat < 0x80) : l = [c.toLower] := by
  rcases h with rfl | ⟨rfl, -⟩
  · exact lowerChar_of_ascii hc
  · exact absurd hc (by decide)

/-- Beyond ASCII the lower-case form of a character begins with a character that is not plain. -/
theorem LowersTo.exists_head (h : LowersTo c l) (hc : 0x80 ≤ c.toNat) :
    ∃ a l', l = a :: l' ∧ ¬ IsPlain a := by
  rcases h with rfl | ⟨-, rfl⟩
  · rcases lowerChar_beyond_ascii hc with h | h | ⟨a, h, ha⟩
    · exact ⟨_, _, h, by decide⟩
    · exact ⟨_, _, h, by decide⟩
    · exact ⟨a, [], h, fun hplain => absurd hplain.1 (by omega)⟩
  · exact ⟨_, _, rfl, by decide⟩

theorem lowerForm_lowercase (s : String) : LowerForm s.toList (lowercase s) := by
  unfold lowercase
  induction s.toList with
  | nil => exact .nil
  | cons c s ih => exact .cons (.inl rfl) ih

/-- Whatever its letters are, the lower-case form of a variant of a word is the word. -/
theorem CaseVariant.lowercase_eq {s : String} (h : CaseVariant w s.toList) (hw : IsLowerWord w) :
    lowercase s = w := by
  unfold CaseVariant at h
  unfold lowercase
  generalize s.toList = cs at h
  induction h with
  | nil => rfl
  | @cons a c w cs hc _ ih =>
    obtain ⟨⟨hascii, hlower⟩, hw⟩ := List.forall_mem_cons.1 hw
    have hform : lowerChar c = [a] := by
      rcases hc with rfl | rfl
      · rw [lowerChar_of_ascii hascii, hlower]
      · rw [lowerChar_of_ascii (toNat_toUpper_lt hascii), toLower_toUpper hascii, hlower]
    rw [List.flatMap_cons, hform, ih hw]
    rfl

/-- Variants of a plain word are ASCII texts. -/
theorem CaseVariant.lt_of_mem (h : CaseVariant w s) (hw : IsPlainWord w) :
    ∀ c ∈ s, c.toNat < 0x80 := by
  unfold CaseVariant at h
  induction h with
  | nil => simp
  | cons hc _ ih =>
    obtain ⟨ha, hw⟩ := List.forall_mem_cons.1 hw
    refine List.forall_mem_cons.2 ⟨?_, ih hw⟩
    rcases hc with rfl | rfl
    · exact ha.1
    · exact toNat_toUpper_lt ha.1

/-- The texts with a plain word for a lower-case form are the variants of the word. -/
theorem LowerForm.eq_iff_caseVariant (h : LowerForm s t) (hw : IsPlainWord w) :
    t = w ↔ CaseVariant w s := by
  induction h generalizing w with
  | nil => rw [CaseVariant, List.forall₂_nil_right_iff, eq_comm]
  | @cons c l s t hl _ ih =>
    by_cases hc : c.toNat < 0x80
    · rw [hl.eq_of_ascii hc, List.singleton_append]
      cases w with
      | nil => simp [CaseVariant]
      | cons a w =>
        obtain ⟨ha, hw⟩ := List.forall_mem_cons.1 hw
        rw [CaseVariant, List.forall₂_cons, List.cons.injEq, ha.toLower_eq_iff hc, ih hw,
          CaseVariant]
    · -- the lower-case form does not begin like a plain word, and the text is no variant of one
      obtain ⟨b, l, rfl, hb⟩ := hl.exists_head (by omega)
      apply iff_of_false
      · rintro rfl
        exact hb (hw b (by simp))
      · intro hvariant
        exact hc (hvariant.lt_of_mem hw c (by simp))

/-- No lower-case form of a text with a character beyond ASCII is a plain word. -/
theorem LowerForm.ne_of_beyond_ascii (h : LowerForm s t) (hs : ∃ c ∈ s, 0x80 ≤ c.toNat)
    (hw : IsPlainWord w) : t ≠ w := by
  intro heq
  obtain ⟨c, hc, hle⟩ := hs
  have hlt : c.toNat < 0x80 := ((h.eq_iff_caseVariant hw).1 heq).lt_of_mem hw c hc
  omega

end GridRobot
