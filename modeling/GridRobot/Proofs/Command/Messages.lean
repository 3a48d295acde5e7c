import GridRobot.Command.Parse
import GridRobot.Proofs.Text.Numerals
import GridRobot.Proofs.Text.Quoting

/-!
# What is said about a rejected command

A rejection repeats the text at fault, which may have any characters in it. Its message is a single
line of visible characters all the same, and it tells the error with everything in it.

* `CommandError.opening`, `CommandError.details`: the words at the beginning of a message, and the
  data of the error after them;
* `CommandError.openings`, `CommandError.opening_eq`: no opening begins with another one;
* `CommandError.message_injective`: different errors have different messages;
* `CommandError.isControl_of_mem_message`: messages have no control characters;
* `Command.rejections_told_apart`: this is so for every text that is rejected.
-/

namespace GridRobot

theorem SectionKind.text_injective : Function.Injective SectionKind.text := by
  intro kind kind' h
  cases kind <;> cases kind' <;> simp [text] at h ⊢

theorem Field.text_injective : Function.Injective Field.text := by
  intro field field' h
  cases field <;> cases field' <;> simp [text] at h ⊢

/-- Whether a text has no control characters. -/
def isPlain (text : List Char) : Bool := text.all fun c => !isControl c

theorem isControl_of_isPlain {text : List Char} {c : Char} (h : isPlain text = true)
    (hc : c ∈ text) : isControl c = false := by
  simpa using List.all_eq_true.1 h c hc

namespace CommandError

variable {e e' : CommandError}

/-- The words with which the message begins. -/
def opening : CommandError → String
  | sectionCount _ => "invalid command format: expected 3 sections but got "
  | mapFormat _ => "invalid map format: expected 4 fields but got "
  | startFormat _ => "invalid start format: expected 2 fields but got "
  | invalidStep _ => "invalid step format: "
  | nonPositiveDistance _ => "step "
  | unknownSection _ => "invalid command format: unknown section "
  | invalidInteger _ _ => "invalid integer "
  | duplicateSection kind => kind.text ++ " section appears more than once"
  | missingSection kind => kind.text ++ " section is missing"

/-- What the message says after its opening. -/
def details : CommandError → List Char
  | sectionCount found | mapFormat found | startFormat found => (Decimal.ofNat found).toList
  | invalidStep text | unknownSection text => (quoted text).toList
  | nonPositiveDistance token =>
    (quoted token).toList ++ " must have a distance greater than zero".toList
  | invalidInteger field value => (quoted value).toList ++ (" in " ++ field.text).toList
  | duplicateSection _ | missingSection _ => []

theorem toList_message (e : CommandError) : e.message.toList = e.opening.toList ++ e.details := by
  cases e with
  | sectionCount | mapFormat | startFormat | invalidStep | unknownSection =>
    exact String.toList_append
  | nonPositiveDistance token =>
    change ("step " ++ quoted token ++ _).toList = _
    rw [String.toList_append, String.toList_append, List.append_assoc]
    rfl
  | invalidInteger field value =>
    change ("invalid integer " ++ quoted value ++ " in " ++ field.text).toList = _
    rw [String.append_assoc, String.toList_append, String.toList_append, List.append_assoc]
    rfl
  | duplicateSection | missingSection => exact (List.append_nil _).symm

/-! ### Openings -/

/-- All openings, each with the code of its errors. -/
def openings : List (String × String) := [
  ("section_count", "invalid command format: expected 3 sections but got "),
  ("map_format", "invalid map format: expected 4 fields but got "),
  ("start_format", "invalid start format: expected 2 fields but got "),
  ("invalid_step", "invalid step format: "),
  ("non_positive_distance", "step "),
  ("unknown_section", "invalid command format: unknown section "),
  ("invalid_integer", "invalid integer "),
  ("duplicate_section", "map section appears more than once"),
  ("duplicate_section", "start section appears more than once"),
  ("duplicate_section", "steps section appears more than once"),
  ("missing_section", "map section is missing"),
  ("missing_section", "start section is missing"),
  ("missing_section", "steps section is missing")]

theorem mem_openings (e : CommandError) : (e.code, e.opening) ∈ openings := by
  cases e with
  | duplicateSection kind | missingSection kind => cases kind <;> decide
  | _ => simp [code, opening, openings]

/-- No opening begins with another one, and openings have no control characters. -/
theorem openings_spec :
    (∀ o ∈ openings, ∀ o' ∈ openings, o.2.toList <+: o'.2.toList → o = o') ∧
      ∀ o ∈ openings, isPlain o.2.toList = true := by
  decide +kernel

/-- Messages that begin alike have the same opening. -/
theorem opening_eq {s s' : List Char} (h : e.opening.toList ++ s = e'.opening.toList ++ s') :
    e.code = e'.code ∧ e.opening = e'.opening := by
  rw [← Prod.mk.injEq]
  rcases prefix_or_prefix_of_append_eq h with h | h
  · exact openings_spec.1 _ e.mem_openings _ e'.mem_openings h
  · exact (openings_spec.1 _ e'.mem_openings _ e.mem_openings h).symm

/-! ### Messages -/

/-- The message tells the error, with the text, the count or the kind in it. -/
theorem message_injective : Function.Injective message := by
  intro e e' h
  have hlist := congrArg String.toList h
  rw [toList_message, toList_message] at hlist
  obtain ⟨hcode, hopening⟩ := opening_eq hlist
  rw [hopening] at hlist
  have hdetails : e.details = e'.details := List.append_cancel_left hlist
  have hcount : ∀ {m n : Nat}, (Decimal.ofNat m).toList = (Decimal.ofNat n).toList → m = n :=
    fun h => Decimal.ofNat_injective (String.toList_injective h)
  -- Errors of different constructors have different codes.
  cases e with
  | sectionCount m =>
    cases e' with
    | sectionCount n => rw [hcount hdetails]
    | _ => simp [code] at hcode
  | mapFormat m =>
    cases e' with
    | mapFormat n => rw [hcount hdetails]
    | _ => simp [code] at hcode
  | startFormat m =>
    cases e' with
    | startFormat n => rw [hcount hdetails]
    | _ => simp [code] at hcode
  | invalidStep token =>
    cases e' with
    | invalidStep token' => rw [prefixCode_quoted.injective hdetails]
    | _ => simp [code] at hcode
  | nonPositiveDistance token =>
    cases e' with
    | nonPositiveDistance token' => rw [(prefixCode_quoted hdetails).1]
    | _ => simp [code] at hcode
  | unknownSection text =>
    cases e' with
    | unknownSection text' => rw [prefixCode_quoted.injective hdetails]
    | _ => simp [code] at hcode
  | invalidInteger field value =>
    cases e' with
    | invalidInteger field' value' =>
      obtain ⟨rfl, hfield⟩ := prefixCode_quoted hdetails
      rw [String.toList_append, String.toList_append] at hfield
      rw [Field.text_injective (String.toList_injective (List.append_cancel_left hfield))]
    | _ => simp [code] at hcode
  | duplicateSection kind =>
    cases e' with
    | duplicateSection kind' =>
      rw [SectionKind.text_injective ((String.append_left_inj _).1 hopening)]
    | _ => simp [code] at hcode
  | missingSection kind =>
    cases e' with
    | missingSection kind' =>
      rw [SectionKind.text_injective ((String.append_left_inj _).1 hopening)]
    | _ => simp [code] at hcode

theorem isControl_of_mem_message {c : Char} (h : c ∈ e.message.toList) : isControl c = false := by
  have hdigits : ∀ n, c ∈ (Decimal.ofNat n).toList → isControl c = false := fun n hc =>
    forall_mem_toDigits (b := 10) (P := fun c => isControl c = false) (by decide) (by decide) n c
      (by simpa using hc)
  have hend : isPlain " must have a distance greater than zero".toList = true := by decide
  have hfield : ∀ field : Field, isPlain (" in " ++ field.text).toList = true := by
    intro field
    cases field <;> decide
  rw [toList_message, List.mem_append] at h
  rcases h with h | h
  · exact isControl_of_isPlain (openings_spec.2 _ e.mem_openings) h
  cases e with
  | sectionCount n | mapFormat n | startFormat n => exact hdigits n h
  | invalidStep text | unknownSection text => exact isControl_of_mem_quoted h
  | nonPositiveDistance token =>
    rcases List.mem_append.1 h with h | h
    · exact isControl_of_mem_quoted h
    · exact isControl_of_isPlain hend h
  | invalidInteger field value =>
    rcases List.mem_append.1 h with h | h
    · exact isControl_of_mem_quoted h
    · exact isControl_of_isPlain (hfield field) h
  | duplicateSection | missingSection => cases h

end CommandError

namespace Command

/-- **Rejections are told apart.** Whatever a text holds, the message with which it is rejected has
no control character in it, and different errors have different messages. -/
theorem rejections_told_apart :
    (∀ text e, parse text = .error e → ∀ c ∈ e.message.toList,
      ¬ c.toNat ≤ 0x1f ∧ ¬ (0x7f ≤ c.toNat ∧ c.toNat ≤ 0x9f)) ∧
    ∀ text text' e e', parse text = .error e → parse text' = .error e' → e ≠ e' →
      e.message ≠ e'.message := by
  constructor
  · intro text e _ c hc
    have hcontrol := CommandError.isControl_of_mem_message hc
    simp only [isControl, Bool.or_eq_false_iff, Bool.and_eq_false_iff, decide_eq_false_iff_not]
      at hcontrol
    omega
  · exact fun _ _ _ _ _ _ hne heq => hne (CommandError.message_injective heq)

/-- A line break is written like the two characters that stand for it, but not in the same way as
they are. -/
theorem rejections_told_apart_lineBreak :
    let lineBreak := CommandError.invalidInteger .startY "\n"
    let letters := CommandError.invalidInteger .startY "\\n"
    parse "M:0,5,0,5;S:0,\n;[N1]" = .error lineBreak ∧
      parse "M:0,5,0,5;S:0,\\n;[N1]" = .error letters ∧
      lineBreak.message = "invalid integer \"\\n\" in start y" ∧
      (∀ c ∈ lineBreak.message.toList, ¬ c.toNat ≤ 0x1f ∧ ¬ (0x7f ≤ c.toNat ∧ c.toNat ≤ 0x9f)) ∧
      lineBreak.message ≠ letters.message := by
  intro lineBreak letters
  have h : parse "M:0,5,0,5;S:0,\n;[N1]" = .error lineBreak := by decide
  have h' : parse "M:0,5,0,5;S:0,\\n;[N1]" = .error letters := by decide
  obtain ⟨hsafe, hapart⟩ := rejections_told_apart
  exact ⟨h, h', by decide, hsafe _ _ h, hapart _ _ _ _ h h' (by decide)⟩

end Command

end GridRobot
