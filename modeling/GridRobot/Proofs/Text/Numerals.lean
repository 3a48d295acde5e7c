import GridRobot.Text.Decimal
import Mathlib.Data.List.Induction

/-!
# Numerals

The grammar of decimal integers in text, with their values.

* `Digits`: a run of one or more ASCII digits;
* `Numeral`: a run of digits, which may have one sign before it.

`toInt?_eq_some_iff` says that the reader of integers accepts exactly the numerals, with their
values, and `numeral_ofInt` that an integer is printed as one of its numerals.
-/

namespace GridRobot.Decimal

/-- A run of digits with its value. Leading zeros are allowed. -/
inductive Digits : List Char → Nat → Prop
  | single {c : Char} : c.isDigit = true → Digits [c] (c.toNat - '0'.toNat)
  | snoc {ds : List Char} {n : Nat} {c : Char} : Digits ds n → c.isDigit = true →
      Digits (ds ++ [c]) (10 * n + (c.toNat - '0'.toNat))

/-- An integer in text: digits, or digits after a sign. -/
inductive Numeral : List Char → Int → Prop
  | unsigned {ds : List Char} {n : Nat} : Digits ds n → Numeral ds n
  | plus {ds : List Char} {n : Nat} : Digits ds n → Numeral ('+' :: ds) n
  | minus {ds : List Char} {n : Nat} : Digits ds n → Numeral ('-' :: ds) (-n)

variable {ds text : List Char} {n : Nat} {z : Int}

/-! ### Digits -/

theorem Digits.ne_nil (h : Digits ds n) : ds ≠ [] := by
  cases h <;> simp

theorem Digits.isDigit_of_mem (h : Digits ds n) : ∀ c ∈ ds, c.isDigit = true := by
  induction h with
  | single hc => simpa using hc
  | snoc _ hc ih => simpa [or_imp, forall_and] using ⟨ih, hc⟩

theorem Digits.ofDigitChars_eq (h : Digits ds n) : Nat.ofDigitChars 10 ds 0 = n := by
  induction h with
  | single => simp [Nat.ofDigitChars_cons]
  | snoc _ _ ih => rw [Nat.ofDigitChars_append, ih, Nat.ofDigitChars_cons, Nat.ofDigitChars_nil]

theorem digits_ofDigitChars (hne : ds ≠ []) (h : ∀ c ∈ ds, c.isDigit = true) :
    Digits ds (Nat.ofDigitChars 10 ds 0) := by
  induction ds using List.reverseRecOn with
  | nil => exact absurd rfl hne
  | append_singleton ds c ih =>
    have hc : c.isDigit = true := h c (by simp)
    rw [Nat.ofDigitChars_append, Nat.ofDigitChars_cons, Nat.ofDigitChars_nil]
    cases ds with
    | nil => simpa using Digits.single hc
    | cons d ds => exact .snoc (ih (by simp) fun c' hc' => h c' (List.mem_append_left _ hc')) hc

theorem natOfDigits?_eq_some_iff : natOfDigits? ds = some n ↔ Digits ds n := by
  unfold natOfDigits?
  split
  · next h =>
    rw [List.all_eq_true] at h
    constructor
    · rintro ⟨⟩
      exact digits_ofDigitChars h.1 h.2
    · intro hd
      rw [hd.ofDigitChars_eq]
  · next h =>
    rw [List.all_eq_true] at h
    exact ⟨fun hs => (nomatch hs), fun hd => absurd ⟨hd.ne_nil, hd.isDigit_of_mem⟩ h⟩

/-! ### Numerals -/

theorem toInt?_eq_some_iff : toInt? text = some z ↔ Numeral text z := by
  constructor
  · intro h
    unfold toInt? at h
    split at h
    · obtain ⟨n, hn, rfl⟩ := Option.map_eq_some_iff.1 h
      exact .plus (natOfDigits?_eq_some_iff.1 hn)
    · obtain ⟨n, hn, rfl⟩ := Option.map_eq_some_iff.1 h
      exact .minus (natOfDigits?_eq_some_iff.1 hn)
    · obtain ⟨n, hn, rfl⟩ := Option.map_eq_some_iff.1 h
      exact .unsigned (natOfDigits?_eq_some_iff.1 hn)
  · intro h
    cases h with
    | unsigned h =>
      cases text with
      | nil => exact absurd rfl h.ne_nil
      | cons c ds =>
        rw [toInt?_of_isDigit (h.isDigit_of_mem c List.mem_cons_self),
          natOfDigits?_eq_some_iff.2 h]
        rfl
    | plus h => simp [toInt?, natOfDigits?_eq_some_iff.2 h]
    | minus h => simp [toInt?, natOfDigits?_eq_some_iff.2 h]

theorem Numeral.eq {z' : Int} (h : Numeral text z) (h' : Numeral text z') : z = z' :=
  Option.some.inj ((toInt?_eq_some_iff.2 h).symm.trans (toInt?_eq_some_iff.2 h'))

/-- The characters of numerals are digits and signs. -/
theorem Numeral.not_mem (h : Numeral text z) {c : Char} (hd : c.isDigit = false) (hp : c ≠ '+')
    (hm : c ≠ '-') : c ∉ text := by
  have hds : ∀ {ds n}, Digits ds n → c ∉ ds := fun h hc => by
    simp [h.isDigit_of_mem c hc] at hd
  cases h with
  | unsigned h => exact hds h
  | plus h => simpa [hp] using hds h
  | minus h => simpa [hm] using hds h

theorem Numeral.not_mem_of_not_sign (h : Numeral text z) {c : Char} (hd : c.isDigit = false)
    (hs : c ∉ ['+', '-']) : c ∉ text := by
  simp only [List.mem_cons, List.not_mem_nil, or_false, not_or] at hs
  exact h.not_mem hd hs.1 hs.2

/-! ### Printed integers -/

theorem numeral_ofInt (z : Int) : Numeral (ofInt z).toList z :=
  toInt?_eq_some_iff.1 (toInt?_ofInt z)

theorem numeral_ofNat (n : Nat) : Numeral (ofNat n).toList n :=
  toInt?_eq_some_iff.1 (toInt?_toList_ofNat n)

theorem ofNat_injective {m : Nat} (h : ofNat m = ofNat n) : m = n :=
  Int.ofNat_inj.1 ((numeral_ofNat m).eq (h ▸ numeral_ofNat n))

end GridRobot.Decimal
