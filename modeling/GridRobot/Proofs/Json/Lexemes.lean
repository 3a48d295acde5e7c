import GridRobot.Json.Lexeme
import GridRobot.Json.Value
import Mathlib.Tactic.SplitIfs

/-!
# Strings and numbers in JSON text

A string or an integer that is written into JSON text is found again at the front of the text.

* `unquote_string`: every string is read back from its written form, whatever follows;
* `EndsNumber`: text that does not go on with a number that stands before it;
* `NumberText.scan_toDigits`, `readNumber_toDigits`: the digits of a natural number are a number,
  and if it is below two to the 64 it is read back as an integer.
-/

namespace GridRobot

/-! ### Strings -/

theorem hexUnit?_digits : ∀ n < 0x20, hexUnit? '0' '0' (Nat.digitChar (n / 16))
    (Nat.digitChar (n % 16)) = some n ∧ isLeading n = false ∧ isTrailing n = false := by
  decide

/-- A character is read back from its written form. -/
theorem unquote_escapeChar (read : List Char) (c : Char) (rest : List Char) :
    unquote read (Json.escapeChar c ++ rest) = unquote (c :: read) rest := by
  unfold Json.escapeChar
  split_ifs with hquote hback hn hr ht hb hf hcontrol
  · subst hquote; simp [unquote, letterEscape?]
  · subst hback; simp [unquote, letterEscape?]
  · subst hn; simp [unquote, letterEscape?]
  · subst hr; simp [unquote, letterEscape?]
  · subst ht; simp [unquote, letterEscape?]
  · subst hb; simp [unquote, letterEscape?]
  · subst hf; simp [unquote, letterEscape?]
  · obtain ⟨hunit, hlead, htrail⟩ := hexUnit?_digits c.toNat hcontrol
    simp [unquote, hunit, hlead, htrail]
  · simp [unquote, hback, hcontrol]

theorem unquote_escaped (read s rest : List Char) :
    unquote read (s.flatMap Json.escapeChar ++ '"' :: rest) =
      .ok (String.ofList (read.reverse ++ s), rest) := by
  induction s generalizing read with
  | nil => simp [unquote]
  | cons c s ih =>
    rw [List.flatMap_cons, List.append_assoc, unquote_escapeChar, ih]
    simp

/-- A string is read back from its written form. -/
theorem unquote_string (s : String) (rest : List Char) :
    unquote [] ((Json.string s).toList.tail ++ rest) = .ok (s, rest) := by
  have htext : (Json.string s).toList.tail ++ rest =
      s.toList.flatMap Json.escapeChar ++ '"' :: rest := by
    simp [Json.string]
  rw [htext, unquote_escaped]
  simp

/-! ### Numbers -/

/-- Text that does not go on with a number that stands before it. -/
def EndsNumber (rest : List Char) : Prop :=
  ∀ c ∈ rest.head?, c.isDigit = false ∧ c ∉ ['.', 'e', 'E']

theorem endsNumber_cons {c : Char} {rest : List Char} (hd : c.isDigit = false)
    (hc : c ∉ ['.', 'e', 'E']) : EndsNumber (c :: rest) := by
  intro c' h
  cases h
  exact ⟨hd, hc⟩

/-- Only zero is written with a zero in front. -/
theorem head?_toDigits {n : Nat} (h : (Nat.toDigits 10 n).head? = some '0') : n = 0 := by
  have hdigit : ∀ n < 10, Nat.digitChar n = '0' → n = 0 := by decide
  induction n using Nat.strongRecOn with
  | ind n ih =>
    rw [Nat.toDigits_eq_if (by decide)] at h
    split at h
    · next hn => exact hdigit n hn (Option.some.inj h)
    · next hn =>
      -- the digits of the tenth begin in the same way, and the tenth is not zero
      obtain ⟨c, ds, hds⟩ :=
        List.exists_cons_of_ne_nil (Nat.toDigits_ne_nil (n := n / 10) (b := 10))
      rw [hds, List.cons_append, List.head?_cons] at h
      have htenth := ih (n / 10) (by omega) (by rw [hds, List.head?_cons, h])
      omega

namespace NumberText

variable {ds rest : List Char} {n : Nat}

theorem scanDigits_append (hne : ds ≠ []) (hds : ∀ c ∈ ds, c.isDigit = true)
    (hr : ∀ c ∈ rest.head?, c.isDigit = false) : scanDigits (ds ++ rest) = .ok (ds, rest) := by
  have htake : rest.takeWhile Char.isDigit = [] := by
    cases rest with
    | nil => rfl
    | cons c rest => rw [List.takeWhile_cons_of_neg]; simp [hr c rfl]
  have hdrop : rest.dropWhile Char.isDigit = rest := by
    cases rest with
    | nil => rfl
    | cons c rest => rw [List.dropWhile_cons_of_neg]; simp [hr c rfl]
  simp [scanDigits, List.takeWhile_append_of_pos hds, List.dropWhile_append_of_pos hds, htake,
    hdrop, hne]

theorem scanExponent_of_endsNumber (hr : EndsNumber rest) :
    scanExponent rest = .ok (none, rest) := by
  cases rest with
  | nil => rfl
  | cons c rest =>
    have hc := (hr c rfl).2
    simp only [List.mem_cons, List.not_mem_nil, or_false, not_or] at hc
    simp [scanExponent, hc]

/-- The digits of a natural number are a number without fraction and exponent. -/
theorem scan_toDigits (n : Nat) (hr : EndsNumber rest) :
    scan (Nat.toDigits 10 n ++ rest) = .ok (⟨Nat.toDigits 10 n, [], none⟩, rest) := by
  have hds : ∀ c ∈ Nat.toDigits 10 n, c.isDigit = true := fun c hc =>
    Nat.isDigit_of_mem_toDigits (by decide) (by decide) hc
  have hzero : ¬ ((Nat.toDigits 10 n).head? = some '0' ∧ (Nat.toDigits 10 n).length ≠ 1) := by
    rintro ⟨hhead, hlen⟩
    rw [head?_toDigits hhead] at hlen
    exact hlen rfl
  unfold scan
  rw [scanDigits_append Nat.toDigits_ne_nil hds fun c hc => (hr c hc).1]
  simp only [bind, Except.bind, if_neg hzero]
  split
  · next c rest' =>
    exact absurd (hr '.' rfl).2 (by decide)
  · rw [scanExponent_of_endsNumber hr]
    rfl

/-- All digits of a number below two to the 64 go into the significand. -/
theorem absorb_eq (h : Nat.ofDigitChars 10 ds n < 18446744073709551616) :
    absorb n ds = (Nat.ofDigitChars 10 ds n, []) := by
  induction ds generalizing n with
  | nil => rfl
  | cons d ds ih =>
    rw [Nat.ofDigitChars_cons] at h ⊢
    have hle : 10 * n + (d.toNat - '0'.toNat) ≤
        Nat.ofDigitChars 10 ds (10 * n + (d.toNat - '0'.toNat)) := by
      rw [Nat.ofDigitChars_eq_ofDigitChars_zero]
      exact Nat.le_add_right_of_le (Nat.le_mul_of_pos_left _ (Nat.pow_pos (by decide)))
    rw [absorb, Nat.mul_comm n 10, if_pos (by omega), ih h]

theorem round53_le (h : n < 18446744073709551616) : round53 n ≤ n + 2048 := by
  have hlog : n.log2 < 64 := by
    by_cases hn : n = 0
    · simp [hn]
    · exact (Nat.log2_lt hn).2 h
  have hunit : Nat.pow 2 (n.log2 + 1 - 53) ≤ 2 ^ 11 :=
    Nat.pow_le_pow_right (by decide) (by omega)
  have hq : n / Nat.pow 2 (n.log2 + 1 - 53) * Nat.pow 2 (n.log2 + 1 - 53) ≤ n :=
    Nat.div_mul_le_self _ _
  unfold round53
  dsimp only
  split
  · rw [Nat.add_mul]
    omega
  · omega

theorem overflows_zero (h : n < 18446744073709551616) : overflows n 0 = false := by
  have hround := round53_le h
  have hone : round53 (Nat.pow 10 (0 : Int).toNat) = 1 := by decide
  have hmost : 18446744073709551616 + 2048 < Nat.pow 2 1024 - Nat.pow 2 970 := by decide +kernel
  have hfits : ¬ Nat.pow 2 1024 - Nat.pow 2 970 ≤
      round53 n * round53 (Nat.pow 10 (0 : Int).toNat) := by
    rw [hone, Nat.mul_one]
    omega
  simp only [overflows, hfits]
  simp

theorem isTooLarge_toDigits (h : n < 18446744073709551616) :
    isTooLarge ⟨Nat.toDigits 10 n, [], none⟩ = false := by
  have hn : Nat.ofDigitChars 10 (Nat.toDigits 10 n) 0 = n := Nat.ofDigitChars_ten_toDigits
  have habsorb : absorb 0 (Nat.toDigits 10 n) = (n, []) := by
    rw [absorb_eq (hn.symm ▸ h), hn]
  simp [isTooLarge, habsorb, absorb, overflows_zero h]

end NumberText

/-- A natural number below two to the 64 is read back from its digits. Zero must not be negative. -/
theorem readNumber_toDigits {negative : Bool} {n : Nat} {rest : List Char}
    (h : n < 18446744073709551616) (hsign : negative = true → n ≠ 0) (hr : EndsNumber rest) :
    readNumber negative (Nat.toDigits 10 n ++ rest) =
      .ok (.integer (if negative then -n else n), rest) := by
  have hn : Nat.ofDigitChars 10 (Nat.toDigits 10 n) 0 = n := Nat.ofDigitChars_ten_toDigits
  unfold readNumber
  rw [NumberText.scan_toDigits n hr]
  simp only [bind, Except.bind, NumberText.isTooLarge_toDigits h, hn]
  cases negative <;> simp_all <;> rfl

end GridRobot
