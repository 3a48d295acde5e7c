import GridRobot.Proofs.Json.Grammar
import GridRobot.Proofs.Text.Fields
import Mathlib.Data.List.Induction
import Mathlib.Data.List.TakeWhile

/-!
# Words, strings and numbers of the grammar

The lexemes of JSON text are read from exactly the texts that the grammar gives for them.

* `literal_eq_ok_iff`: words;
* `unquote_eq_ok_iff`, `skipString_eq_ok_iff`: strings after the opening quote, with and without
  their value;
* `toDigits_ofDigitChars`: a whole part is what its value is written as;
* `NumberText.scan_unsigned`, `NumberText.unsigned_of_scan`: the parts of a number. What stands
  after a number counts only in one direction, since a number is read as far as it goes;
* `skipNumber_unsigned`, `unsigned_of_skipNumber`: a number without its value;
* `digits_of_readNumber`: a number that is read as an integer is written in the digits of the
  integer.
-/

namespace GridRobot

variable {s rest text body ds : List Char}

/-! ### Words -/

theorem literal_eq_ok_iff {word : List Char} : literal word s = .ok rest ↔ s = word ++ rest := by
  induction word generalizing s with
  | nil => simp [literal, eq_comm]
  | cons c word ih =>
    cases s with
    | nil => simp [literal]
    | cons c' s =>
      by_cases hc : c' = c
      · simp [literal, hc, ih]
      · simp [literal, hc]

/-! ### Strings -/

theorem unquote_spells {cs : List Char} (h : Spells body cs) (read rest : List Char) :
    unquote read (body ++ '"' :: rest) = .ok (String.ofList (read.reverse ++ cs), rest) := by
  induction h generalizing read with
  | nil => simp [unquote]
  | @plain c body cs hquote hback hlow _ ih =>
    have hplain : ¬ c.toNat < 0x20 := by omega
    simp [unquote, hback, hplain, ih]
  | @letter c e body cs he _ ih =>
    have hu : c ≠ 'u' := by rintro rfl; simp [letterEscape?] at he
    simp [unquote, hu, he, ih]
  | unit hn hlead htrail _ ih => simp [unquote, hn, hlead, htrail, ih]
  | @pair a b c d a' b' c' d' n m body cs hn hlead hm htrail _ ih =>
    have hnot : isTrailing n = false := by
      simp only [isLeading, isTrailing, Bool.and_eq_true, decide_eq_true_eq] at hlead ⊢
      simp
      omega
    simp [unquote, hn, hlead, hm, htrail, hnot, ih]

/-- A plain character of a string is no backslash: all that can follow a backslash has been ruled
out for it. -/
theorem ne_backslash {c : Char} (hlast : c = '\\' → s = [] → False)
    (hescape : ∀ (c' : Char) (s' : List Char), c = '\\' → s = c' :: s' → False) : c ≠ '\\' := by
  rintro rfl
  cases s with
  | nil => exact hlast rfl rfl
  | cons c' s' => exact hescape c' s' rfl rfl

theorem spells_of_unquote {read : List Char} {value : String}
    (h : unquote read s = .ok (value, rest)) :
    ∃ body cs, Spells body cs ∧ value = String.ofList (read.reverse ++ cs) ∧
      s = body ++ '"' :: rest := by
  -- one case for each way to go on: the end, a pair, a unit, an escape, a plain character
  fun_induction unquote read s with
  | case2 read rest =>
    cases h
    exact ⟨[], [], .nil, by simp, rfl⟩
  | case6 read a b c d n hn _ hlead a' b' c' d' rest m hm htrail ih =>
    obtain ⟨body, cs, hbody, rfl, rfl⟩ := ih h
    exact ⟨_, _, .pair hn hlead hm htrail hbody, by simp, rfl⟩
  | case9 read a b c d rest n hn htrail hlead ih =>
    obtain ⟨body, cs, hbody, rfl, rfl⟩ := ih h
    exact ⟨_, _, .unit hn (by simpa using hlead) (by simpa using htrail) hbody, by simp, rfl⟩
  | case11 read c rest _ _ e he ih =>
    obtain ⟨body, cs, hbody, rfl, rfl⟩ := ih h
    exact ⟨_, _, .letter he hbody, by simp, rfl⟩
  | case15 read c rest hquote _ _ hescape hlast hlow ih =>
    obtain ⟨body, cs, hbody, rfl, rfl⟩ := ih h
    have hback : c ≠ '\\' := ne_backslash hlast hescape
    exact ⟨_, _, .plain hquote hback (by omega) hbody, by simp, rfl⟩
  | _ => cases h

/-- A string is read from exactly the texts that stand for it. -/
theorem unquote_eq_ok_iff {value : String} : unquote [] s = .ok (value, rest) ↔
    ∃ body, Spells body value.toList ∧ s = body ++ '"' :: rest := by
  constructor
  · intro h
    obtain ⟨body, cs, hbody, rfl, rfl⟩ := spells_of_unquote h
    exact ⟨body, by simpa using hbody, rfl⟩
  · rintro ⟨body, hbody, rfl⟩
    rw [unquote_spells hbody]
    simp

/-- A string is skipped over exactly if it is one. -/
theorem skipString_eq_ok_iff :
    skipString s = .ok rest ↔ ∃ body, IsBody body ∧ s = body ++ '"' :: rest := by
  constructor
  · intro h
    fun_induction skipString s with
    | case2 rest =>
      cases h
      exact ⟨[], .nil, rfl⟩
    | case3 a b c d rest hn ih =>
      obtain ⟨body, hbody, rfl⟩ := ih h
      exact ⟨_, .unit hn hbody, rfl⟩
    | case6 c rest _ _ he ih =>
      obtain ⟨body, hbody, rfl⟩ := ih h
      exact ⟨_, .letter he hbody, rfl⟩
    | case10 c rest hquote _ _ hescape hlast hlow ih =>
      obtain ⟨body, hbody, rfl⟩ := ih h
      exact ⟨_, .plain hquote (ne_backslash hlast hescape) (by omega) hbody, rfl⟩
    | _ => cases h
  · rintro ⟨body, hbody, rfl⟩
    induction hbody with
    | nil => simp [skipString]
    | @plain c body hquote hback hlow _ ih =>
      have hplain : ¬ c.toNat < 0x20 := by omega
      simp [skipString, hback, hplain, ih]
    | @letter c body he _ ih =>
      have hu : c ≠ 'u' := by rintro rfl; simp [letterEscape?] at he
      simp [skipString, hu, he, ih]
    | unit hn _ ih => simp [skipString, hn, ih]

/-! ### Digits -/

theorem exists_digitChar {c : Char} (hc : c.isDigit = true) : ∃ d < 10, c = Nat.digitChar d := by
  obtain ⟨hlower, hupper⟩ : 48 ≤ c.toNat ∧ c.toNat ≤ 57 := Char.isDigit_iff_toNat.1 hc
  have hlt : c.toNat - 48 < 10 := by omega
  refine ⟨c.toNat - 48, hlt, Char.toNat_inj.1 ?_⟩
  rw [Nat.toNat_digitChar_of_lt_ten hlt]
  omega

/-- A whole part of several digits is one without its last digit, and does not begin with zero. -/
theorem IsWhole.of_append {d : Char} (h : IsWhole (ds ++ [d])) (hne : ds ≠ []) :
    IsWhole ds ∧ ds.head? ≠ some '0' := by
  have hhead : (ds ++ [d]).head? = ds.head? := List.head?_append_of_ne_nil ds hne
  have hlen : (ds ++ [d]).length ≠ 1 := by simpa using hne
  have hzero : ds.head? ≠ some '0' := fun h0 => hlen (h.2 (hhead.trans h0))
  exact ⟨⟨⟨hne, fun c hc => h.1.2 c (List.mem_append_left _ hc)⟩, fun h0 => absurd h0 hzero⟩,
    hzero⟩

/-- A whole part is what its value is written as. -/
theorem toDigits_ofDigitChars (h : IsWhole ds) :
    Nat.toDigits 10 (Nat.ofDigitChars 10 ds 0) = ds := by
  induction ds using List.reverseRecOn with
  | nil => exact absurd rfl h.1.1
  | append_singleton ds c ih =>
    obtain ⟨d, hd, rfl⟩ := exists_digitChar (h.1.2 c (by simp))
    rw [Nat.ofDigitChars_append, Nat.ofDigitChars_cons_digitChar_of_lt_ten hd,
      Nat.ofDigitChars_nil]
    by_cases hne : ds = []
    · subst hne
      rw [Nat.ofDigitChars_nil, Nat.mul_zero, Nat.zero_add, Nat.toDigits_of_lt_base hd]
      rfl
    · obtain ⟨hds, hzero⟩ := h.of_append hne
      have hpos : 0 < Nat.ofDigitChars 10 ds 0 := by
        rw [Nat.pos_iff_ne_zero]
        intro h0
        rw [← ih hds, h0] at hzero
        exact hzero rfl
      rw [← Nat.toDigits_append_toDigits (by decide) hpos hd, ih hds, Nat.toDigits_of_lt_base hd]

/-! ### Numbers -/

theorem IsUnsigned.exists_digit (h : IsUnsigned text) :
    ∃ c s, c.isDigit = true ∧ text = c :: s := by
  obtain ⟨whole, fraction, exponent, ⟨⟨hne, hdigits⟩, -⟩, -, -, rfl⟩ := h
  obtain ⟨c, ds, rfl⟩ := List.exists_cons_of_ne_nil hne
  exact ⟨c, _, hdigits c List.mem_cons_self, rfl⟩

/-- A digit is none of the other characters that values begin with. -/
theorem ne_of_isDigit {c c' : Char} (hc : c.isDigit = true) (hc' : c'.isDigit = false) :
    c ≠ c' := by
  rintro rfl
  rw [hc] at hc'
  cases hc'

namespace NumberText

theorem scanDigits_eq_ok_iff : scanDigits s = .ok (ds, rest) ↔
    IsDigits ds ∧ s = ds ++ rest ∧ ∀ c ∈ rest.head?, c.isDigit = false := by
  constructor
  · intro h
    unfold scanDigits at h
    dsimp only at h
    split at h
    · cases h
    · next hne =>
      cases h
      refine ⟨⟨by simpa using hne, fun c hc => List.mem_takeWhile_imp hc⟩,
        List.takeWhile_append_dropWhile.symm, fun c hc => ?_⟩
      have hhead := List.head?_dropWhile_not Char.isDigit s
      rwa [Option.mem_def.1 hc] at hhead
  · rintro ⟨⟨hne, hds⟩, rfl, hr⟩
    exact scanDigits_append hne hds hr

/-- The digits after the point, if there is a point. -/
def scanFraction : List Char → Except Fault (List Char × List Char)
  | '.' :: rest => scanDigits rest
  | rest => .ok ([], rest)

theorem scan_eq (s : List Char) : scan s =
    scanDigits s >>= fun whole =>
      if whole.1.head? = some '0' ∧ whole.1.length ≠ 1 then .error .malformed
      else scanFraction whole.2 >>= fun fraction =>
        scanExponent fraction.2 >>= fun exponent =>
          .ok (⟨whole.1, fraction.1, exponent.1⟩, exponent.2) := by
  refine bind_congr fun (whole, rest) => ?_
  dsimp only
  split
  · rfl
  · split
    · rfl
    · next hpoint =>
      rw [scanFraction.eq_2 _ hpoint]
      rfl

theorem scanFraction_fraction (h : IsFraction text)
    (hr : ∀ c ∈ rest.head?, c.isDigit = false ∧ c ≠ '.') :
    ∃ ds, scanFraction (text ++ rest) = .ok (ds, rest) := by
  rcases h with rfl | ⟨ds, hds, rfl⟩
  · refine ⟨[], ?_⟩
    rw [List.nil_append]
    unfold scanFraction
    split
    · exact absurd rfl (hr '.' rfl).2
    · rfl
  · exact ⟨ds, scanDigits_eq_ok_iff.2 ⟨hds, rfl, fun c hc => (hr c hc).1⟩⟩

theorem fraction_of_scanFraction (h : scanFraction s = .ok (ds, rest)) :
    ∃ text, IsFraction text ∧ s = text ++ rest ∧ (ds = [] → text = []) := by
  unfold scanFraction at h
  split at h
  · obtain ⟨hds, rfl, -⟩ := scanDigits_eq_ok_iff.1 h
    exact ⟨'.' :: ds, .inr ⟨ds, hds, rfl⟩, rfl, fun h0 => absurd h0 hds.1⟩
  · cases h
    exact ⟨[], .inl rfl, rfl, fun _ => rfl⟩

theorem scanExponent_exponent (h : IsExponent text) (hr : EndsNumber rest) :
    ∃ e, scanExponent (text ++ rest) = .ok (e, rest) := by
  rcases h with rfl | ⟨e, sign, ds, he, hsign, hds, rfl⟩
  · exact ⟨none, scanExponent_of_endsNumber hr⟩
  · have hscan : scanDigits (ds ++ rest) = .ok (ds, rest) :=
      scanDigits_eq_ok_iff.2 ⟨hds, rfl, fun c hc => (hr c hc).1⟩
    obtain ⟨c, ds', rfl⟩ := List.exists_cons_of_ne_nil hds.1
    have hc : c.isDigit = true := hds.2 c List.mem_cons_self
    have hplus : c ≠ '+' := by rintro rfl; cases hc
    have hminus : c ≠ '-' := by rintro rfl; cases hc
    simp only [List.mem_cons, List.not_mem_nil, or_false] at he hsign
    rcases hsign with rfl | rfl | rfl
    · simp_all [scanExponent, Except.map]
    · simp_all [scanExponent, Except.map]
    · simp_all [scanExponent, Except.map]

theorem exponent_of_scanExponent {e : Option Int} (h : scanExponent s = .ok (e, rest)) :
    ∃ text, IsExponent text ∧ s = text ++ rest ∧ (e = none → text = []) := by
  unfold scanExponent at h
  split at h
  · next c s =>
    split at h
    · next he =>
      obtain ⟨⟨ds, rest'⟩, hscan, heq⟩ := map_eq_ok_iff.1 h
      cases heq
      obtain ⟨hds, hs, -⟩ := scanDigits_eq_ok_iff.1 hscan
      have hsigned : ∀ sign ∈ [[], ['+'], ['-']], s = sign ++ (ds ++ rest) →
          IsExponent (c :: (sign ++ ds)) ∧ c :: s = c :: (sign ++ ds) ++ rest := by
        rintro sign hsign rfl
        exact ⟨.inr ⟨c, sign, ds, by simpa using he, hsign, hds, rfl⟩, by simp⟩
      split at hs
      · obtain ⟨hexp, heq⟩ := hsigned ['+'] (by simp) (hs ▸ rfl)
        exact ⟨_, hexp, heq, nofun⟩
      · obtain ⟨hexp, heq⟩ := hsigned ['-'] (by simp) (hs ▸ rfl)
        exact ⟨_, hexp, heq, nofun⟩
      · obtain ⟨hexp, heq⟩ := hsigned [] (by simp) hs
        exact ⟨_, hexp, heq, nofun⟩
    · cases h
      exact ⟨[], .inl rfl, rfl, fun _ => rfl⟩
  · cases h
    exact ⟨[], .inl rfl, rfl, fun _ => rfl⟩

/-- An exponent does not go on with digits or a point that stand before it. -/
theorem head?_exponent_append (h : IsExponent text) (hr : EndsNumber rest) :
    ∀ c ∈ (text ++ rest).head?, c.isDigit = false ∧ c ≠ '.' := by
  rcases h with rfl | ⟨e, sign, ds, he, -, -, rfl⟩
  · intro c hc
    obtain ⟨hdigit, hmark⟩ := hr c hc
    simp only [List.mem_cons, not_or] at hmark
    exact ⟨hdigit, hmark.1⟩
  · rintro c ⟨⟩
    simp only [List.mem_cons, List.not_mem_nil, or_false] at he
    rcases he with rfl | rfl
    · decide
    · decide

/-- A fraction does not go on with digits that stand before it. -/
theorem head?_fraction_append (h : IsFraction text)
    (hr : ∀ c ∈ rest.head?, c.isDigit = false ∧ c ≠ '.') :
    ∀ c ∈ (text ++ rest).head?, c.isDigit = false := by
  rcases h with rfl | ⟨ds, -, rfl⟩
  · exact fun c hc => (hr c hc).1
  · rintro c ⟨⟩
    rfl

theorem scan_unsigned (h : IsUnsigned text) (hr : EndsNumber rest) :
    ∃ t, scan (text ++ rest) = .ok (t, rest) := by
  obtain ⟨whole, fraction, exponent, ⟨hdigits, hzero⟩, hfraction, hexponent, rfl⟩ := h
  have hend := head?_exponent_append hexponent hr
  obtain ⟨e, he⟩ := scanExponent_exponent hexponent hr
  obtain ⟨ds, hds⟩ := scanFraction_fraction hfraction hend
  have hwhole : scanDigits (whole ++ (fraction ++ (exponent ++ rest))) =
      .ok (whole, fraction ++ (exponent ++ rest)) :=
    scanDigits_eq_ok_iff.2 ⟨hdigits, rfl, head?_fraction_append hfraction hend⟩
  refine ⟨⟨whole, ds, e⟩, ?_⟩
  rw [List.append_assoc, List.append_assoc, scan_eq]
  refine bind_eq_ok_iff.2 ⟨_, hwhole, ?_⟩
  rw [if_neg fun h => h.2 (hzero h.1)]
  exact bind_eq_ok_iff.2 ⟨_, hds, bind_eq_ok_iff.2 ⟨_, he, rfl⟩⟩

theorem unsigned_of_scan {t : NumberText} (h : scan s = .ok (t, rest)) :
    ∃ fraction exponent, IsWhole t.whole ∧ IsFraction fraction ∧ IsExponent exponent ∧
      s = t.whole ++ (fraction ++ (exponent ++ rest)) ∧ (t.fraction = [] → fraction = []) ∧
        (t.exponent = none → exponent = []) := by
  rw [scan_eq] at h
  obtain ⟨⟨whole, s₁⟩, hwhole, h⟩ := bind_eq_ok_iff.1 h
  split at h
  · cases h
  · next hzero =>
    obtain ⟨⟨ds, s₂⟩, hds, h⟩ := bind_eq_ok_iff.1 h
    obtain ⟨⟨e, s₃⟩, he, h⟩ := bind_eq_ok_iff.1 h
    cases h
    obtain ⟨fraction, hfraction, rfl, hnone⟩ := fraction_of_scanFraction hds
    obtain ⟨exponent, hexponent, rfl, hnone'⟩ := exponent_of_scanExponent he
    obtain ⟨hdigits, rfl, -⟩ := scanDigits_eq_ok_iff.1 hwhole
    have hwhole' : IsWhole whole := ⟨hdigits, fun h0 => by simpa [h0] using hzero⟩
    exact ⟨fraction, exponent, hwhole', hfraction, hexponent, rfl, hnone, hnone'⟩

end NumberText

theorem skipNumber_unsigned (h : IsUnsigned text) (hr : EndsNumber rest) :
    skipNumber (text ++ rest) = .ok rest := by
  obtain ⟨t, ht⟩ := NumberText.scan_unsigned h hr
  rw [skipNumber, ht]

theorem unsigned_of_skipNumber (h : skipNumber s = .ok rest) :
    ∃ text, IsUnsigned text ∧ s = text ++ rest := by
  unfold skipNumber at h
  split at h
  · next t rest' hscan =>
    cases h
    obtain ⟨fraction, exponent, hwhole, hfraction, hexponent, rfl, -⟩ :=
      NumberText.unsigned_of_scan hscan
    exact ⟨_, ⟨t.whole, fraction, exponent, hwhole, hfraction, hexponent, rfl⟩, by simp⟩
  · cases h

/-- A number that is read as an integer is written in the digits of the integer. -/
theorem digits_of_readNumber {negative : Bool} {z : Int}
    (h : readNumber negative s = .ok (.integer z, rest)) :
    ∃ n, s = Nat.toDigits 10 n ++ rest ∧ z = (if negative then -(n : Int) else n) ∧
      (negative = true → n ≠ 0) := by
  unfold readNumber at h
  obtain ⟨⟨t, s'⟩, hscan, h⟩ := bind_eq_ok_iff.1 h
  dsimp only at h
  split at h
  · cases h
  · split at h
    · next hinteger =>
      obtain ⟨hfraction, hexponent, -, hzero⟩ := hinteger
      cases h
      obtain ⟨fraction, exponent, hwhole, -, -, hs, hnone, hnone'⟩ :=
        NumberText.unsigned_of_scan hscan
      rw [hnone (List.isEmpty_iff.1 hfraction), hnone' (Option.isNone_iff_eq_none.1 hexponent)]
        at hs
      refine ⟨Nat.ofDigitChars 10 t.whole 0, ?_, rfl, fun hneg h0 => hzero ⟨hneg, h0⟩⟩
      rw [toDigits_ofDigitChars hwhole, hs, List.nil_append, List.nil_append]
    · cases h

end GridRobot
