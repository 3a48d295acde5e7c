import GridRobot.Proofs.Text.PrefixCodes
import GridRobot.Text.Display

/-!
# Quoted text can be read back

Text of any characters is quoted without control characters, and the quotation says which text it
is and where it ends, whatever comes after it.

* `toDigits_injective`: digits tell the number;
* `Escaped`: the three forms in which a character is written;
* `prefixCode_quoteChar`, `prefixCode_quoted`: written characters and quoted texts tell where they
  end;
* `isControl_of_mem_quoted`: no control character is left.
-/

namespace GridRobot

/-! ### Digits -/

/-- Digits up to base sixteen tell the number. -/
theorem toDigits_injective {b : Nat} (hb : 1 < b) (hle : b ≤ 16) :
    Function.Injective (Nat.toDigits b) := by
  have hdigit : ∀ m < 16, ∀ n < 16, Nat.digitChar m = Nat.digitChar n → m = n := by decide
  have hlonger : ∀ (d e : Char) (n : Nat), [d] ≠ Nat.toDigits b n ++ [e] := by
    intro d e n h
    have hlen := congrArg List.length h
    have hpos := Nat.length_toDigits_pos (b := b) (n := n)
    simp only [List.length_append, List.length_singleton] at hlen
    omega
  intro m n h
  induction m using Nat.strongRecOn generalizing n with
  | ind m ih =>
    rw [Nat.toDigits_eq_if (n := m) hb, Nat.toDigits_eq_if (n := n) hb] at h
    split at h
    · next hm =>
      split at h
      · next hn => exact hdigit m (by omega) n (by omega) (List.singleton_inj.1 h)
      · exact absurd h (hlonger _ _ _)
    · next hm =>
      split at h
      · exact absurd h.symm (hlonger _ _ _)
      · have hmod : ∀ k, k % b < 16 := fun k => Nat.lt_of_lt_of_le (Nat.mod_lt k (by omega)) hle
        obtain ⟨hdiv, hlast⟩ := List.append_inj' h rfl
        have hquotient := ih (m / b) (Nat.div_lt_self (by omega) hb) hdiv
        have hremainder := hdigit _ (hmod m) _ (hmod n) (List.singleton_inj.1 hlast)
        rw [← Nat.div_add_mod m b, ← Nat.div_add_mod n b, hquotient, hremainder]

/-- A number is written with the digits of its base. -/
theorem forall_mem_toDigits {b : Nat} (hb : 1 < b) {P : Char → Prop}
    (h : ∀ m < b, P (Nat.digitChar m)) (n : Nat) : ∀ c ∈ Nat.toDigits b n, P c := by
  induction n using Nat.strongRecOn with
  | ind n ih =>
    rw [Nat.toDigits_eq_if hb]
    split
    · next hn => exact List.forall_mem_singleton.2 (h n hn)
    · intro c hc
      rcases List.mem_append.1 hc with hc | hc
      · exact ih (n / b) (Nat.div_lt_self (by omega) hb) c hc
      · rw [List.mem_singleton.1 hc]
        exact h _ (Nat.mod_lt n (by omega))

/-! ### Characters -/

/-- The letters of the short escapes, with the characters that they stand for. -/
def shortEscapes : List (Char × Char) :=
  [('"', '"'), ('\\', '\\'), ('n', '\n'), ('r', '\r'), ('t', '\t'), ('0', '\x00')]

/-- The forms in which a character is written: as itself, as a letter or as its code point. -/
inductive Escaped (c : Char) : List Char → Prop
  | plain : isControl c = false → c ≠ '"' → c ≠ '\\' → Escaped c [c]
  | short {letter : Char} : (letter, c) ∈ shortEscapes → Escaped c ['\\', letter]
  | codePoint : Escaped c (codePointEscape c)

theorem escaped_quoteChar (c : Char) : Escaped c (quoteChar c) := by
  unfold quoteChar
  split_ifs with hquote hback hn hr ht hzero hcode
  · exact .short (by simp [shortEscapes, hquote])
  · exact .short (by simp [shortEscapes, hback])
  · exact .short (by simp [shortEscapes, hn])
  · exact .short (by simp [shortEscapes, hr])
  · exact .short (by simp [shortEscapes, ht])
  · exact .short (by simp [shortEscapes, hzero])
  · exact .codePoint
  · refine .plain ?_ hquote hback
    simp only [needsCodePoint, Bool.or_eq_true, not_or] at hcode
    exact Bool.eq_false_iff.2 hcode.1

/-- No letter stands for two characters, and none of them is the mark of a code point. -/
theorem shortEscapes_spec : (∀ e ∈ shortEscapes, e.1 ≠ 'u' ∧ isControl e.1 = false) ∧
    ∀ e ∈ shortEscapes, ∀ e' ∈ shortEscapes, e.1 = e'.1 → e.2 = e'.2 := by
  decide

/-- The digits of a code point are neither the brace after them nor control characters. -/
theorem hexDigits_spec (n : Nat) :
    ∀ c ∈ Nat.toDigits 16 n, c ≠ '\x7d' ∧ isControl c = false :=
  forall_mem_toDigits (by decide) (by decide) n

theorem prefixCode_codePointEscape : PrefixCode codePointEscape := by
  have hbrace : ∀ c : Char, '\x7d' ∉ Nat.toDigits 16 c.toNat := fun c hc =>
    (hexDigits_spec c.toNat _ hc).1 rfl
  have hdigits : Function.Injective fun c : Char => Nat.toDigits 16 c.toNat := fun c c' h =>
    Char.toNat_inj.1 (toDigits_injective (by decide) (by decide) h)
  exact (PrefixCode.of_terminated hbrace hdigits).prepend ['\\', 'u', '\x7b']

/-- Of two forms at the front of a text both are the same, with the same character. -/
theorem Escaped.eq {c c' : Char} {t t' s s' : List Char} (h : Escaped c t) (h' : Escaped c' t')
    (heq : t ++ s = t' ++ s') : c = c' ∧ s = s' := by
  obtain ⟨hletter, hsame⟩ := shortEscapes_spec
  cases h with
  | plain _ _ hback =>
    cases h' with
    | plain => exact List.cons.inj heq
    | short | codePoint => exact absurd (List.cons.inj heq).1 hback
  | @short letter hc =>
    cases h' with
    | plain _ _ hback => exact absurd (List.cons.inj heq).1.symm hback
    | @short letter' hc' =>
      obtain ⟨rfl, hs⟩ := List.cons.inj (List.cons.inj heq).2
      exact ⟨hsame _ hc _ hc' rfl, hs⟩
    | codePoint => exact absurd (List.cons.inj (List.cons.inj heq).2).1 (hletter _ hc).1
  | codePoint =>
    cases h' with
    | plain _ _ hback => exact absurd (List.cons.inj heq).1.symm hback
    | short hc' => exact absurd (List.cons.inj (List.cons.inj heq).2).1.symm (hletter _ hc').1
    | codePoint => exact prefixCode_codePointEscape heq

theorem prefixCode_quoteChar : PrefixCode quoteChar := fun c c' _ _ heq =>
  (escaped_quoteChar c).eq (escaped_quoteChar c') heq

theorem Escaped.exists_cons {c : Char} {t : List Char} (h : Escaped c t) :
    ∃ d r, t = d :: r ∧ d ≠ '"' := by
  cases h with
  | plain _ hquote => exact ⟨c, [], rfl, hquote⟩
  | short | codePoint => exact ⟨'\\', _, rfl, by decide⟩

theorem Escaped.isControl_of_mem {c d : Char} {t : List Char} (h : Escaped c t) (hd : d ∈ t) :
    isControl d = false := by
  cases h with
  | plain hc => rwa [List.mem_singleton.1 hd]
  | short hc =>
    rcases List.mem_cons.1 hd with rfl | hd
    · rfl
    · rw [List.mem_singleton.1 hd]
      exact (shortEscapes_spec.1 _ hc).2
  | codePoint =>
    simp only [codePointEscape, List.mem_cons, List.mem_append, List.not_mem_nil, or_false] at hd
    rcases hd with rfl | rfl | rfl | hd | rfl
    · rfl
    · rfl
    · rfl
    · exact (hexDigits_spec c.toNat d hd).2
    · rfl

/-! ### Texts -/

/-- A quoted text tells where it ends. -/
theorem prefixCode_quoted : PrefixCode fun text => (quoted text).toList := by
  intro text text' s s' heq
  simp only [toList_quoted, List.cons_append, List.append_assoc, List.nil_append] at heq
  obtain ⟨htext, hs⟩ := prefixCode_quoteChar.flatMap_append_cons_inj
    (fun c => (escaped_quoteChar c).exists_cons) (List.cons.inj heq).2
  exact ⟨String.toList_injective htext, hs⟩

/-- No control character is left in a quoted text. -/
theorem isControl_of_mem_quoted {text : String} {c : Char} (h : c ∈ (quoted text).toList) :
    isControl c = false := by
  simp only [toList_quoted, List.mem_cons, List.mem_append, List.mem_flatMap, List.not_mem_nil,
    or_false] at h
  rcases h with rfl | ⟨d, -, hd⟩ | rfl
  · rfl
  · exact (escaped_quoteChar d).isControl_of_mem hd
  · rfl

end GridRobot
