import GridRobot.Proofs.Json.Tokens

/-!
# What a successful scan says

When a scan made of smaller scans succeeds, each of them does, and what they have read makes up
the text. White space before a value is passed over.

* `Scan.SkipsBlank`: white space before the text does not matter to a scan;
* `Scan.of_bind`, `Scan.of_peek`, `Scan.expect_eq_ok_iff`: the first step of a scan that succeeds;
* `Scan.of_hasElement`, `Scan.of_hasMember`: another part, or the end;
* `Scan.hasElement_comma`, `Scan.hasMember_comma`: white space after a comma.
-/

namespace GridRobot

variable {α β : Type} {c c' : Char} {w w' s s' rest : List Char}

/-! ### White space -/

theorem dropWhile_blank (hw : Blank w) (s : List Char) :
    (w ++ s).dropWhile Scan.isBlank = s.dropWhile Scan.isBlank :=
  List.dropWhile_append_of_pos hw

/-- The first character that is no white space tells where the white space before it ends. -/
theorem Blank.append_cons_inj (hw : Blank w) (hw' : Blank w') (hc : Scan.isBlank c = false)
    (hc' : Scan.isBlank c' = false) (h : w ++ c :: s = w' ++ c' :: s') :
    w = w' ∧ c = c' ∧ s = s' := by
  have hdrop := congrArg (List.dropWhile Scan.isBlank) h
  rw [dropWhile_blank hw, dropWhile_blank hw', List.dropWhile_cons_of_neg (by simp [hc]),
    List.dropWhile_cons_of_neg (by simp [hc'])] at hdrop
  cases hdrop
  exact ⟨List.append_cancel_right h, rfl, rfl⟩

theorem EndsNumber.blank (hr : EndsNumber rest) (hw : Blank w) : EndsNumber (w ++ rest) := by
  cases w with
  | nil => exact hr
  | cons c w =>
    have hc := hw c List.mem_cons_self
    simp only [Scan.isBlank, Bool.or_eq_true, beq_iff_eq] at hc
    rcases hc with ((rfl | rfl) | rfl) | rfl
    · exact endsNumber_cons rfl (by decide)
    · exact endsNumber_cons rfl (by decide)
    · exact endsNumber_cons rfl (by decide)
    · exact endsNumber_cons rfl (by decide)

namespace Scan

variable {scan : Scan α} {f : α → Scan β} {a : α} {b : β} {n : Nat} {first more : Bool}

/-! ### Scans that pass over white space -/

/-- White space before the text does not matter. -/
def SkipsBlank (scan : Scan α) : Prop := ∀ n w s, Blank w → scan n (w ++ s) = scan n s

theorem SkipsBlank.bind (h : SkipsBlank scan) (f : α → Scan β) : SkipsBlank (scan >>= f) := by
  intro n w s hw
  change Except.bind (scan n (w ++ s)) _ = Except.bind (scan n s) _
  rw [h n w s hw]

theorem skipsBlank_peek : SkipsBlank peek := by
  intro n w s hw
  unfold peek
  rw [dropWhile_blank hw]

theorem skipsBlank_expect (c : Char) : SkipsBlank (expect c) := skipsBlank_peek.bind _

theorem skipsBlank_hasElement (first : Bool) : SkipsBlank (hasElement first) :=
  skipsBlank_peek.bind _

theorem skipsBlank_hasMember (first : Bool) : SkipsBlank (hasMember first) :=
  skipsBlank_peek.bind _

/-- White space is passed over after a comma as well. -/
theorem hasElement_comma (first : Bool) (hw : Blank w) (s : List Char) :
    hasElement first n (comma first ++ (w ++ s)) = hasElement first n (comma first ++ s) := by
  cases first
  · change hasElement false n (',' :: (w ++ s)) = hasElement false n (',' :: s)
    rw [hasElement, peek_bind rfl, peek_bind rfl, if_neg (by decide), if_neg (by decide),
      if_pos rfl, drop_bind, drop_bind, skipsBlank_peek.bind _ n w s hw]
  · exact skipsBlank_hasElement true n w s hw

theorem hasMember_comma (first : Bool) (hw : Blank w) (s : List Char) :
    hasMember first n (comma first ++ (w ++ s)) = hasMember first n (comma first ++ s) := by
  cases first
  · change hasMember false n (',' :: (w ++ s)) = hasMember false n (',' :: s)
    rw [hasMember, peek_bind rfl, peek_bind rfl, if_neg (by decide), if_neg (by decide),
      if_pos rfl, drop_bind, drop_bind, skipsBlank_peek.bind _ n w s hw]
  · exact skipsBlank_hasMember true n w s hw

/-! ### The first step of a scan that succeeds -/

theorem of_bind (h : (scan >>= f) n s = .ok (b, rest)) :
    ∃ a s', scan n s = .ok (a, s') ∧ f a n s' = .ok (b, rest) := by
  obtain ⟨⟨a, s'⟩, hscan, hf⟩ := bind_eq_ok_iff.1 h
  exact ⟨a, s', hscan, hf⟩

theorem of_peek {f : Char → Scan α} (h : (peek >>= f) n s = .ok (a, rest)) :
    ∃ w c t, Blank w ∧ isBlank c = false ∧ s = w ++ c :: t ∧ f c n (c :: t) = .ok (a, rest) := by
  obtain ⟨c, s', hpeek, hf⟩ := of_bind h
  unfold peek at hpeek
  split at hpeek
  · cases hpeek
  · next c t hdrop =>
    cases hpeek
    have hhead := List.head?_dropWhile_not isBlank s
    rw [hdrop] at hhead
    refine ⟨s.takeWhile isBlank, c, t, fun _ hc => List.mem_takeWhile_imp hc, hhead, ?_, hf⟩
    rw [← hdrop, List.takeWhile_append_dropWhile]

theorem expect_eq_ok_iff (hc : isBlank c = false) :
    expect c n s = .ok ((), rest) ↔ ∃ w, Blank w ∧ s = w ++ c :: rest := by
  constructor
  · intro h
    obtain ⟨w, c', t, hw, -, hs, hdrop⟩ := of_peek h
    split at hdrop
    · next heq =>
      cases hdrop
      exact ⟨w, hw, heq ▸ hs⟩
    · cases hdrop
  · rintro ⟨w, hw, rfl⟩
    rw [skipsBlank_expect c n w _ hw, expect, peek_bind hc, if_pos rfl]
    rfl

theorem skipLexeme_eq_ok_iff {f : List Char → Except Fault (List Char)} :
    skipLexeme f n s = .ok ((), rest) ↔ f s = .ok rest := by
  unfold skipLexeme
  cases f s <;> simp [Except.map]

/-! ### The next part of an array or an object -/

theorem of_hasElement (h : hasElement first n s = .ok (more, s')) :
    (more = true ∧ ∃ w v, Blank w ∧ Blank v ∧ s = w ++ (comma first ++ (v ++ s'))) ∨
      (more = false ∧ ∃ w t, Blank w ∧ s = w ++ s' ∧ s' = ']' :: t) := by
  obtain ⟨w, c, t, hw, -, hs, hnext⟩ := of_peek h
  split at hnext
  · next hc =>
    cases hnext
    exact .inr ⟨rfl, w, t, hw, hs, by rw [hc]⟩
  · split at hnext
    · next hfirst =>
      cases hnext
      exact .inl ⟨rfl, w, [], hw, blank_nil, by simpa [comma, hfirst] using hs⟩
    · next hfirst =>
      split at hnext
      · next hcomma =>
        rw [drop_bind] at hnext
        obtain ⟨v, c', t', hv, -, ht, hnext⟩ := of_peek hnext
        split at hnext
        · cases hnext
        · cases hnext
          exact .inl ⟨rfl, w, v, hw, hv, by simp [comma, hfirst, hs, hcomma, ht]⟩
      · cases hnext

theorem of_hasMember (h : hasMember first n s = .ok (more, s')) :
    (more = true ∧ ∃ w v t, Blank w ∧ Blank v ∧ s = w ++ (comma first ++ (v ++ s')) ∧
        s' = '"' :: t) ∨
      (more = false ∧ ∃ w t, Blank w ∧ s = w ++ s' ∧ s' = '\x7d' :: t) := by
  obtain ⟨w, c, t, hw, -, hs, hnext⟩ := of_peek h
  split at hnext
  · next hc =>
    cases hnext
    exact .inr ⟨rfl, w, t, hw, hs, by rw [hc]⟩
  · split at hnext
    · next hfirst =>
      split at hnext
      · next hquote =>
        cases hnext
        exact .inl ⟨rfl, w, [], t, hw, blank_nil, by simpa [comma, hfirst] using hs, by rw [hquote]⟩
      · cases hnext
    · next hfirst =>
      split at hnext
      · next hcomma =>
        rw [drop_bind] at hnext
        obtain ⟨v, c', t', hv, -, ht, hnext⟩ := of_peek hnext
        split at hnext
        · next hquote =>
          cases hnext
          exact .inl ⟨rfl, w, v, t', hw, hv, by simp [comma, hfirst, hs, hcomma, ht],
            by rw [hquote]⟩
        · cases hnext
      · cases hnext

end Scan

end GridRobot
