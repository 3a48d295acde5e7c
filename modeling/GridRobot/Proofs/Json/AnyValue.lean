import GridRobot.Proofs.Json.Inversion

/-!
# Values that are skipped

The texts that are passed over as any value at all are those of the grammar.

* `Scan.Closes`: what is left of the containers that are open, from the inside out;
* `Scan.of_skipOpen`: what has been passed over is a value and the rest of all open containers;
* `Scan.IsPassed`, `IsJson.isPassed`: a value is passed over in no more turns than it has
  characters;
* `Scan.isJson_of_skipValue`, `Scan.skipValue_isJson`: a skipped value.
-/

namespace GridRobot

open Scan (Open isBlank)

variable {c : Char} {s t text rest w : List Char} {n turns : Nat}

namespace Scan

variable {o : Open} {within : List Open}

/-! ### What stands before a value -/

/-- Passes over what stands before a value in a container. -/
def Open.front : Open → Scan Unit
  | array => pure ()
  | object => skipName

theorem front_eq_ok_iff :
    o.front n s = .ok ((), rest) ↔ ∃ front, IsFront o front ∧ s = front ++ rest := by
  cases o with
  | array =>
    constructor
    · intro h
      cases h
      exact ⟨[], .array, rfl⟩
    · rintro ⟨front, ⟨⟩, rfl⟩
      rfl
  | object =>
    constructor
    · intro h
      obtain ⟨⟨⟩, s₁, hquote, h⟩ := of_bind h
      obtain ⟨⟨⟩, s₂, hbody, hcolon⟩ := of_bind h
      obtain ⟨w, hw, rfl⟩ := (expect_eq_ok_iff rfl).1 hquote
      obtain ⟨body, hisBody, rfl⟩ := skipString_eq_ok_iff.1 (skipLexeme_eq_ok_iff.1 hbody)
      obtain ⟨w', hw', rfl⟩ := (expect_eq_ok_iff rfl).1 hcolon
      refine ⟨_, .object ⟨w, inQuotes body, w', hw, ⟨body, hisBody, rfl⟩, hw', rfl⟩, ?_⟩
      simp [inQuotes]
    · rintro ⟨front, hfront, rfl⟩
      cases hfront with
      | object hkey =>
      obtain ⟨w, t, w', hw, ⟨body, hbody, rfl⟩, hw', rfl⟩ := hkey
      have hquote : expect '"' n (w ++ (inQuotes body ++ w') ++ [':'] ++ rest) =
          .ok ((), body ++ '"' :: (w' ++ ':' :: rest)) :=
        (expect_eq_ok_iff rfl).2 ⟨w, hw, by simp [inQuotes]⟩
      have hskip : skipLexeme skipString n (body ++ '"' :: (w' ++ ':' :: rest)) =
          .ok ((), w' ++ ':' :: rest) :=
        skipLexeme_eq_ok_iff.2 (skipString_eq_ok_iff.2 ⟨body, hbody, rfl⟩)
      change skipName n _ = _
      rw [skipName, bind_eq hquote, bind_eq hskip, expect_eq_ok_iff rfl]
      exact ⟨w', hw', rfl⟩

/-! ### Turns -/

/-- Passes over the inside of a container, and over what comes after it. -/
def skipInside (o : Open) (turns : Nat) (within : List Open) : Scan Unit := do
  if (← peek) = o.closing then
    drop
    skipOpen turns false within
  else
    o.front
    skipOpen turns true (o :: within)

theorem skipOpen_opening (o : Open) :
    skipOpen (turns + 1) true within n (o.opening :: s) = skipInside o turns within n s := by
  cases o with
  | array => rfl
  | object => rfl

theorem skipOpen_within (o : Open) : skipOpen (turns + 1) false (o :: within) =
    peek >>= fun c =>
      if c = ',' then drop >>= fun _ => o.front >>= fun _ => skipOpen turns true (o :: within)
      else if c = o.closing then drop >>= fun _ => skipOpen turns false within
      else fail .malformed := by
  cases o with
  | array => rfl
  | object => rfl

/-- White space before a value that is due, or before the next part of a container. -/
theorem skipsBlank_skipOpen (turns : Nat) (within : List Open) :
    SkipsBlank (skipOpen turns true within) := by
  cases turns with
  | zero => exact fun _ _ _ _ => rfl
  | succ turns => exact skipsBlank_peek.bind _

theorem skipsBlank_skipOpen_within (turns : Nat) (o : Open) (within : List Open) :
    SkipsBlank (skipOpen turns false (o :: within)) := by
  cases turns with
  | zero => exact fun _ _ _ _ => rfl
  | succ turns =>
    rw [skipOpen_within]
    exact skipsBlank_peek.bind _

theorem skipsBlank_front_bind (o : Open) (turns : Nat) (within : List Open) :
    SkipsBlank (o.front >>= fun _ => skipOpen turns true within) := by
  cases o with
  | array => exact skipsBlank_skipOpen turns within
  | object => exact ((skipsBlank_expect '"').bind _).bind _

/-! ### Values that hold no other -/

theorem skipOpen_atom (hc : isBlank c = false) (harray : c ≠ '[') (hobject : c ≠ '\x7b')
    (h : skipAtom c n (c :: s) = .ok ((), rest)) :
    skipOpen (turns + 1) true within n (c :: s) = skipOpen turns false within n rest := by
  rw [skipOpen, peek_bind hc, if_neg harray, if_neg hobject, bind_eq h]

theorem isJson_of_skipAtom (h : skipAtom c n (c :: s) = .ok ((), rest)) :
    ∃ t, IsJson t ∧ c :: s = t ++ rest := by
  unfold skipAtom at h
  split at h
  · exact ⟨_, .word (by simp), literal_eq_ok_iff.1 (skipLexeme_eq_ok_iff.1 h)⟩
  split at h
  · exact ⟨_, .word (by simp), literal_eq_ok_iff.1 (skipLexeme_eq_ok_iff.1 h)⟩
  split at h
  · exact ⟨_, .word (by simp), literal_eq_ok_iff.1 (skipLexeme_eq_ok_iff.1 h)⟩
  split at h
  · next hc =>
    rw [drop_bind] at h
    obtain ⟨t, ht, rfl⟩ := unsigned_of_skipNumber (skipLexeme_eq_ok_iff.1 h)
    exact ⟨'-' :: t, .number (.inr ⟨t, ht, rfl⟩), by rw [hc]; rfl⟩
  split at h
  · obtain ⟨t, ht, hs⟩ := unsigned_of_skipNumber (skipLexeme_eq_ok_iff.1 h)
    exact ⟨t, .number (.inl ht), hs⟩
  split at h
  · next hc =>
    rw [drop_bind] at h
    obtain ⟨body, hbody, rfl⟩ := skipString_eq_ok_iff.1 (skipLexeme_eq_ok_iff.1 h)
    exact ⟨inQuotes body, .string ⟨body, hbody, rfl⟩, by simp [hc, inQuotes]⟩
  · cases h

/-! ### What has been passed over -/

/-- What is left of the containers that are open, from the inside out, after a value. -/
inductive Closes : List Open → List Char → Prop
  | nil : Closes [] []
  | cons {o : Open} {within : List Open} {w text : List Char}
      {parts : List (List Char × List Char)} :
      Blank w → (∀ part ∈ parts, IsFront o part.1) → (∀ part ∈ parts, IsJson part.2) →
      Closes within text →
      Closes (o :: within)
        (w ++ (separated false (parts.map fun part => part.1 ++ part.2) ++ o.closing :: text))

theorem Closes.close (h : Closes within text) (o : Open) (hw : Blank w) :
    Closes (o :: within) (w ++ o.closing :: text) :=
  @Closes.cons o within w text [] hw (by simp) (by simp) h

/-- One more part, with the white space after it. -/
theorem Closes.next {front : List Char} (h : Closes (o :: within) text) (hw : Blank w)
    (hfront : IsFront o front) (ht : IsJson t) :
    Closes (o :: within) (w ++ ',' :: (front ++ (t ++ text))) := by
  cases h with
  | @cons _ _ w' text parts hw' hparts hparts' h =>
    have hnext := @Closes.cons o within w text ((front, t ++ w') :: parts) hw
      (List.forall_mem_cons.2 ⟨hfront, hparts⟩)
      (List.forall_mem_cons.2 ⟨ht.append_blank hw', hparts'⟩) h
    simpa [separated] using hnext

/-- What is left of the text when a value is due, and when none is. -/
def Remains (within : List Open) (text : List Char) : Bool → Prop
  | true => ∃ t text', IsJson t ∧ Closes within text' ∧ text = t ++ text'
  | false => Closes within text

/-- The parts of a container up to its end are a value. -/
theorem Closes.opening {front : List Char} (h : Closes (o :: within) text)
    (hfront : IsFront o front) (ht : IsJson t) :
    Remains within (o.opening :: (front ++ (t ++ text))) true := by
  cases h with
  | @cons _ _ w text parts hw hparts hparts' h =>
    have hvalue := @IsJson.container o ((front, t ++ w) :: parts) (by simp)
      (List.forall_mem_cons.2 ⟨hfront, hparts⟩)
      (List.forall_mem_cons.2 ⟨ht.append_blank hw, hparts'⟩)
    exact ⟨_, text, hvalue, h, by simp [enclosed, separated]⟩

/-- A container without parts is a value. -/
theorem Closes.opening_closing (h : Closes within text) (o : Open) (hw : Blank w) :
    Remains within (o.opening :: (w ++ o.closing :: text)) true :=
  ⟨_, text, .empty (o := o) hw, h, by simp [enclosed, separated]⟩

theorem Remains.blank_append (h : Remains within text true) (hw : Blank w) :
    Remains within (w ++ text) true := by
  obtain ⟨t, text', ht, htext, rfl⟩ := h
  exact ⟨w ++ (t ++ []), text', .padded hw ht blank_nil, htext, by simp⟩

variable {awaited : Bool}

theorem of_skipInside
    (hskip : ∀ {s within awaited}, skipOpen turns awaited within n s = .ok ((), rest) →
      ∃ text, Remains within text awaited ∧ s = text ++ rest)
    (h : skipInside o turns within n s = .ok ((), rest)) :
    ∃ text, Remains within text true ∧ o.opening :: s = text ++ rest := by
  obtain ⟨w, c, t, hw, -, rfl, hnext⟩ := of_peek h
  split at hnext
  · next hclosing =>
    rw [drop_bind] at hnext
    obtain ⟨text, htext, rfl⟩ := hskip hnext
    exact ⟨_, htext.opening_closing o hw, by simp [hclosing]⟩
  · -- the white space before the first part belongs to it
    rw [← skipsBlank_front_bind o turns (o :: within) n w _ hw] at hnext
    obtain ⟨⟨⟩, s', hs', hvalue⟩ := of_bind hnext
    obtain ⟨front, hfront, hs⟩ := front_eq_ok_iff.1 hs'
    obtain ⟨-, ⟨t', text, ht, htext, rfl⟩, rfl⟩ := hskip hvalue
    exact ⟨_, htext.opening hfront ht, by simp [hs]⟩

theorem of_skipOpen (h : skipOpen turns awaited within n s = .ok ((), rest)) :
    ∃ text, Remains within text awaited ∧ s = text ++ rest := by
  induction turns generalizing awaited within s with
  | zero => cases h
  | succ turns ih =>
    cases awaited with
    | true =>
      obtain ⟨w, c, t, hw, -, rfl, hnext⟩ := of_peek h
      have hpadded : ∀ text, Remains within text true → c :: t = text ++ rest →
          ∃ text, Remains within text true ∧ w ++ c :: t = text ++ rest :=
        fun text htext heq => ⟨w ++ text, htext.blank_append hw, by rw [heq, List.append_assoc]⟩
      split at hnext
      · next hc =>
        obtain ⟨text, htext, heq⟩ := of_skipInside (o := .array) ih hnext
        exact hpadded text htext (hc ▸ heq)
      split at hnext
      · next hc =>
        obtain ⟨text, htext, heq⟩ := of_skipInside (o := .object) ih hnext
        exact hpadded text htext (hc ▸ heq)
      · obtain ⟨⟨⟩, s', hatom, hnext⟩ := of_bind hnext
        obtain ⟨t', ht', heq⟩ := isJson_of_skipAtom hatom
        obtain ⟨text, htext, rfl⟩ := ih hnext
        exact hpadded _ ⟨t', text, ht', htext, rfl⟩ (by rw [heq, List.append_assoc])
    | false =>
      cases within with
      | nil =>
        cases h
        exact ⟨[], .nil, rfl⟩
      | cons o within =>
        rw [skipOpen_within] at h
        obtain ⟨w, c, t, hw, -, rfl, hnext⟩ := of_peek h
        split at hnext
        · next hcomma =>
          rw [drop_bind] at hnext
          obtain ⟨⟨⟩, s', hs', hvalue⟩ := of_bind hnext
          obtain ⟨front, hfront, rfl⟩ := front_eq_ok_iff.1 hs'
          obtain ⟨-, ⟨t, text, ht, htext, rfl⟩, rfl⟩ := ih hvalue
          exact ⟨_, htext.next hw hfront ht, by simp [hcomma]⟩
        split at hnext
        · next hclosing =>
          rw [drop_bind] at hnext
          obtain ⟨text, htext, rfl⟩ := ih hnext
          exact ⟨_, Closes.close htext o hw, by simp [hclosing]⟩
        · cases hnext

/-- What is skipped is a value. -/
theorem isJson_of_skipValue (h : skipValue n s = .ok ((), rest)) :
    ∃ text, IsJson text ∧ s = text ++ rest := by
  obtain ⟨-, ⟨text, -, htext, ⟨⟩, rfl⟩, rfl⟩ := of_skipOpen h
  exact ⟨text, htext, by simp⟩

/-! ### Passing over a value -/

/-- A text is passed over in no more turns than it has characters, up to white space at its end. -/
def IsPassed (text : List Char) : Prop :=
  ∃ turns w, turns ≤ text.length ∧ Blank w ∧ ∀ {left within n rest}, EndsNumber rest →
    skipOpen (left + turns) true within n (text ++ rest) = skipOpen left false within n (w ++ rest)

theorem isPassed_of_skipAtom (hc : isBlank c = false) (harray : c ≠ '[') (hobject : c ≠ '\x7b')
    (h : ∀ n rest, EndsNumber rest → skipAtom c n (c :: (t ++ rest)) = .ok ((), rest)) :
    IsPassed (c :: t) :=
  ⟨1, [], by simp, blank_nil, fun {_ _ n rest} hr => skipOpen_atom hc harray hobject (h n rest hr)⟩

theorem isPassed_word (h : text ∈ ["null".toList, "true".toList, "false".toList]) :
    IsPassed text := by
  simp only [List.mem_cons, List.not_mem_nil, or_false] at h
  rcases h with rfl | rfl | rfl
  · exact isPassed_of_skipAtom rfl (by decide) (by decide) fun _ _ _ => rfl
  · exact isPassed_of_skipAtom rfl (by decide) (by decide) fun _ _ _ => rfl
  · exact isPassed_of_skipAtom rfl (by decide) (by decide) fun _ _ _ => rfl

theorem isPassed_string (h : IsString text) : IsPassed text := by
  obtain ⟨body, hbody, rfl⟩ := h
  refine isPassed_of_skipAtom rfl (by decide) (by decide) fun n rest _ => ?_
  change skipLexeme skipString n (body ++ ['"'] ++ rest) = _
  exact skipLexeme_eq_ok_iff.2 (skipString_eq_ok_iff.2 ⟨body, hbody, by simp⟩)

theorem isPassed_number (h : IsNumber text) : IsPassed text := by
  rcases h with h | ⟨unsigned, h, rfl⟩
  · obtain ⟨c, s, hc, rfl⟩ := h.exists_digit
    refine isPassed_of_skipAtom (isBlank_of_isDigit hc) (ne_of_isDigit hc rfl)
      (ne_of_isDigit hc rfl) fun n rest hr => ?_
    rw [skipAtom, if_neg (ne_of_isDigit hc rfl), if_neg (ne_of_isDigit hc rfl),
      if_neg (ne_of_isDigit hc rfl), if_neg (ne_of_isDigit hc rfl), if_pos hc]
    exact skipLexeme_eq_ok_iff.2 (skipNumber_unsigned h hr)
  · refine isPassed_of_skipAtom rfl (by decide) (by decide) fun n rest hr => ?_
    change skipLexeme skipNumber n (unsigned ++ rest) = _
    exact skipLexeme_eq_ok_iff.2 (skipNumber_unsigned h hr)

end Scan

/-- After white space, a value begins with a character that ends no array. -/
theorem IsJson.opens (h : IsJson text) : ∃ w t, Blank w ∧ Opens t ∧ text = w ++ t := by
  induction h with
  | @word text h =>
    simp only [List.mem_cons, List.not_mem_nil, or_false] at h
    refine ⟨[], text, blank_nil, ?_, rfl⟩
    rcases h with rfl | rfl | rfl
    · exact ⟨_, _, rfl, rfl, by decide⟩
    · exact ⟨_, _, rfl, rfl, by decide⟩
    · exact ⟨_, _, rfl, rfl, by decide⟩
  | @number text h =>
    refine ⟨[], text, blank_nil, ?_, rfl⟩
    rcases h with h | ⟨unsigned, -, rfl⟩
    · obtain ⟨c, s, hc, rfl⟩ := h.exists_digit
      exact ⟨c, s, rfl, Scan.isBlank_of_isDigit hc, ne_of_isDigit hc rfl⟩
    · exact ⟨_, _, rfl, rfl, by decide⟩
  | @string text h =>
    obtain ⟨body, -, rfl⟩ := h
    exact ⟨[], _, blank_nil, ⟨_, _, rfl, rfl, by decide⟩, rfl⟩
  | @empty o w _ =>
    exact ⟨[], _, blank_nil, ⟨_, _, rfl, o.isBlank_opening, by cases o <;> decide⟩, rfl⟩
  | @container o parts _ _ _ _ =>
    exact ⟨[], _, blank_nil, ⟨_, _, rfl, o.isBlank_opening, by cases o <;> decide⟩, rfl⟩
  | @padded w text w' hw _ _ ih =>
    obtain ⟨v, t, hv, ⟨c, s, rfl, hc, hend⟩, rfl⟩ := ih
    exact ⟨w ++ v, c :: (s ++ w'), hw.append hv, ⟨c, _, rfl, hc, hend⟩, by simp⟩

namespace Scan

variable {o : Open} {within : List Open} {front : List Char}

/-- After white space, a part of a container begins with a character that does not end the
container. -/
theorem exists_first (hfront : IsFront o front) (ht : IsJson t) (rest : List Char) :
    ∃ w c s, Blank w ∧ isBlank c = false ∧ c ≠ o.closing ∧
      front ++ (t ++ rest) = w ++ c :: s := by
  cases hfront with
  | array =>
    obtain ⟨w, t, hw, ⟨c, s, rfl, hc, hend⟩, rfl⟩ := ht.opens
    exact ⟨w, c, s ++ rest, hw, hc, hend, by simp⟩
  | object hkey =>
    obtain ⟨w, text, w', hw, ⟨body, -, rfl⟩, -, rfl⟩ := hkey
    exact ⟨w, '"', body ++ '"' :: (w' ++ ':' :: (t ++ rest)), hw, rfl, by decide,
      by simp [inQuotes]⟩

theorem skipInside_part (hfront : IsFront o front) (ht : IsJson t) :
    skipInside o turns within n (front ++ (t ++ rest)) =
      skipOpen turns true (o :: within) n (t ++ rest) := by
  obtain ⟨w, c, s, hw, hc, hclosing, hs⟩ := exists_first hfront ht rest
  rw [skipInside, hs, skipsBlank_peek.bind _ n w _ hw, peek_bind hc, if_neg hclosing,
    ← skipsBlank_front_bind o turns (o :: within) n w _ hw, ← hs]
  exact bind_eq (front_eq_ok_iff.2 ⟨front, hfront, rfl⟩)

theorem skipInside_closing (hw : Blank w) :
    skipInside o turns within n (w ++ o.closing :: rest) =
      skipOpen turns false within n rest := by
  rw [skipInside, skipsBlank_peek.bind _ n w _ hw, peek_bind o.isBlank_closing, if_pos rfl,
    drop_bind]

theorem skipOpen_comma (hfront : IsFront o front) :
    skipOpen (turns + 1) false (o :: within) n (',' :: (front ++ s)) =
      skipOpen turns true (o :: within) n s := by
  rw [skipOpen_within, peek_bind rfl, if_pos rfl, drop_bind]
  exact bind_eq (front_eq_ok_iff.2 ⟨front, hfront, rfl⟩)

theorem skipOpen_closing (o : Open) (s : List Char) :
    skipOpen (turns + 1) false (o :: within) n (o.closing :: s) =
      skipOpen turns false within n s := by
  have hcomma : o.closing ≠ ',' := by cases o <;> decide
  rw [skipOpen_within]
  change (peek >>= _) n (o.closing :: s) = _
  rw [peek_bind o.isBlank_closing, if_neg hcomma, if_pos rfl, drop_bind]

theorem endsNumber_parts (o : Open) (parts : List (List Char)) (rest : List Char) :
    EndsNumber (separated false parts ++ o.closing :: rest) :=
  endsNumber_separated parts rest (by cases o <;> decide)

/-- The parts after the first one are passed over, and so is the end of the container. -/
theorem skipOpen_parts {parts : List (List Char × List Char)}
    (hfront : ∀ part ∈ parts, IsFront o part.1) (hvalue : ∀ part ∈ parts, IsPassed part.2) :
    ∃ turns ≤ (separated false (parts.map fun part => part.1 ++ part.2)).length + 1,
      ∀ {left within n rest w}, Blank w →
        skipOpen (left + turns) false (o :: within) n
            (w ++ (separated false (parts.map fun part => part.1 ++ part.2) ++
              o.closing :: rest)) =
          skipOpen left false within n rest := by
  induction parts with
  | nil =>
    refine ⟨1, by simp, fun {left within n rest w} hw => ?_⟩
    rw [skipsBlank_skipOpen_within _ o within n w _ hw]
    exact skipOpen_closing o rest
  | cons part parts ih =>
    obtain ⟨hfront, hfronts⟩ := List.forall_mem_cons.1 hfront
    obtain ⟨⟨turns₁, v, hturns₁, hv, hpassed⟩, hvalues⟩ := List.forall_mem_cons.1 hvalue
    obtain ⟨turns₂, hturns₂, hparts⟩ := ih hfronts hvalues
    refine ⟨turns₂ + turns₁ + 1, ?_, fun {left within n rest w} hw => ?_⟩
    · simp only [List.map_cons, separated, List.length_cons, List.length_append]
      omega
    · rw [skipsBlank_skipOpen_within _ o within n w _ hw, List.map_cons, separated,
        List.cons_append, List.append_assoc, List.append_assoc, ← Nat.add_assoc, ← Nat.add_assoc,
        skipOpen_comma hfront, hpassed (endsNumber_parts o _ rest), hparts hv]

theorem isPassed_container {parts : List (List Char × List Char)} (hne : parts ≠ [])
    (hfront : ∀ part ∈ parts, IsFront o part.1) (hjson : ∀ part ∈ parts, IsJson part.2)
    (hvalue : ∀ part ∈ parts, IsPassed part.2) :
    IsPassed (enclosed o (parts.map fun part => part.1 ++ part.2)) := by
  obtain ⟨part, parts, rfl⟩ := List.exists_cons_of_ne_nil hne
  obtain ⟨hfront, hfronts⟩ := List.forall_mem_cons.1 hfront
  obtain ⟨⟨turns₁, v, hturns₁, hv, hpassed⟩, hvalues⟩ := List.forall_mem_cons.1 hvalue
  obtain ⟨turns₂, hturns₂, hparts⟩ := skipOpen_parts hfronts hvalues
  refine ⟨turns₂ + turns₁ + 1, [], ?_, blank_nil, fun {left within n rest} hr => ?_⟩
  · simp only [enclosed, List.map_cons, separated, List.length_cons, List.length_append]
    omega
  · rw [enclosed_append, List.map_cons, separated, List.append_assoc, List.append_assoc,
      ← Nat.add_assoc, ← Nat.add_assoc, skipOpen_opening,
      skipInside_part hfront (hjson part List.mem_cons_self),
      hpassed (endsNumber_parts o _ rest), hparts hv, List.nil_append]

end Scan

/-- Every value is passed over. -/
theorem IsJson.isPassed (h : IsJson text) : Scan.IsPassed text := by
  induction h with
  | word h => exact Scan.isPassed_word h
  | number h => exact Scan.isPassed_number h
  | string h => exact Scan.isPassed_string h
  | @empty o w hw =>
    refine ⟨1, [], by simp [enclosed], blank_nil, fun {left within n rest} _ => ?_⟩
    rw [enclosed_append, separated, separated, List.append_nil, Scan.skipOpen_opening]
    exact Scan.skipInside_closing hw
  | container hne hfront hjson ih => exact Scan.isPassed_container hne hfront hjson ih
  | @padded w text w' hw _ hw' ih =>
    obtain ⟨turns, v, hturns, hv, hpassed⟩ := ih
    refine ⟨turns, v ++ w', ?_, hv.append hw', fun {left within n rest} hr => ?_⟩
    · simp only [List.length_append]
      omega
    · rw [List.append_assoc, Scan.skipsBlank_skipOpen _ within n w _ hw, List.append_assoc,
        hpassed (hr.blank hw'), List.append_assoc]

namespace Scan

/-- Every value is skipped, up to white space at its end. -/
theorem skipValue_isJson (h : IsJson text) (hr : EndsNumber rest) (hn : text.length < n) :
    ∃ w, Blank w ∧ skipValue n (text ++ rest) = .ok ((), w ++ rest) := by
  obtain ⟨turns, w, hturns, hw, hpassed⟩ := h.isPassed
  obtain ⟨left, rfl⟩ : ∃ left, n = left + 1 + turns := ⟨n - turns - 1, by omega⟩
  refine ⟨w, hw, ?_⟩
  change skipOpen (left + 1 + turns) true [] _ _ = _
  rw [hpassed hr]
  rfl

end Scan

end GridRobot
