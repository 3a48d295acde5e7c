import GridRobot.Json.Decode
import GridRobot.Proofs.Json.AnyValue
import GridRobot.Proofs.Json.Forms
import GridRobot.Proofs.Json.RoundTrip

/-!
# Scans that read exactly the texts of values

* `Scan.Recognizes`: a scan reads the texts of values, each as its value, and nothing else;
* `Scan.Recognizes.decode_eq_ok_iff`: so does it with whole texts, with white space around them;
* `Scan.recognizes_coord`, `Scan.recognizes_distance`, `Scan.recognizes_boolean`,
  `Scan.recognizes_oneOf`: values that hold no other;
* `Scan.Recognizes.list`: arrays.
-/

namespace GridRobot

theorem Opens.length_pos {text : List Char} (h : Opens text) : 0 < text.length := by
  obtain ⟨c, s, rfl, -⟩ := h
  exact Nat.succ_pos _

namespace Scan

variable {α β : Type} {c : Char} {s text rest w : List Char} {n turns : Nat}

/-- The scan reads the texts of values, each as its value, and nothing else. -/
structure Recognizes (scan : Scan α) (P : α → List Char → Prop) : Prop where
  skipsBlank : SkipsBlank scan
  reads : ∀ {a text}, P a text → ∀ rest, EndsNumber rest → Reads scan text a rest
  sound : ∀ {n s a rest}, scan n s = .ok (a, rest) →
    ∃ w text, Blank w ∧ P a text ∧ s = w ++ (text ++ rest)
  isJson : ∀ a text, P a text → IsJson text

namespace Recognizes

variable {scan : Scan α} {P : α → List Char → Prop} {a : α}

/-- A text is read behind white space. -/
theorem eq_ok (h : Recognizes scan P) (ht : P a text) (hr : EndsNumber rest)
    (hn : text.length < n) (hw : Blank w) : scan n (w ++ (text ++ rest)) = .ok (a, rest) := by
  rw [h.skipsBlank n w _ hw, (h.reads ht rest hr).eq hn]

/-- A whole text is read as a value exactly if it is one of its texts. -/
theorem decode_eq_ok_iff (h : Recognizes scan P) {text : String} :
    decode scan text = .ok a ↔ Padded (P a) text.toList := by
  unfold decode
  dsimp only
  constructor
  · intro hdecode
    split at hdecode
    · cases hdecode
    · next a' rest hscan =>
      split at hdecode
      · next hrest =>
        cases hdecode
        obtain ⟨w, t, hw, ht, hs⟩ := h.sound hscan
        exact ⟨w, t, rest, hw, ht, List.all_eq_true.1 hrest, hs⟩
      · cases hdecode
  · rintro ⟨w, t, w', hw, ht, hw', hs⟩
    have hr : EndsNumber (w' ++ []) := EndsNumber.blank nofun hw'
    rw [List.append_nil] at hr
    have hscan : scan (text.toList.length + 1) text.toList = .ok (a, w') := by
      rw [hs]
      exact h.eq_ok ht hr (by simp; omega) hw
    rw [hscan]
    dsimp only
    rw [if_pos (List.all_eq_true.2 hw')]

/-- White space does not stand at the beginning of a text. -/
theorem opens (h : Recognizes scan P) (ht : P a text) : Opens text := (h.reads ht [] nofun).opens

end Recognizes

/-! ### Integers -/

theorem toList_ofInt_neg {k : Nat} (hk : k ≠ 0) :
    (Decimal.ofInt (-(k : Int))).toList = '-' :: Nat.toDigits 10 k := by
  obtain ⟨k, rfl⟩ := Nat.exists_eq_succ_of_ne_zero hk
  change (Decimal.ofInt (.negSucc k)).toList = _
  rw [Decimal.ofInt, String.toList_append, Decimal.toList_ofNat]
  rfl

/-- An integer that is read is written in its shortest form. -/
theorem isInteger_of_integer {z : Int} (h : integer n s = .ok (z, rest)) :
    ∃ w, Blank w ∧ s = w ++ ((Decimal.ofInt z).toList ++ rest) := by
  obtain ⟨value, s', hnumeral, hz⟩ := of_bind h
  cases value with
  | real => cases hz
  | integer z' =>
    cases hz
    obtain ⟨w, c, t, hw, -, rfl, hnext⟩ := of_peek hnumeral
    split at hnext
    · next hc =>
      obtain ⟨k, ht, rfl, hk⟩ := digits_of_readNumber hnext
      refine ⟨w, hw, ?_⟩
      change t = _ at ht
      rw [if_pos rfl, toList_ofInt_neg (hk rfl), hc, ht, List.cons_append]
    split at hnext
    · obtain ⟨k, ht, rfl, -⟩ := digits_of_readNumber hnext
      refine ⟨w, hw, ?_⟩
      rw [if_neg Bool.false_ne_true, ht]
      change _ = w ++ ((Decimal.ofNat k).toList ++ rest)
      rw [Decimal.toList_ofNat]
    · cases hnext

/-- A range of integers is recognized, given how its members are written and read. -/
theorem recognizes_integer_bind {f : Int → Scan α} {val : α → Int}
    (hval : ∀ a, (val a).natAbs < 18446744073709551616)
    (hf : ∀ a, f (val a) = pure a)
    (hsound : ∀ z n s a rest, f z n s = .ok (a, rest) → val a = z ∧ s = rest) :
    Recognizes (integer >>= f) fun a => IsInteger (val a) where
  skipsBlank := (skipsBlank_peek.bind _).bind _ |>.bind _
  reads := by
    rintro a text rfl rest hr
    rw [← Json.compact_num]
    exact integer_bind (hf a) (hval a) hr
  sound := by
    intro n s a rest h
    obtain ⟨z, s', hz, ha⟩ := of_bind h
    obtain ⟨hza, rfl⟩ := hsound z n s' a rest ha
    obtain ⟨w, hw, hs⟩ := isInteger_of_integer hz
    exact ⟨w, _, hw, rfl, hza ▸ hs⟩
  isJson _ _ h := h.isJson

theorem recognizes_coord : Recognizes coord fun c => IsInteger c.val := by
  refine recognizes_integer_bind (fun c => ?_) (fun c => ?_) fun z n s c rest h => ?_
  · have hlower := c.lower
    have hupper := c.upper
    omega
  · rw [Coord.ofInt?_val]
    rfl
  · cases hz : Coord.ofInt? z with
    | none =>
      rw [hz] at h
      cases h
    | some c' =>
      rw [hz] at h
      cases h
      exact ⟨Coord.ofInt?_eq_some_iff.1 hz, rfl⟩

theorem recognizes_distance : Recognizes distance fun d => IsInteger d.1 := by
  refine recognizes_integer_bind (fun d => ?_) (fun d => dif_pos d.2) fun z n s d rest h => ?_
  · have hle := d.2.2
    omega
  · split at h
    · next hz =>
      cases h
      exact ⟨Int.toNat_of_nonneg (by omega), rfl⟩
    · cases h

/-! ### Truth values and names -/

theorem recognizes_boolean : Recognizes boolean IsBool where
  skipsBlank := skipsBlank_peek.bind _
  reads := by
    rintro b text rfl rest -
    cases b
    · exact ⟨⟨'f', _, rfl, rfl, by decide⟩, fun _ => rfl⟩
    · exact ⟨⟨'t', _, rfl, rfl, by decide⟩, fun _ => rfl⟩
  sound := by
    intro n s b rest h
    obtain ⟨w, c, t, hw, -, rfl, hnext⟩ := of_peek h
    split at hnext
    · rw [drop_bind] at hnext
      obtain ⟨⟨⟩, s', hword, hb⟩ := of_bind hnext
      cases hb
      rw [skipLexeme_eq_ok_iff, literal_eq_ok_iff] at hword
      exact ⟨w, _, hw, rfl, by rw [hword]; rfl⟩
    · rw [drop_bind] at hnext
      obtain ⟨⟨⟩, s', hword, hb⟩ := of_bind hnext
      cases hb
      rw [skipLexeme_eq_ok_iff, literal_eq_ok_iff] at hword
      exact ⟨w, _, hw, rfl, by rw [hword]; rfl⟩
    · cases hnext
  isJson _ _ h := h.isJson

theorem null_eq_ok_iff :
    null n s = .ok ((), rest) ↔ ∃ w, Blank w ∧ s = w ++ ("null".toList ++ rest) := by
  constructor
  · intro h
    obtain ⟨w, c, t, hw, -, rfl, hnext⟩ := of_peek h
    split at hnext
    · rw [drop_bind, skipLexeme_eq_ok_iff, literal_eq_ok_iff] at hnext
      exact ⟨w, hw, by rw [hnext]; rfl⟩
    · cases hnext
  · rintro ⟨w, hw, rfl⟩
    have hblank : SkipsBlank null := skipsBlank_peek.bind _
    rw [hblank n w _ hw]
    rfl

section Names

variable {options : List α} {name : α → String}

/-- After the opening quote, the name of an option is read as the option. -/
theorem nameOf_eq_ok_iff (hfind : ∀ a, (options.find? fun b => name b == name a) = some a) {a : α} :
    nameOf options name n s = .ok (a, rest) ↔
      ∃ body, Spells body (name a).toList ∧ s = body ++ '"' :: rest := by
  constructor
  · intro h
    obtain ⟨value, s', hvalue, ha⟩ := of_bind h
    obtain ⟨body, hbody, rfl⟩ := unquote_eq_ok_iff.1 hvalue
    cases hfound : options.find? fun b => name b == value with
    | none =>
      rw [hfound] at ha
      cases ha
    | some a' =>
      rw [hfound] at ha
      cases ha
      have hname : name a = value := by simpa using List.find?_some hfound
      exact ⟨body, hname ▸ hbody, rfl⟩
  · rintro ⟨body, hbody, rfl⟩
    have hvalue : lexeme (unquote []) n (body ++ '"' :: rest) = .ok (name a, rest) :=
      unquote_eq_ok_iff.2 ⟨body, hbody, rfl⟩
    rw [nameOf, bind_eq hvalue, hfind a]
    rfl

/-- The name, the colon, the value and the end of an object with one of the given names only. -/
def onlyName (options : List α) (name : α → String) : Scan α := do
  expect '"'
  let a ← nameOf options name
  expect ':'
  null
  expect '\x7d'
  return a

theorem expect_then (c : Char) (scan : Scan α) : (expect c >>= fun _ => scan) =
    peek >>= fun c' => if c' = c then drop >>= fun _ => scan else fail .malformed := by
  rw [expect, bind_assoc]
  congr 1
  funext c'
  split
  · rfl
  · rfl

theorem oneOf_brace : oneOf options name n ('\x7b' :: s) = onlyName options name n s := by
  rw [onlyName, expect_then]
  rfl

/-- An object with one name only is read as the option that has the name. -/
theorem onlyName_eq_ok_iff (hfind : ∀ a, (options.find? fun b => name b == name a) = some a)
    {a : α} : onlyName options name n s = .ok (a, rest) ↔
      ∃ key value, Padded (Names (name a)) key ∧ Padded (fun text => text = "null".toList) value ∧
        s = memberOf key value ++ '\x7d' :: rest := by
  constructor
  · intro h
    obtain ⟨⟨⟩, s₁, hquote, h⟩ := of_bind h
    obtain ⟨a', s₂, hname, h⟩ := of_bind h
    obtain ⟨⟨⟩, s₃, hcolon, h⟩ := of_bind h
    obtain ⟨⟨⟩, s₄, hnull, h⟩ := of_bind h
    obtain ⟨⟨⟩, s₅, hend, h⟩ := of_bind h
    cases h
    obtain ⟨w, hw, rfl⟩ := (expect_eq_ok_iff rfl).1 hquote
    obtain ⟨body, hbody, rfl⟩ := (nameOf_eq_ok_iff hfind).1 hname
    obtain ⟨w', hw', rfl⟩ := (expect_eq_ok_iff rfl).1 hcolon
    obtain ⟨v, hv, rfl⟩ := null_eq_ok_iff.1 hnull
    obtain ⟨v', hv', rfl⟩ := (expect_eq_ok_iff rfl).1 hend
    exact ⟨_, _, ⟨w, inQuotes body, w', hw, ⟨body, hbody, rfl⟩, hw', rfl⟩,
      ⟨v, _, v', hv, rfl, hv', rfl⟩, by simp [memberOf, inQuotes]⟩
  · rintro ⟨key, value, ⟨w, t, w', hw, ⟨body, hbody, rfl⟩, hw', rfl⟩, ⟨v, t, v', hv, rfl, hv', rfl⟩,
      rfl⟩
    have hquote : expect '"' n (memberOf (w ++ (inQuotes body ++ w'))
        (v ++ ("null".toList ++ v')) ++ '\x7d' :: rest) = .ok ((), body ++ '"' ::
          (w' ++ ':' :: (v ++ ("null".toList ++ (v' ++ '\x7d' :: rest))))) :=
      (expect_eq_ok_iff rfl).2 ⟨w, hw, by simp [memberOf, inQuotes]⟩
    rw [onlyName, bind_eq hquote, bind_eq ((nameOf_eq_ok_iff hfind).2 ⟨body, hbody, rfl⟩),
      bind_eq ((expect_eq_ok_iff rfl).2 ⟨w', hw', rfl⟩), bind_eq (null_eq_ok_iff.2 ⟨v, hv, rfl⟩),
      bind_eq ((expect_eq_ok_iff rfl).2 ⟨v', hv', rfl⟩)]
    rfl

/-- A name is read from a string, and from an object that has it as its only name. -/
theorem recognizes_oneOf (hfind : ∀ a, (options.find? fun b => name b == name a) = some a) :
    Recognizes (oneOf options name) fun a => IsName (name a) where
  skipsBlank := skipsBlank_peek.bind _
  reads := by
    intro a text ht rest _
    cases ht with
    | string ht =>
      obtain ⟨body, hbody, rfl⟩ := ht
      refine ⟨⟨'"', _, rfl, rfl, by decide⟩, fun {n} _ => ?_⟩
      exact (nameOf_eq_ok_iff hfind).2 ⟨body, hbody, by simp⟩
    | @object key value hkey hvalue =>
      refine ⟨⟨'\x7b', _, rfl, rfl, by decide⟩, fun {n} _ => ?_⟩
      rw [enclosed_append, Open.opening, oneOf_brace, onlyName_eq_ok_iff hfind]
      exact ⟨key, value, hkey, hvalue, by simp [separated]⟩
  sound := by
    intro n s a rest h
    obtain ⟨w, c, t, hw, -, rfl, hnext⟩ := of_peek h
    split at hnext
    · rw [drop_bind] at hnext
      obtain ⟨body, hbody, rfl⟩ := (nameOf_eq_ok_iff hfind).1 hnext
      exact ⟨w, _, hw, .string ⟨body, hbody, rfl⟩, by simp [inQuotes]⟩
    · change oneOf options name n ('\x7b' :: t) = _ at hnext
      rw [oneOf_brace] at hnext
      obtain ⟨key, value, hkey, hvalue, rfl⟩ := (onlyName_eq_ok_iff hfind).1 hnext
      exact ⟨w, _, hw, .object hkey hvalue, by simp [enclosed, separated]⟩
    · cases hnext
  isJson _ _ h := h.isJson

end Names

/-! ### Arrays -/

theorem hasElement_opens (first : Bool) (hw : Blank w) (ht : Opens text) :
    hasElement first n (comma first ++ (w ++ (text ++ s))) = .ok (true, text ++ s) := by
  rw [hasElement_comma first hw]
  simpa [separated_cons, separated] using hasElement_part first [] ht

section Arrays

variable {element : Scan α} {P : α → List Char → Prop} {parts : List (List Char)} {as : List α}
  {first : Bool} {read : List α}

/-- The loop over an array reads one element in each turn. -/
theorem elements_parts (h : Recognizes element P)
    (hparts : List.Forall₂ (fun a part => Padded (P a) part) as parts) {b : List Char}
    (hb : Blank b) (hturns : (separated first parts).length < turns)
    (hn : (separated first parts).length < n) :
    elements element turns first read n (b ++ (separated first parts ++ ']' :: rest)) =
      .ok (read.reverse ++ as, rest) := by
  induction hparts generalizing turns first read b with
  | nil =>
    obtain ⟨turns, rfl⟩ := Nat.exists_eq_add_one_of_ne_zero (Nat.ne_zero_of_lt hturns)
    rw [elements, (skipsBlank_hasElement first).bind _ n b _ hb, separated, List.nil_append,
      bind_eq (hasElement_end first), List.append_nil]
    rfl
  | @cons a part as parts hpart _ ih =>
    obtain ⟨w, t, w', hw, ht, hw', rfl⟩ := hpart
    have hlen := length_separated_cons first (w ++ (t ++ w')) parts
    have hpos := (h.opens ht).length_pos
    simp only [List.length_append] at hlen
    obtain ⟨turns, rfl⟩ := Nat.exists_eq_add_one_of_ne_zero (Nat.ne_zero_of_lt hturns)
    have hend : EndsNumber (separated false parts ++ ']' :: rest) :=
      endsNumber_parts .array parts rest
    have hread := (h.reads ht _ (hend.blank hw')).eq (n := n) (by omega)
    have hassoc : separated first ((w ++ (t ++ w')) :: parts) ++ ']' :: rest =
        comma first ++ (w ++ (t ++ (w' ++ (separated false parts ++ ']' :: rest)))) := by
      simp [separated_cons]
    rw [elements, (skipsBlank_hasElement first).bind _ n b _ hb, hassoc,
      bind_eq (hasElement_opens first hw (h.opens ht)), if_pos rfl, bind_eq hread,
      ih hw' (by omega) (by omega)]
    simp

/-- What the loop over an array has read are the elements up to its end. -/
theorem of_elements (h : Recognizes element P)
    (helements : elements element turns first read n s = .ok (as, rest)) :
    ∃ b vs parts, Blank b ∧ List.Forall₂ (fun a part => Padded (P a) part) vs parts ∧
      as = read.reverse ++ vs ∧ s = b ++ (separated first parts ++ ']' :: rest) := by
  induction turns generalizing first read s with
  | zero => cases helements
  | succ turns ih =>
    obtain ⟨more, s', hmore, hnext⟩ := of_bind helements
    rcases of_hasElement hmore with ⟨rfl, w, v, hw, hv, rfl⟩ | ⟨rfl, w, t, hw, rfl, rfl⟩
    · rw [if_pos rfl] at hnext
      obtain ⟨a, s₂, ha, hothers⟩ := of_bind hnext
      obtain ⟨v', text, hv', htext, rfl⟩ := h.sound ha
      obtain ⟨b, vs, parts, hb, hparts, rfl, rfl⟩ := ih hothers
      exact ⟨w, a :: vs, _, hw, .cons ⟨v ++ v', text, b, hv.append hv', htext, hb, rfl⟩ hparts,
        by simp, by simp [separated_cons]⟩
    · cases hnext
      exact ⟨w, [], [], hw, .nil, by simp, by simp [separated]⟩

/-- An array is read as the list of the values of its elements. -/
theorem Recognizes.list (h : Recognizes element P) : Recognizes (Scan.list element) (IsList P) where
  skipsBlank := skipsBlank_peek.bind _
  reads := by
    intro as text ht rest _
    cases ht with
    | @empty w hw =>
      refine ⟨⟨'[', _, rfl, rfl, by decide⟩, fun {n} hn => ?_⟩
      have hread : elements element n true [] n (w ++ (separated true [] ++ ']' :: rest)) =
          .ok ([], rest) :=
        elements_parts h .nil hw (Nat.zero_lt_of_lt hn) (Nat.zero_lt_of_lt hn)
      simpa [enclosed, separated, list_bracket] using hread
    | @elements parts as hne hparts =>
      refine ⟨⟨'[', _, rfl, rfl, by decide⟩, fun {n} hn => ?_⟩
      have hlen : (separated true parts).length < n := (length_separated_lt _ parts).trans hn
      have hread : elements element n true [] n ([] ++ (separated true parts ++ ']' :: rest)) =
          .ok (as, rest) := elements_parts h hparts blank_nil hlen hlen
      simpa [enclosed, list_bracket] using hread
  sound := by
    intro n s as rest hlist
    obtain ⟨w, c, t, hw, -, rfl, hnext⟩ := of_peek hlist
    split at hnext
    · change elements element n true [] n t = _ at hnext
      obtain ⟨b, vs, parts, hb, hparts, rfl, rfl⟩ := of_elements h hnext
      cases hparts with
      | nil => exact ⟨w, _, hw, .empty hb, by simp [enclosed, separated]⟩
      | @cons a part as parts hpart hparts =>
        exact ⟨w, _, hw, .elements (List.cons_ne_nil _ _) (.cons (hpart.blank_append hb) hparts),
          by simp [enclosed, separated]⟩
    · cases hnext
  isJson _ _ hlist := hlist.isJson h.isJson

end Arrays

end Scan

end GridRobot
