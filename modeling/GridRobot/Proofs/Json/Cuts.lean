import GridRobot.Proofs.Json.RoundTrip

/-!
# JSON text that is cut off or goes on

The compact text of a value tells where it ends. Wherever it is cut off, the fault is that it ends
early. If anything but white space comes after it, it is malformed.

What is left of a number may be a number as well: a shorter one with the same sign, and not zero,
so that it is of the type that was asked for. Then the fault is found after it, because the array
or the object around it does not go on.

* `unquote_string_cut`, `literal_cut`, `ofInt_cut`: strings, words and numbers that are cut off;
* `Scan.Exhausts`: of any beginning of a text, a scan leaves nothing;
* `Scan.EndsEarly`: a scan rejects any beginning of a text other than all of it, because it ends
  early;
* `Scan.endsEarly_list`, `Layout.endsEarly_objectText`: arrays and records whose parts are
  exhausted;
* `Scan.Delimits`, `Scan.delimits_toJson`: whole texts.
-/

namespace GridRobot

variable {α β σ : Type}

/-! ### Beginnings of texts -/

/-- A beginning of two texts ends before the first one does, or has all of it. -/
theorem proper_or_eq_append {p s t : List α} (h : p <+: s ++ t) :
    (p <+: s ∧ p ≠ s) ∨ ∃ q, q <+: t ∧ p = s ++ q := by
  rcases List.prefix_or_prefix_of_prefix h (List.prefix_append s t) with hp | ⟨q, rfl⟩
  · by_cases heq : p = s
    · exact .inr ⟨[], List.nil_prefix, by simp [heq]⟩
    · exact .inl ⟨hp, heq⟩
  · exact .inr ⟨q, (List.prefix_append_right_inj s).1 h, rfl⟩

theorem prefix_of_prefix_concat {p s : List α} {a : α} (h : p <+: s ++ [a]) (hne : p ≠ s ++ [a]) :
    p <+: s :=
  (List.prefix_concat_iff.1 h).resolve_left hne

theorem eq_nil_of_prefix_singleton {p : List α} {a : α} (h : p <+: [a]) (hne : p ≠ [a]) : p = [] :=
  List.prefix_nil.1 (prefix_of_prefix_concat (s := []) h hne)

/-- A beginning of a part that may have a comma in front. -/
theorem prefix_comma_append_cons {first : Bool} {c : Char} {p s : List Char}
    (h : p <+: comma first ++ c :: s) :
    p = [] ∨ p = comma first ∨ ∃ q, q <+: s ∧ p = comma first ++ c :: q := by
  rcases proper_or_eq_append h with ⟨hcomma, hne⟩ | ⟨p, hp, rfl⟩
  · cases first
    · exact .inl (eq_nil_of_prefix_singleton hcomma hne)
    · exact .inl (List.prefix_nil.1 hcomma)
  · rcases List.prefix_cons_iff.1 hp with rfl | ⟨q, rfl, hq⟩
    · exact .inr (.inl (List.append_nil _))
    · exact .inr (.inr ⟨q, hq, rfl⟩)

theorem endsNumber_nil : EndsNumber [] := nofun

/-- What comes after a number may be cut off. -/
theorem endsNumber_of_prefix_separated {parts : List (List Char)} {p : List Char}
    (h : p <+: separated false parts) : EndsNumber p := by
  cases parts with
  | nil =>
    rw [List.prefix_nil.1 h]
    exact endsNumber_nil
  | cons part parts =>
    rcases List.prefix_cons_iff.1 h with rfl | ⟨q, rfl, -⟩
    · exact endsNumber_nil
    · exact endsNumber_cons rfl (by decide)

/-! ### Lexemes that are cut off -/

theorem utf8Size_digitChar : ∀ n < 0x20, (Nat.digitChar (n / 16)).utf8Size = 1 := by
  decide

/-- The cut is in the written form of a character. -/
theorem unquote_escapeChar_cut (read : List Char) {c : Char} {p : List Char}
    (h : p <+: Json.escapeChar c) (hne : p ≠ Json.escapeChar c) :
    unquote read p = .error .ended := by
  have hletter : ∀ {e}, p <+: ['\\', e] → p ≠ ['\\', e] → unquote read p = .error .ended := by
    intro e h hne
    have hback := prefix_of_prefix_concat (s := ['\\']) h hne
    simp only [List.prefix_cons_iff, List.prefix_nil] at hback
    rcases hback with rfl | ⟨_, rfl, rfl⟩
    · rfl
    · rfl
  unfold Json.escapeChar at h hne
  split_ifs at h hne with hquote hback hn hr ht hb hf hcontrol
  case pos | pos | pos | pos | pos | pos | pos => exact hletter h hne
  · -- fewer than four characters are left of the code unit
    have hunit := prefix_of_prefix_concat
      (s := ['\\', 'u', '0', '0', Nat.digitChar (c.toNat / 16)]) h hne
    have hzero : '0'.utf8Size = 1 := rfl
    have hdigit := utf8Size_digitChar c.toNat hcontrol
    simp only [List.prefix_cons_iff, List.prefix_nil] at hunit
    rcases hunit with
      rfl | ⟨_, rfl, rfl | ⟨_, rfl, rfl | ⟨_, rfl, rfl | ⟨_, rfl, rfl | ⟨_, rfl, rfl⟩⟩⟩⟩⟩
    · rfl
    · rfl
    · rfl
    · rfl
    · rfl
    · simp [unquote, cutUnit, hzero, hdigit]
  · rw [eq_nil_of_prefix_singleton h hne]
    rfl

theorem unquote_escaped_cut {read s p : List Char} (h : p <+: s.flatMap Json.escapeChar) :
    unquote read p = .error .ended := by
  induction s generalizing read p with
  | nil =>
    rw [List.prefix_nil.1 h]
    rfl
  | cons c s ih =>
    rw [List.flatMap_cons] at h
    rcases proper_or_eq_append h with ⟨h, hne⟩ | ⟨q, hq, rfl⟩
    · exact unquote_escapeChar_cut read h hne
    · rw [unquote_escapeChar, ih hq]

/-- A string without its closing quote is not read, whatever else is missing. -/
theorem unquote_string_cut {s : String} {p : List Char}
    (h : p <+: (Json.string s).toList.tail) (hne : p ≠ (Json.string s).toList.tail) :
    unquote [] p = .error .ended := by
  have htext : (Json.string s).toList.tail = s.toList.flatMap Json.escapeChar ++ ['"'] := by
    simp [Json.string]
  rw [htext] at h hne
  exact unquote_escaped_cut (prefix_of_prefix_concat h hne)

theorem literal_cut {word p : List Char} (h : p <+: word) :
    literal word p = .error .ended ∨ literal word p = .ok [] := by
  induction word generalizing p with
  | nil =>
    rw [List.prefix_nil.1 h]
    exact .inr rfl
  | cons w word ih =>
    rcases List.prefix_cons_iff.1 h with rfl | ⟨q, rfl, hq⟩
    · exact .inl rfl
    · rw [literal, if_pos rfl]
      exact ih hq

/-- The first digits of a number make a number that is no greater, and that is zero only if the
whole number is. -/
theorem toDigits_cut {k : Nat} {p : List Char} (h : p <+: Nat.toDigits 10 k) (hne : p ≠ []) :
    ∃ m, p = Nat.toDigits 10 m ∧ m ≤ k ∧ (k ≠ 0 → m ≠ 0) := by
  induction k using Nat.strongRecOn with
  | ind k ih =>
    by_cases heq : p = Nat.toDigits 10 k
    · exact ⟨k, heq, Nat.le_refl k, id⟩
    rw [Nat.toDigits_eq_if (by decide)] at h heq
    split at h
    · next hk =>
      rw [if_pos hk] at heq
      exact absurd (eq_nil_of_prefix_singleton h heq) hne
    · next hk =>
      rw [if_neg hk] at heq
      obtain ⟨m, rfl, hle, hzero⟩ := ih (k / 10) (by omega) (prefix_of_prefix_concat h heq)
      exact ⟨m, rfl, by omega, fun _ => hzero (by omega)⟩

/-- What is left of an integer that is cut off is nothing, its sign, or an integer between zero and
this one. -/
theorem ofInt_cut {z : Int} {p : List Char} (h : p <+: (Decimal.ofInt z).toList) :
    p = [] ∨ p = ['-'] ∨ ∃ z', p = (Decimal.ofInt z').toList ∧ min z 0 ≤ z' ∧ z' ≤ max z 0 ∧
      (z ≠ 0 → z' ≠ 0) := by
  by_cases hne : p = []
  · exact .inl hne
  cases z with
  | ofNat k =>
    rw [Decimal.ofInt, Decimal.toList_ofNat] at h
    obtain ⟨m, rfl, hle, hzero⟩ := toDigits_cut h hne
    refine .inr (.inr ⟨m, ?_, ?_⟩)
    · rw [← Decimal.toList_ofNat]
      rfl
    · simp only [Int.ofNat_eq_natCast]
      omega
  | negSucc k =>
    rw [Decimal.ofInt, String.toList_append, Decimal.toList_ofNat] at h
    change p <+: '-' :: Nat.toDigits 10 (k + 1) at h
    obtain ⟨q, rfl, hq⟩ := (List.prefix_cons_iff.1 h).resolve_left hne
    by_cases hq' : q = []
    · exact .inr (.inl (by rw [hq']))
    · obtain ⟨m, rfl, hle, hzero⟩ := toDigits_cut hq hq'
      obtain ⟨m, rfl⟩ := Nat.exists_eq_succ_of_ne_zero (hzero (Nat.succ_ne_zero k))
      refine .inr (.inr ⟨.negSucc m, ?_, ?_⟩)
      · rw [Decimal.ofInt, String.toList_append, Decimal.toList_ofNat]
        rfl
      · omega

/-! ### Scans of texts that are cut off -/

namespace Scan

/-- What a scan says of a text that it finds to end early, or of which it leaves nothing. -/
def Exhausted (outcome : Except Fault (α × List Char)) : Prop :=
  outcome = .error .ended ∨ ∃ a, outcome = .ok (a, [])

/-- Of any beginning of the text the scan leaves nothing. -/
def Exhausts (scan : Scan α) (text : List Char) : Prop :=
  ∀ ⦃p n⦄, p <+: text → p.length < n → Exhausted (scan n p)

/-- Any beginning of the text other than all of it is found to end early. -/
def EndsEarly (scan : Scan α) (text : List Char) : Prop :=
  ∀ ⦃p n⦄, p <+: text → p ≠ text → p.length < n → scan n p = .error .ended

variable {scan : Scan α} {f : α → Scan β} {a : α} {n : Nat} {s text p : List Char}

theorem bind_ended (h : scan n s = .error .ended) : (scan >>= f) n s = .error .ended := by
  change Except.bind (scan n s) _ = _
  rw [h]
  rfl

/-- If a scan leaves nothing, it is up to the next one to say so. -/
theorem Exhausted.bind_ended (h : Exhausted (scan n s)) (hf : ∀ a, f a n [] = .error .ended) :
    (scan >>= f) n s = .error .ended := by
  rcases h with h | ⟨a, h⟩
  · exact Scan.bind_ended h
  · rw [bind_eq h, hf]

theorem EndsEarly.exhausts (h : EndsEarly scan text) (hread : Reads scan text a []) :
    Exhausts scan text := by
  intro p n hp hn
  by_cases heq : p = text
  · subst heq
    exact .inr ⟨a, by simpa using hread.eq hn⟩
  · exact .inl (h hp heq hn)

theorem Exhausts.map (h : Exhausts scan text) (g : α → β) : Exhausts (g <$> scan) text := by
  intro p n hp hn
  rw [map_eq_pure_bind]
  rcases h hp hn with h | ⟨a, h⟩
  · exact .inl (bind_ended h)
  · exact .inr ⟨g a, by rw [bind_eq h]; rfl⟩

/-! ### Values that hold no other -/

theorem exhausts_integer_bind {f : Int → Scan α} {z : Int} (hz : z.natAbs < 18446744073709551616)
    (hf : ∀ z', min z 0 ≤ z' → z' ≤ max z 0 → (z ≠ 0 → z' ≠ 0) → ∃ a, f z' = pure a) :
    Exhausts (integer >>= f) (Json.num z).compact.toList := by
  intro p n hp hn
  rw [Json.compact_num] at hp
  rcases ofInt_cut hp with rfl | rfl | ⟨z', rfl, hlower, hupper, hzero⟩
  · exact .inl rfl
  · exact .inl rfl
  · obtain ⟨a, ha⟩ := hf z' hlower hupper hzero
    have hread := integer_bind ha (by omega) endsNumber_nil
    rw [← Json.compact_num] at hn ⊢
    exact .inr ⟨a, by simpa using hread.eq hn⟩

theorem exhausts_coord (c : Coord) : Exhausts coord (Json.num c.val).compact.toList := by
  have hlower := c.lower
  have hupper := c.upper
  refine exhausts_integer_bind (by omega) fun z' hl hu _ => ?_
  obtain ⟨c', rfl⟩ : ∃ c' : Coord, c'.val = z' := ⟨⟨z', by omega, by omega⟩, rfl⟩
  exact ⟨c', by rw [Coord.ofInt?_val]; rfl⟩

theorem exhausts_distance (k : { n : Nat // 0 < n ∧ n ≤ 4294967295 }) :
    Exhausts distance (Json.num k.1).compact.toList := by
  have hpos := k.2.1
  have hle := k.2.2
  refine exhausts_integer_bind (by omega) fun z' hl hu hzero => ⟨⟨z'.toNat, by omega⟩, ?_⟩
  exact dif_pos _

theorem exhausts_literal (word : List Char) : Exhausts (skipLexeme (literal word)) word := by
  intro p n hp _
  rcases literal_cut hp with h | h
  · exact .inl (by rw [skipLexeme, h]; rfl)
  · exact .inr ⟨(), by rw [skipLexeme, h]; rfl⟩

theorem exhausts_boolean (b : Bool) : Exhausts boolean (Json.bool b).compact.toList := by
  intro p n hp hn
  rw [Json.compact_bool] at hp
  cases b
  · rcases List.prefix_cons_iff.1 hp with rfl | ⟨q, rfl, hq⟩
    · exact .inl rfl
    · exact (exhausts_literal ['a', 'l', 's', 'e']).map (fun _ => false) hq (Nat.lt_of_succ_lt hn)
  · rcases List.prefix_cons_iff.1 hp with rfl | ⟨q, rfl, hq⟩
    · exact .inl rfl
    · exact (exhausts_literal ['r', 'u', 'e']).map (fun _ => true) hq (Nat.lt_of_succ_lt hn)

/-- The cut is in the name. -/
theorem endsEarly_oneOf (options : List α) (name : α → String) (s : String) :
    EndsEarly (oneOf options name) (Json.str s).compact.toList := by
  intro p n hp hne _
  rw [Json.compact_str, Json.toList_string] at hp hne
  rcases List.prefix_cons_iff.1 hp with rfl | ⟨q, rfl, hq⟩
  · rfl
  · rw [oneOf_quote, nameOf]
    exact bind_ended (unquote_string_cut hq fun h => hne (by rw [h]))

/-! ### Arrays -/

variable {element : Scan α} {parts : List (List Char)} {as : List α} {turns : Nat} {first : Bool}
  {read : List α}

theorem elements_nil : elements element turns first read n [] = .error .ended := by
  cases turns <;> rfl

theorem hasElement_cons (first : Bool) {c : Char} (s : List Char) (hc : isBlank c = false)
    (hend : c ≠ ']') : hasElement first n (comma first ++ c :: s) = .ok (true, c :: s) := by
  have h := hasElement_part (n := n) (s := []) first [] ⟨c, s, rfl, hc, hend⟩
  simpa [separated_cons, separated] using h

/-- The loop over an array finds the end, in an element, before one or after the last. -/
theorem elements_cut
    (h : List.Forall₂ (fun part a => ∀ rest, EndsNumber rest → Reads element part a rest) parts as)
    (hcut : ∀ part ∈ parts, Exhausts element part) (hp : p <+: separated first parts)
    (hn : p.length < n) : elements element turns first read n p = .error .ended := by
  induction h generalizing turns first read p with
  | nil =>
    rw [separated, List.prefix_nil] at hp
    rw [hp, elements_nil]
  | @cons part a parts as hpart _ ih =>
    obtain ⟨hcut, hcuts⟩ := List.forall_mem_cons.1 hcut
    obtain ⟨c, part', rfl, hc, hend⟩ := (hpart [] endsNumber_nil).opens
    cases turns with
    | zero => rfl
    | succ turns =>
      rw [elements]
      rw [separated_cons, List.cons_append] at hp
      rcases prefix_comma_append_cons hp with rfl | rfl | ⟨q, hq, rfl⟩
      · exact bind_ended rfl
      · exact bind_ended (by cases first <;> rfl)
      · rw [List.length_append, List.length_cons] at hn
        rw [bind_eq (hasElement_cons first q hc hend), if_pos rfl]
        have hq : c :: q <+: (c :: part') ++ separated false parts := (List.prefix_cons_inj c).2 hq
        -- a number may be read where an element is cut off, but nothing comes after it
        rcases proper_or_eq_append hq with ⟨hq, -⟩ | ⟨r, hr, heq⟩
        · exact (hcut hq (by rw [List.length_cons]; omega)).bind_ended fun _ => elements_nil
        · have hlen := congrArg List.length heq
          simp only [List.length_append, List.length_cons] at hlen
          rw [heq, bind_eq ((hpart r (endsNumber_of_prefix_separated hr)).eq
            (by rw [List.length_cons]; omega)), ih hcuts hr (by omega)]

/-- An array without its closing bracket is not read. -/
theorem endsEarly_list
    (h : List.Forall₂ (fun part a => ∀ rest, EndsNumber rest → Reads element part a rest) parts as)
    (hcut : ∀ part ∈ parts, Exhausts element part) :
    EndsEarly (list element) (arrayText parts) := by
  intro p n hp hne hn
  rcases List.prefix_cons_iff.1 hp with rfl | ⟨q, rfl, hq⟩
  · rfl
  · rw [list_bracket]
    rw [List.length_cons] at hn
    refine elements_cut h hcut (prefix_of_prefix_concat hq fun heq => hne ?_) (by omega)
    rw [arrayText, heq]

theorem endsEarly_compact_arr {toJson : α → Json}
    (h : ∀ a rest, Reads element (toJson a).compact.toList a rest)
    (hcut : ∀ a, EndsEarly element (toJson a).compact.toList) (as : List α) :
    EndsEarly (list element) (Json.arr (as.map toJson)).compact.toList := by
  rw [Json.toList_compact_arr, List.map_map]
  refine endsEarly_list (forall₂_reads h as) ?_
  rw [List.forall_mem_map]
  exact fun a _ => (hcut a).exhausts (h a [])

end Scan

/-! ### Records -/

namespace Layout

variable {l : Layout σ α} {st st' : σ} {members : List (String × List Char)} {a : α}
  {p : List Char} {turns n : Nat} {first : Bool}

/-- The member of a field whose scan leaves nothing of any beginning of its value. -/
def Exhausts (l : Layout σ α) (member : String × List Char) : Prop :=
  ∃ slot, (l.slots.find? fun slot => slot.name == member.1) = some slot ∧
    ∀ st, (slot.fill st).Exhausts member.2

theorem Exhausts.field {name : String} {get : σ → Option β} {set : σ → β → σ} {field : Scan β}
    {value : List Char}
    (hslot : (l.slots.find? fun slot => slot.name == name) = some (.of name get set field))
    (h : field.Exhausts value) : l.Exhausts (name, value) :=
  ⟨_, hslot, fun st => h.map (set st)⟩

theorem fillByName_nil : l.fillByName turns first st n [] = .error .ended := by
  cases turns <;> rfl

/-- The loop over an object finds the end, in a name, before the colon, in a value or between two
members. -/
theorem fillByName_cut (h : l.Fills st members st') (hcut : ∀ m ∈ members, l.Exhausts m)
    (hp : p <+: separated first (members.map memberText)) (hn : p.length < n) :
    l.fillByName turns first st n p = .error .ended := by
  induction h generalizing turns first p with
  | nil st =>
    rw [List.map_nil, separated, List.prefix_nil] at hp
    rw [hp, fillByName_nil]
  | @cons st st' st'' member members hmember _ ih =>
    obtain ⟨⟨slot, hslot, hcut⟩, hcuts⟩ := List.forall_mem_cons.1 hcut
    obtain ⟨name, value⟩ := member
    cases turns with
    | zero => rfl
    | succ turns =>
      rw [fillByName]
      rw [List.map_cons, separated_cons, Scan.memberText_append] at hp
      rcases prefix_comma_append_cons hp with rfl | rfl | ⟨q, hq, rfl⟩
      · exact Scan.bind_ended rfl
      · exact Scan.bind_ended (by cases first <;> rfl)
      rw [Scan.bind_eq (Scan.hasMember_quote first), if_pos rfl, Scan.drop_bind]
      rw [List.length_append, List.length_cons] at hn
      -- the member has its quote, so that the cut is in the name or after it
      rcases proper_or_eq_append hq with ⟨hname, hne⟩ | ⟨q, hcolon, rfl⟩
      · exact Scan.bind_ended (unquote_string_cut hname hne)
      rw [Scan.bind_eq (Scan.lexeme_unquote _), hslot]
      dsimp only
      cases hmember with
      | other hother _ => rw [hslot] at hother; cases hother
      | known hknown hfilled hread =>
        obtain rfl := Option.some.inj (hslot.symm.trans hknown)
        rw [hfilled, if_neg Bool.false_ne_true]
        rcases List.prefix_cons_iff.1 hcolon with rfl | ⟨q, rfl, hvalue⟩
        · rfl
        rw [Scan.expect_bind rfl]
        rw [List.length_append, List.length_cons] at hn
        rcases proper_or_eq_append hvalue with ⟨hvalue, -⟩ | ⟨q, hrest, rfl⟩
        · exact (hcut st hvalue (by omega)).bind_ended fun _ => fillByName_nil
        · rw [List.length_append] at hn
          rw [Scan.bind_eq ((hread q (endsNumber_of_prefix_separated hrest)).eq (by omega)),
            ih hcuts hrest (by omega)]

/-- An object without its closing brace is not read. -/
theorem endsEarly_objectText (h : l.Fills l.empty members st)
    (hcut : ∀ m ∈ members, l.Exhausts m) : l.scan.EndsEarly (objectText members) := by
  intro p n hp hne hn
  rcases List.prefix_cons_iff.1 hp with rfl | ⟨q, rfl, hq⟩
  · rfl
  · rw [List.length_cons] at hn
    rw [scan_brace]
    refine Scan.bind_ended (fillByName_cut h hcut
      (prefix_of_prefix_concat hq fun heq => hne ?_) (by omega))
    rw [objectText, heq]

theorem endsEarly_compact_obj {fields : List (String × Json)}
    (h : l.Fills l.empty (fields.map fun f => (f.1, f.2.compact.toList)) st)
    (hcut : fields.Forall fun f => l.Exhausts (f.1, f.2.compact.toList)) :
    l.scan.EndsEarly (Json.obj fields).compact.toList := by
  rw [Json.toList_compact_obj]
  exact endsEarly_objectText h (List.forall_mem_map.2 (List.forall_iff_forall_mem.1 hcut))

end Layout

/-! ### The types -/

namespace Scan

theorem endsEarly_direction (d : Direction) : EndsEarly direction d.toJson.compact.toList :=
  endsEarly_oneOf _ _ d.name

theorem endsEarly_severity (s : Severity) : EndsEarly severity s.toJson.compact.toList :=
  endsEarly_oneOf _ _ s.name

theorem endsEarly_sectionKind (k : SectionKind) :
    EndsEarly sectionKind k.toJson.compact.toList :=
  endsEarly_oneOf _ _ k.name

theorem endsEarly_position (p : Position) : EndsEarly position p.toJson.compact.toList :=
  Layout.endsEarly_compact_obj (fills_position p)
    ⟨.field rfl (exhausts_coord p.x), .field rfl (exhausts_coord p.y)⟩

theorem exhausts_position (p : Position) : Exhausts position p.toJson.compact.toList :=
  (endsEarly_position p).exhausts (reads_position p)

theorem endsEarly_bounds (b : Bounds) : EndsEarly bounds b.toJson.compact.toList :=
  Layout.endsEarly_compact_obj (fills_bounds b)
    ⟨.field rfl (exhausts_position b.min), .field rfl (exhausts_position b.max)⟩

theorem endsEarly_step (s : Step) : EndsEarly step s.toJson.compact.toList := by
  have hdirection := (endsEarly_direction s.direction).exhausts (reads_direction s.direction)
  have hdistance := exhausts_distance ⟨s.distance, s.pos, s.le⟩
  exact Layout.endsEarly_compact_obj (fills_step s) ⟨.field rfl hdirection, .field rfl hdistance⟩

theorem endsEarly_command (c : Command) : EndsEarly command c.toJson.compact.toList := by
  have hbounds := (endsEarly_bounds c.bounds).exhausts (reads_bounds c.bounds)
  have hsteps := (endsEarly_compact_arr (fun s _ => reads_step s) endsEarly_step c.steps).exhausts
    (reads_compact_arr (fun s _ => reads_step s) c.steps)
  exact Layout.endsEarly_compact_obj (fills_command c)
    ⟨.field rfl hbounds, .field rfl (exhausts_position c.start), .field rfl hsteps⟩

theorem endsEarly_traversal (t : Traversal) : EndsEarly traversal t.toJson.compact.toList := by
  have hpath := (endsEarly_compact_arr (fun p _ => reads_position p) endsEarly_position
    t.path).exhausts (reads_compact_arr (fun p _ => reads_position p) t.path)
  exact Layout.endsEarly_compact_obj (fills_traversal t)
    ⟨.field rfl (exhausts_boolean t.inBounds), .field rfl hpath⟩

/-! ### Whole texts -/

variable {scan : Scan α} {a : α} {text : String}

theorem decode_cut (h : EndsEarly scan text.toList) {p : String}
    (hp : p.toList <+: text.toList) (hne : p ≠ text) : decode scan p = .error .ended := by
  have hscan := h hp (fun heq => hne (String.toList_injective heq))
    (Nat.lt_succ_self p.toList.length)
  simp [decode, hscan]

theorem decode_append {w : String} (h : Reads scan text.toList a w.toList) :
    decode scan (text ++ w) = if w.toList.all isBlank then .ok a else .error .malformed := by
  have hscan : scan ((text ++ w).toList.length + 1) (text ++ w).toList = .ok (a, w.toList) := by
    rw [String.toList_append]
    exact h.eq (by rw [List.length_append]; omega)
  simp only [decode, hscan]

/-- The text has the value, also with white space after it. A text that lacks its end is rejected
because it ends early, and one with anything else after it because of its syntax. -/
structure Delimits (scan : Scan α) (a : α) (text : String) : Prop where
  cut : ∀ p : String, p.toList <+: text.toList → p ≠ text →
    (decode scan p).mapError Fault.category = .error "eof"
  padded : ∀ w : String, (∀ c ∈ w.toList, isBlank c = true) → decode scan (text ++ w) = .ok a
  overlong : ∀ w : String, (∃ c ∈ w.toList, isBlank c = false) →
    (decode scan (text ++ w)).mapError Fault.category = .error "syntax"

theorem delimits (hcut : EndsEarly scan text.toList)
    (hread : ∀ rest, Reads scan text.toList a rest) : Delimits scan a text where
  cut p hp hne := by
    rw [decode_cut hcut hp hne]
    rfl
  padded w hw := by
    rw [decode_append (hread w.toList), if_pos (List.all_eq_true.2 hw)]
  overlong w hw := by
    have hall : ¬ w.toList.all isBlank = true := by
      simpa [List.all_eq_true] using hw
    rw [decode_append (hread w.toList), if_neg hall]
    rfl

/-- **A text that is cut off or goes on is not mistaken for a value.** This holds for the compact
text of every value that can be read back. -/
theorem delimits_toJson :
    (∀ p : Position, Delimits position p p.toJson.compact) ∧
      (∀ b : Bounds, Delimits bounds b b.toJson.compact) ∧
      (∀ d : Direction, Delimits direction d d.toJson.compact) ∧
      (∀ s : Step, Delimits step s s.toJson.compact) ∧
      (∀ c : Command, Delimits command c c.toJson.compact) ∧
      (∀ s : Severity, Delimits severity s s.toJson.compact) ∧
      (∀ k : SectionKind, Delimits sectionKind k k.toJson.compact) ∧
      ∀ t : Traversal, Delimits traversal t t.toJson.compact :=
  ⟨fun p => delimits (endsEarly_position p) fun _ => reads_position p,
    fun b => delimits (endsEarly_bounds b) fun _ => reads_bounds b,
    fun d => delimits (endsEarly_direction d) fun _ => reads_direction d,
    fun s => delimits (endsEarly_step s) fun _ => reads_step s,
    fun c => delimits (endsEarly_command c) fun _ => reads_command c,
    fun s => delimits (endsEarly_severity s) fun _ => reads_severity s,
    fun k => delimits (endsEarly_sectionKind k) fun _ => reads_sectionKind k,
    fun t => delimits (endsEarly_traversal t) fun _ => reads_traversal t⟩

end Scan

end GridRobot
