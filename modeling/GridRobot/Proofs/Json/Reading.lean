import GridRobot.Json.Record
import GridRobot.Proofs.Json.Lexemes
import Mathlib.Data.List.Forall2

/-!
# Reading what was written

A scan that meets the compact text of a value reads the value and leaves what comes after it.
This is shown part by part: for values that hold no other, for the elements of an array and for
the members of an object.

* `separated`, `arrayText`, `objectText`: the texts of arrays and objects, made from the texts of
  their parts;
* `Scan.Reads`: a text is read as a value before a given rest. Only for a number it matters what
  the rest is (`EndsNumber`);
* `Scan.reads_numeral`, `Scan.reads_boolean`, `Scan.reads_oneOf`: values that hold no other;
* `Scan.reads_list`: an array whose elements are read is read as the list of their values;
* `Layout.Fills`, `Layout.reads_objectText`: members that fill all slots of a record are read as
  the record.
-/

namespace GridRobot

variable {α β σ : Type}

/-! ### The texts of arrays and objects -/

/-- Parts with a comma before each, except where no part has come before. -/
def separated : Bool → List (List Char) → List Char
  | _, [] => []
  | true, part :: parts => part ++ separated false parts
  | false, part :: parts => ',' :: (part ++ separated false parts)

/-- The comma before a part, which the first part does not have. -/
def comma (first : Bool) : List Char := if first then [] else [',']

theorem separated_cons (first : Bool) (part : List Char) (parts : List (List Char)) :
    separated first (part :: parts) = comma first ++ (part ++ separated false parts) := by
  cases first <;> rfl

theorem separated_true (parts : List (List Char)) :
    separated true parts = [','].intercalate parts := by
  cases parts with
  | nil => rfl
  | cons part parts =>
    induction parts generalizing part with
    | nil => simp [separated]
    | cons part' parts ih =>
      rw [List.intercalate_cons_cons, ← ih part']
      simp [separated]

theorem length_separated_cons (first : Bool) (part : List Char) (parts : List (List Char)) :
    part.length + (separated false parts).length ≤ (separated first (part :: parts)).length := by
  cases first <;> simp [separated]

theorem endsNumber_separated {c : Char} (parts : List (List Char)) (rest : List Char)
    (hc : c ∈ [']', '\x7d']) : EndsNumber (separated false parts ++ c :: rest) := by
  cases parts with
  | nil =>
    simp only [List.mem_cons, List.not_mem_nil, or_false] at hc
    rcases hc with rfl | rfl
    · exact endsNumber_cons rfl (by decide)
    · exact endsNumber_cons rfl (by decide)
  | cons part parts => exact endsNumber_cons rfl (by decide)

/-- An array with the given texts as its elements. -/
def arrayText (parts : List (List Char)) : List Char := '[' :: (separated true parts ++ [']'])

/-- A member of an object with the given text as its value. -/
def memberText (member : String × List Char) : List Char :=
  (Json.string member.1).toList ++ ':' :: member.2

/-- An object with the given texts as its values. -/
def objectText (members : List (String × List Char)) : List Char :=
  '\x7b' :: (separated true (members.map memberText) ++ ['\x7d'])

namespace Json

theorem toList_string (s : String) : (string s).toList = '"' :: (string s).toList.tail := by
  simp [string]

@[simp] theorem compact_bool (b : Bool) : (bool b).compact = (bool b).atom := by
  rw [compact] <;> simp

@[simp] theorem compact_num (z : Int) : (num z).compact = Decimal.ofInt z := by
  rw [compact] <;> simp [atom]

@[simp] theorem compact_str (s : String) : (str s).compact = string s := by
  rw [compact] <;> simp [atom]

theorem toList_compact_arr (items : List Json) :
    (arr items).compact.toList = arrayText (items.map fun v => v.compact.toList) := by
  rw [compact, arrayText, separated_true]
  simp [String.toList_intercalate, Function.comp_def]

theorem toList_compact_obj (fields : List (String × Json)) :
    (obj fields).compact.toList =
      objectText (fields.map fun f => (f.1, f.2.compact.toList)) := by
  rw [compact, objectText, separated_true]
  simp [String.toList_intercalate, Function.comp_def, memberText]

end Json

/-! ### What a scan reads -/

/-- Text that begins with neither white space nor the end of an array. -/
def Opens (text : List Char) : Prop :=
  ∃ c s, text = c :: s ∧ Scan.isBlank c = false ∧ c ≠ ']'

namespace Scan

/-- A text that is read as a value if the given rest comes after it. Loops need no more turns than
there are characters in the text. -/
structure Reads (scan : Scan α) (text : List Char) (a : α) (rest : List Char) : Prop where
  opens : Opens text
  eq : ∀ {n}, text.length < n → scan n (text ++ rest) = .ok (a, rest)

variable {scan : Scan α} {f : α → Scan β} {a : α} {c : Char} {n : Nat} {s s' text rest : List Char}

theorem bind_eq (h : scan n s = .ok (a, s')) : (scan >>= f) n s = f a n s' := by
  change Except.bind (scan n s) _ = _
  rw [h]
  rfl

theorem peek_cons (hc : isBlank c = false) : peek n (c :: s) = .ok (c, c :: s) := by
  simp [peek, hc]

theorem peek_bind (hc : isBlank c = false) {f : Char → Scan α} :
    (peek >>= f) n (c :: s) = f c n (c :: s) :=
  bind_eq (peek_cons hc)

theorem drop_bind {f : Unit → Scan α} : (drop >>= f) n (c :: s) = f () n s := rfl

theorem expect_bind (hc : isBlank c = false) {f : Unit → Scan α} :
    (expect c >>= f) n (c :: s) = f () n s := by
  refine bind_eq ?_
  rw [expect, peek_bind hc, if_pos rfl]
  rfl

theorem Reads.map (h : Reads scan text a rest) (g : α → β) :
    Reads (g <$> scan) text (g a) rest where
  opens := h.opens
  eq hn := by
    rw [map_eq_pure_bind, bind_eq (h.eq hn)]
    rfl

/-- A text that is read as a value, with nothing else in it, has this value. -/
theorem decode_of_reads {text : String} (h : Reads scan text.toList a []) :
    decode scan text = .ok a := by
  have hscan := h.eq (Nat.lt_add_one text.toList.length)
  rw [List.append_nil] at hscan
  simp [decode, hscan]

/-! ### Values that hold no other -/

theorem isBlank_of_isDigit (hc : c.isDigit = true) : isBlank c = false := by
  simp only [isBlank, Bool.or_eq_false_iff, beq_eq_false_iff_ne]
  refine ⟨⟨⟨?_, ?_⟩, ?_⟩, ?_⟩ <;> rintro rfl <;> cases hc

theorem reads_natural {k : Nat} (hk : k < 18446744073709551616) (hr : EndsNumber rest) :
    Reads numeral (Nat.toDigits 10 k) (.integer k) rest := by
  obtain ⟨c, ds, hds⟩ := List.exists_cons_of_ne_nil (Nat.toDigits_ne_nil (n := k) (b := 10))
  have hc : c.isDigit = true :=
    Nat.isDigit_of_mem_toDigits (n := k) (b := 10) (by decide) (by decide) (by simp [hds])
  have hminus : c ≠ '-' := by rintro rfl; cases hc
  refine ⟨⟨c, ds, hds, isBlank_of_isDigit hc, by rintro rfl; cases hc⟩, fun {n} _ => ?_⟩
  have hread : readNumber false (Nat.toDigits 10 k ++ rest) = .ok (.integer k, rest) :=
    readNumber_toDigits hk nofun hr
  rw [hds] at hread ⊢
  rw [numeral, List.cons_append, peek_bind (isBlank_of_isDigit hc), if_neg hminus, if_pos hc]
  exact hread

theorem reads_negative {k : Nat} (hk : k < 18446744073709551616) (hne : k ≠ 0)
    (hr : EndsNumber rest) : Reads numeral ('-' :: Nat.toDigits 10 k) (.integer (-k)) rest := by
  refine ⟨⟨'-', _, rfl, rfl, by decide⟩, fun {n} _ => ?_⟩
  rw [numeral, List.cons_append, peek_bind rfl, if_pos rfl, drop_bind]
  exact readNumber_toDigits hk (fun _ => hne) hr

/-- An integer of less than 64 bits is read back as it was written. -/
theorem reads_numeral {z : Int} (hz : z.natAbs < 18446744073709551616) (hr : EndsNumber rest) :
    Reads numeral (Json.num z).compact.toList (.integer z) rest := by
  rw [Json.compact_num]
  cases z with
  | ofNat k =>
    rw [Decimal.ofInt, Decimal.toList_ofNat]
    exact reads_natural hz hr
  | negSucc k =>
    rw [Decimal.ofInt, String.toList_append, Decimal.toList_ofNat]
    exact reads_negative hz (Nat.succ_ne_zero k) hr

theorem reads_boolean (b : Bool) : Reads boolean (Json.bool b).compact.toList b rest := by
  rw [Json.compact_bool]
  cases b
  · exact ⟨⟨'f', _, rfl, rfl, by decide⟩, fun _ => rfl⟩
  · exact ⟨⟨'t', _, rfl, rfl, by decide⟩, fun _ => rfl⟩

theorem lexeme_eq (f : List Char → Except Fault (α × List Char)) : lexeme f n s = f s := rfl

theorem lexeme_unquote (s : String) :
    lexeme (unquote []) n ((Json.string s).toList.tail ++ rest) = .ok (s, rest) := by
  rw [lexeme_eq, unquote_string]

theorem oneOf_quote (options : List α) (name : α → String) :
    oneOf options name n ('"' :: s) = nameOf options name n s := rfl

/-- A name is read as the first option that has it. -/
theorem reads_oneOf {options : List α} {name : α → String}
    (h : (options.find? fun b => name b == name a) = some a) :
    Reads (oneOf options name) (Json.str (name a)).compact.toList a rest := by
  rw [Json.compact_str, Json.toList_string]
  refine ⟨⟨'"', _, rfl, rfl, by decide⟩, fun {n} _ => ?_⟩
  rw [List.cons_append, oneOf_quote, nameOf, bind_eq (lexeme_unquote (name a)), h]
  rfl

/-! ### Arrays -/

theorem hasElement_end (first : Bool) : hasElement first n (']' :: s) = .ok (false, ']' :: s) := by
  rw [hasElement, peek_bind rfl, if_pos rfl]
  rfl

/-- Another element is found, after a comma if it is not the first. -/
theorem hasElement_part (first : Bool) {part : List Char} (parts : List (List Char))
    (hp : Opens part) : hasElement first n (separated first (part :: parts) ++ s) =
      .ok (true, part ++ (separated false parts ++ s)) := by
  obtain ⟨c, part, rfl, hblank, hend⟩ := hp
  cases first
  · rw [hasElement, separated, List.cons_append, peek_bind rfl, if_neg (by decide),
      if_neg (by decide), if_pos rfl, drop_bind, List.append_assoc, List.cons_append,
      peek_bind hblank, if_neg hend]
    rfl
  · rw [hasElement, separated, List.append_assoc, List.cons_append, peek_bind hblank, if_neg hend,
      if_pos rfl]
    rfl

variable {element : Scan α} {parts : List (List Char)} {as : List α}

/-- The loop over an array reads one element in each turn. -/
theorem elements_separated
    (h : List.Forall₂ (fun part a => ∀ rest, EndsNumber rest → Reads element part a rest) parts as)
    {turns n : Nat} {first : Bool} {read : List α}
    (hturns : (separated first parts).length < turns) (hn : (separated first parts).length < n) :
    elements element turns first read n (separated first parts ++ ']' :: rest) =
      .ok (read.reverse ++ as, rest) := by
  induction h generalizing turns first read with
  | nil =>
    cases turns with
    | zero => simp at hturns
    | succ turns =>
      rw [elements, separated, List.nil_append, bind_eq (hasElement_end first),
        List.append_nil]
      rfl
  | @cons part a parts as hpart _ ih =>
    have hlen := length_separated_cons first part parts
    have hread := hpart _ (endsNumber_separated parts rest (by decide : ']' ∈ [']', '\x7d']))
    obtain ⟨c, part', hcons, -⟩ := hread.opens
    have hpos : 0 < part.length := by rw [hcons]; exact Nat.succ_pos _
    cases turns with
    | zero => simp at hturns
    | succ turns =>
      rw [elements, bind_eq (hasElement_part first parts hread.opens), if_pos rfl,
        bind_eq (hread.eq (by omega)), ih (by omega) (by omega)]
      simp

theorem list_bracket (element : Scan α) :
    list element n ('[' :: s) = elements element n true [] n s := rfl

/-- An array is read as the list of the values of its elements. -/
theorem reads_list
    (h : List.Forall₂ (fun part a => ∀ rest, EndsNumber rest → Reads element part a rest)
      parts as) : Reads (list element) (arrayText parts) as rest := by
  refine ⟨⟨'[', _, rfl, rfl, by decide⟩, fun {n} hn => ?_⟩
  rw [arrayText] at hn ⊢
  have hlen : (separated true parts).length < n := by
    rw [List.length_cons, List.length_append] at hn
    omega
  rw [List.cons_append, list_bracket, List.append_assoc, List.singleton_append]
  exact elements_separated h hlen hlen

theorem forall₂_reads {toJson : α → Json}
    (h : ∀ a rest, Reads element (toJson a).compact.toList a rest) (as : List α) :
    List.Forall₂ (fun part a => ∀ rest, EndsNumber rest → Reads element part a rest)
      (as.map fun a => (toJson a).compact.toList) as := by
  rw [List.forall₂_map_left_iff, List.forall₂_same]
  exact fun a _ rest _ => h a rest

theorem reads_compact_arr {toJson : α → Json}
    (h : ∀ a rest, Reads element (toJson a).compact.toList a rest) (as : List α) :
    Reads (list element) (Json.arr (as.map toJson)).compact.toList as rest := by
  rw [Json.toList_compact_arr, List.map_map]
  exact reads_list (forall₂_reads h as)

/-! ### Objects -/

theorem hasMember_end (first : Bool) :
    hasMember first n ('\x7d' :: s) = .ok (false, '\x7d' :: s) := by
  rw [hasMember, peek_bind rfl, if_pos rfl]
  rfl

theorem memberText_append (name : String) (value rest : List Char) :
    memberText (name, value) ++ rest =
      '"' :: ((Json.string name).toList.tail ++ ':' :: (value ++ rest)) := by
  rw [memberText, Json.toList_string]
  simp

/-- Another name is found, after a comma if it is not the first. -/
theorem hasMember_quote (first : Bool) :
    hasMember first n (comma first ++ '"' :: s) = .ok (true, '"' :: s) := by
  cases first
  · change hasMember false n (',' :: '"' :: s) = _
    rw [hasMember, peek_bind rfl, if_neg (by decide), if_neg (by decide), if_pos rfl, drop_bind,
      peek_bind rfl, if_pos rfl]
    rfl
  · change hasMember true n ('"' :: s) = _
    rw [hasMember, peek_bind rfl, if_neg (by decide), if_pos rfl, if_pos rfl]
    rfl

theorem hasMember_member (first : Bool) (member : String × List Char) (parts : List (List Char)) :
    hasMember first n (separated first (memberText member :: parts) ++ s) =
      .ok (true, memberText member ++ (separated false parts ++ s)) := by
  rw [separated_cons, List.append_assoc, List.append_assoc, memberText_append, hasMember_quote]

end Scan

/-! ### Records -/

namespace Layout

/-- What one member of an object does to a partly read record. A name that a slot has goes into
that slot, which must not be filled yet, and the value of any other name is skipped. -/
inductive Takes (l : Layout σ α) : σ → String × List Char → σ → Prop
  | known {st st' : σ} {name : String} {slot : Slot σ} {value : List Char} :
      (l.slots.find? fun slot => slot.name == name) = some slot → slot.isFilled st = false →
      (∀ rest, EndsNumber rest → (slot.fill st).Reads value st' rest) →
      Takes l st (name, value) st'
  | other {st : σ} {name : String} {value : List Char} :
      (l.slots.find? fun slot => slot.name == name) = none →
      (∀ rest, EndsNumber rest → Scan.skipValue.Reads value () rest) →
      Takes l st (name, value) st

/-- What the members of an object do to a partly read record, one after the other. -/
inductive Fills (l : Layout σ α) : σ → List (String × List Char) → σ → Prop
  | nil (st : σ) : Fills l st [] st
  | cons {st st' st'' : σ} {member : String × List Char} {members : List (String × List Char)} :
      Takes l st member st' → Fills l st' members st'' → Fills l st (member :: members) st''

variable {l : Layout σ α} {st st' : σ} {member : String × List Char}
  {members : List (String × List Char)} {a : α} {rest : List Char} {turns n : Nat} {first : Bool}

/-- The member of a field fills the slot of the field. -/
theorem Takes.field {name : String} {get : σ → Option β} {set : σ → β → σ} {field : Scan β}
    {value : List Char} {b : β}
    (hslot : (l.slots.find? fun slot => slot.name == name) = some (.of name get set field))
    (hempty : get st = none) (hread : ∀ rest, EndsNumber rest → field.Reads value b rest) :
    l.Takes st (name, value) (set st b) :=
  .known hslot (by simp [Slot.of, hempty]) fun rest hr => (hread rest hr).map (set st)

/-- Each turn of the loop over an object reads one member. -/
theorem fillByName_member (h : l.Takes st member st') (parts : List (List Char))
    (hn : (separated first (memberText member :: parts)).length < n) :
    l.fillByName (turns + 1) first st n
        (separated first (memberText member :: parts) ++ '\x7d' :: rest) =
      l.fillByName turns false st' n (separated false parts ++ '\x7d' :: rest) := by
  have hend := endsNumber_separated parts rest (by decide : '\x7d' ∈ [']', '\x7d'])
  have hvalue : member.2.length < n := by
    have hlen := length_separated_cons first (memberText member) parts
    simp only [memberText, List.length_append, List.length_cons] at hlen hn
    omega
  rw [fillByName, Scan.bind_eq (Scan.hasMember_member first _ _), if_pos rfl]
  cases h with
  | known hslot hfilled hread =>
    rw [Scan.memberText_append, Scan.drop_bind, Scan.bind_eq (Scan.lexeme_unquote _), hslot]
    dsimp only
    rw [hfilled, if_neg Bool.false_ne_true, Scan.expect_bind rfl,
      Scan.bind_eq ((hread _ hend).eq hvalue)]
  | other hslot hread =>
    rw [Scan.memberText_append, Scan.drop_bind, Scan.bind_eq (Scan.lexeme_unquote _), hslot]
    dsimp only
    rw [Scan.expect_bind rfl, Scan.bind_eq ((hread _ hend).eq hvalue)]

/-- The loop over an object reads all members. -/
theorem fillByName_separated (h : l.Fills st members st')
    (hturns : (separated first (members.map memberText)).length < turns)
    (hn : (separated first (members.map memberText)).length < n) :
    l.fillByName turns first st n (separated first (members.map memberText) ++ '\x7d' :: rest) =
      .ok (st', rest) := by
  induction h generalizing turns first with
  | nil st =>
    cases turns with
    | zero => simp at hturns
    | succ turns =>
      rw [fillByName, List.map_nil, separated, List.nil_append,
        Scan.bind_eq (Scan.hasMember_end first)]
      rfl
  | @cons st st' st'' member members hmember _ ih =>
    rw [List.map_cons] at hturns hn ⊢
    have hlen := length_separated_cons first (memberText member) (members.map memberText)
    have hpos : 0 < (memberText member).length := by
      rw [memberText, List.length_append, List.length_cons]
      omega
    cases turns with
    | zero => simp at hturns
    | succ turns => rw [fillByName_member hmember _ hn, ih (by omega) (by omega)]

theorem scan_brace (l : Layout σ α) {s : List Char} :
    l.scan n ('\x7b' :: s) = (l.fillByName n true l.empty >>= l.complete) n s := rfl

/-- Members that fill all slots are read as the record. -/
theorem reads_objectText (h : l.Fills l.empty members st) (hfinish : l.finish st = some a) :
    l.scan.Reads (objectText members) a rest := by
  refine ⟨⟨'\x7b', _, rfl, rfl, by decide⟩, fun {n} hn => ?_⟩
  have hlen : (separated true (members.map memberText)).length < n := by
    rw [objectText, List.length_cons, List.length_append] at hn
    omega
  have hfill : l.fillByName n true l.empty n
      (separated true (members.map memberText) ++ '\x7d' :: rest) = .ok (st, rest) :=
    fillByName_separated h hlen hlen
  rw [objectText, List.cons_append, scan_brace, List.append_assoc, List.singleton_append,
    Scan.bind_eq hfill, complete, hfinish]
  rfl

theorem reads_compact_obj {fields : List (String × Json)}
    (h : l.Fills l.empty (fields.map fun f => (f.1, f.2.compact.toList)) st)
    (hfinish : l.finish st = some a) : l.scan.Reads (Json.obj fields).compact.toList a rest := by
  rw [Json.toList_compact_obj]
  exact reads_objectText h hfinish

end Layout

end GridRobot
