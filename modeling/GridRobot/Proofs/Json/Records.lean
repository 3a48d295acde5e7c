import GridRobot.Proofs.Json.Recognition
import Mathlib.Data.List.Nodup

/-!
# Records are recognized

* `Column`: a field of a record with its place in a partly read record;
* `Layout.HasColumns`: a layout reads the given columns, each of which keeps what is put into it;
* `Layout.Awaits`: the members that are still to come complete a partly read record. A member
  either fills the place of its name or is skipped (`Layout.HasColumns.awaits_cons_known`,
  `Layout.awaits_cons_other`);
* `Layout.HasColumns.recognizes_scan`: a record is read from exactly its texts.
-/

namespace GridRobot

open Scan (Recognizes)

variable {α σ : Type}

/-- A field of a record: how its value is read, where it is kept, and which part of the record it
is. -/
structure Column (σ α : Type) where
  name : String
  Part : Type
  get : σ → Option Part
  set : σ → Part → σ
  scan : Scan Part
  part : α → Part
  IsText : Part → List Char → Prop

namespace Column

/-- The slot of a column. -/
def slot (c : Column σ α) : Slot σ := .of c.name c.get c.set c.scan

/-- The texts of a column in a given record. -/
def form (c : Column σ α) : FieldForm α := ⟨c.name, fun a => c.IsText (c.part a)⟩

/-- The text stands for the column of the given record. -/
def Gives (c : Column σ α) (a : α) (text : List Char) : Prop := Padded (c.IsText (c.part a)) text

end Column

/-! ### Members -/

namespace Member

theorem valuesOf_cons (name : String) (m : Member) (members : List Member) :
    valuesOf name (m :: members) =
      if m.name = name then m.value :: valuesOf name members else valuesOf name members := by
  by_cases h : m.name = name
  · simp [valuesOf, h]
  · simp [valuesOf, h]

/-- The member with white space before it. -/
def indent (m : Member) {w : List Char} (hw : Blank w) : Member :=
  ⟨m.name, w ++ m.key, m.value, m.isKey.blank_append hw⟩

theorem valuesOf_indent (name : String) (m : Member) {w : List Char} (hw : Blank w)
    (members : List Member) :
    valuesOf name (m.indent hw :: members) = valuesOf name (m :: members) := by
  rw [valuesOf_cons, valuesOf_cons]
  rfl

end Member

section Indent

variable {fields : List (FieldForm α)} {a : α} {m : Member} {members : List Member} {w : List Char}

theorem Gives.indent (h : Gives fields a (m :: members)) (hw : Blank w) :
    Gives fields a (m.indent hw :: members) where
  once := by
    intro field hfield
    rw [Member.valuesOf_indent]
    exact h.once field hfield
  others := List.forall_mem_cons.2 (List.forall_mem_cons.1 h.others)

/-- White space may stand before the first of the members that give a record. -/
theorem Gives.exists_objectOf_eq (h : Gives fields a members) (hne : fields ≠ [])
    (hw : Blank w) (rest : List Char) : ∃ members', Gives fields a members' ∧
      objectOf members' ++ rest =
        '\x7b' :: (w ++ (separated true (members.map Member.text) ++ '\x7d' :: rest)) := by
  cases members with
  | nil =>
    obtain ⟨field, fields, rfl⟩ := List.exists_cons_of_ne_nil hne
    obtain ⟨value, hvalue, -⟩ := h.once field List.mem_cons_self
    cases hvalue
  | cons m members =>
    refine ⟨m.indent hw :: members, h.indent hw, ?_⟩
    simp [objectOf, enclosed_append, separated, Member.text, memberOf, Member.indent]

end Indent

namespace Layout

/-- The layout reads the given columns. Each keeps what is put into it and leaves the others as
they are, and the record is finished once each has its part of it. -/
structure HasColumns (l : Layout σ α) (cols : List (Column σ α)) : Prop where
  slots_eq : l.slots = cols.map Column.slot
  nodup : (cols.map Column.name).Nodup
  recognizes : ∀ c ∈ cols, Recognizes c.scan c.IsText
  get_empty : ∀ c ∈ cols, c.get l.empty = none
  get_set : ∀ c ∈ cols, ∀ st b, c.get (c.set st b) = some b
  get_set_ne : ∀ c ∈ cols, ∀ c' ∈ cols, c'.name ≠ c.name → ∀ st b, c'.get (c.set st b) = c'.get st
  finish_iff : ∀ st a, l.finish st = some a ↔ ∀ c ∈ cols, c.get st = some (c.part a)

variable {l : Layout σ α} {cols : List (Column σ α)} {c c' : Column σ α} {a : α} {st st' : σ}
  {m : Member} {members : List Member}

theorem HasColumns.name_ne (h : l.HasColumns cols) (hc : c ∈ cols) (hc' : c' ∈ cols)
    (hne : c' ≠ c) : c'.name ≠ c.name :=
  fun heq => hne (List.inj_on_of_nodup_map h.nodup hc' hc heq)

/-! ### The members that are still to come -/

/-- A column has its part of the record, or exactly one of the members to come gives it. -/
def Due (c : Column σ α) (a : α) (st : σ) (members : List Member) : Prop :=
  c.get st = some (c.part a) ∧ Member.valuesOf c.name members = [] ∨
    c.get st = none ∧ ∃ value, Member.valuesOf c.name members = [value] ∧ c.Gives a value

/-- The members to come complete a partly read record, and all their other values can be
skipped. -/
structure Awaits (cols : List (Column σ α)) (a : α) (st : σ) (members : List Member) : Prop where
  due : ∀ c ∈ cols, Due c a st members
  others : ∀ m ∈ members, m.name ∉ cols.map Column.name → IsJson m.value

theorem awaits_nil_iff : Awaits cols a st [] ↔ ∀ c ∈ cols, c.get st = some (c.part a) := by
  constructor
  · intro h c hc
    rcases h.due c hc with ⟨hget, -⟩ | ⟨-, value, hvalue, -⟩
    · exact hget
    · cases hvalue
  · exact fun h => ⟨fun c hc => .inl ⟨h c hc, rfl⟩, by simp⟩

/-- At first the members must give all columns. -/
theorem awaits_iff_gives (hempty : ∀ c ∈ cols, c.get st = none) :
    Awaits cols a st members ↔ Gives (cols.map Column.form) a members := by
  have hnames : (cols.map Column.form).map FieldForm.name = cols.map Column.name := by
    rw [List.map_map]
    rfl
  constructor
  · intro h
    refine ⟨List.forall_mem_map.2 fun c hc => ?_, hnames ▸ h.others⟩
    rcases h.due c hc with ⟨hget, -⟩ | ⟨-, hvalue⟩
    · rw [hempty c hc] at hget
      cases hget
    · exact hvalue
  · intro h
    exact ⟨fun c hc => .inr ⟨hempty c hc, List.forall_mem_map.1 h.once c hc⟩, hnames ▸ h.others⟩

/-- A member of another name does not matter to a column. -/
theorem due_cons_ne (hm : m.name ≠ c.name) : Due c a st (m :: members) ↔ Due c a st members := by
  rw [Due, Due, Member.valuesOf_cons, if_neg hm]

theorem due_cons_self (hm : m.name = c.name) : Due c a st (m :: members) ↔
    c.get st = none ∧ c.Gives a m.value ∧ Member.valuesOf c.name members = [] := by
  rw [Due, Member.valuesOf_cons, if_pos hm]
  constructor
  · rintro (⟨-, hvalues⟩ | ⟨hget, value, hvalues, hvalue⟩)
    · cases hvalues
    · obtain ⟨rfl, hnone⟩ := List.cons.inj hvalues
      exact ⟨hget, hvalue, hnone⟩
  · rintro ⟨hget, hvalue, hnone⟩
    exact .inr ⟨hget, m.value, by rw [hnone], hvalue⟩

/-- A column that has been set is complete if no other member gives it. -/
theorem due_iff_of_get_eq_some (hget : c.get st = some (c.part a)) :
    Due c a st members ↔ Member.valuesOf c.name members = [] := by
  simp [Due, hget]

theorem awaits_cons_iff : Awaits cols a st (m :: members) ↔
    (∀ c ∈ cols, Due c a st (m :: members)) ∧ (m.name ∉ cols.map Column.name → IsJson m.value) ∧
      ∀ m' ∈ members, m'.name ∉ cols.map Column.name → IsJson m'.value :=
  ⟨fun h => ⟨h.due, List.forall_mem_cons.1 h.others⟩,
    fun h => ⟨h.1, List.forall_mem_cons.2 h.2⟩⟩

/-- A member of a name that no column has is skipped. -/
theorem awaits_cons_other (hm : m.name ∉ cols.map Column.name) :
    Awaits cols a st (m :: members) ↔ IsJson m.value ∧ Awaits cols a st members := by
  have hdue : ∀ c ∈ cols, (Due c a st (m :: members) ↔ Due c a st members) := fun c hc =>
    due_cons_ne fun heq => hm (List.mem_map.2 ⟨c, hc, heq.symm⟩)
  constructor
  · intro h
    obtain ⟨hdues, hvalue, hothers⟩ := awaits_cons_iff.1 h
    exact ⟨hvalue hm, fun c hc => (hdue c hc).1 (hdues c hc), hothers⟩
  · rintro ⟨hvalue, h⟩
    exact awaits_cons_iff.2 ⟨fun c hc => (hdue c hc).2 (h.due c hc), fun _ => hvalue, h.others⟩

namespace HasColumns

/-- A member of the name of a column gives the column, which must not have been set. -/
theorem awaits_cons_known (h : l.HasColumns cols) (hc : c ∈ cols) (hm : m.name = c.name) :
    Awaits cols a st (m :: members) ↔
      c.get st = none ∧ c.Gives a m.value ∧ Awaits cols a (c.set st (c.part a)) members := by
  have hself : Due c a (c.set st (c.part a)) members ↔ Member.valuesOf c.name members = [] :=
    due_iff_of_get_eq_some (h.get_set c hc st _)
  have hothers : ∀ c' ∈ cols, c' ≠ c →
      (Due c' a st (m :: members) ↔ Due c' a (c.set st (c.part a)) members) := by
    intro c' hc' hne
    have hname := h.name_ne hc hc' hne
    rw [due_cons_ne (hm ▸ hname.symm), Due, Due, h.get_set_ne c hc c' hc' hname]
  have hmem : m.name ∈ cols.map Column.name := hm ▸ List.mem_map_of_mem hc
  constructor
  · intro hawaits
    obtain ⟨hdues, -, hjson⟩ := awaits_cons_iff.1 hawaits
    obtain ⟨hget, hvalue, hnone⟩ := (due_cons_self hm).1 (hdues c hc)
    refine ⟨hget, hvalue, fun c' hc' => ?_, hjson⟩
    by_cases heq : c' = c
    · exact heq ▸ hself.2 hnone
    · exact (hothers c' hc' heq).1 (hdues c' hc')
  · rintro ⟨hget, hvalue, hawaits⟩
    refine awaits_cons_iff.2 ⟨fun c' hc' => ?_, fun hnot => absurd hmem hnot, hawaits.others⟩
    by_cases heq : c' = c
    · exact heq ▸ (due_cons_self hm).2 ⟨hget, hvalue, hself.1 (hawaits.due c hc)⟩
    · exact (hothers c' hc' heq).2 (hawaits.due c' hc')

/-- What has been put into a column is the part of the record that is completed. -/
theorem eq_part (h : l.HasColumns cols) (hc : c ∈ cols) {b : c.Part}
    (hawaits : Awaits cols a (c.set st b) members) : b = c.part a := by
  rcases hawaits.due c hc with ⟨hget, -⟩ | ⟨hget, -⟩
  · rw [h.get_set c hc] at hget
    exact Option.some.inj hget
  · rw [h.get_set c hc] at hget
    cases hget

end HasColumns

/-! ### One turn of the loop over an object -/

/-- What the loop does with a member, once its name has been read. -/
def fillMember (l : Layout σ α) (turns : Nat) (st : σ) (name : String) : Scan σ :=
  match l.slots.find? fun slot => slot.name == name with
  | some slot =>
    if slot.isFilled st then Scan.fail .mismatch
    else do
      Scan.expect ':'
      l.fillByName turns false (← slot.fill st)
  | none => do
    Scan.expect ':'
    Scan.skipValue
    l.fillByName turns false st

variable {turns n : Nat} {first : Bool} {s rest : List Char}

theorem fillByName_succ (l : Layout σ α) (turns : Nat) (first : Bool) (st : σ) :
    l.fillByName (turns + 1) first st = Scan.hasMember first >>= fun more =>
      if more then Scan.drop >>= fun _ => Scan.lexeme (unquote []) >>= l.fillMember turns st
      else Scan.drop >>= fun _ => pure st := by
  rfl

namespace HasColumns

theorem find?_known (h : l.HasColumns cols) (hc : c ∈ cols) :
    (l.slots.find? fun slot => slot.name == c.name) = some c.slot := by
  rw [h.slots_eq, List.find?_map]
  cases hfind : cols.find? ((fun slot => slot.name == c.name) ∘ Column.slot) with
  | none =>
    have hnot := List.find?_eq_none.1 hfind c hc
    exact absurd (beq_self_eq_true c.name) hnot
  | some c' =>
    have hname : c'.name = c.name := by simpa [Column.slot, Slot.of] using List.find?_some hfind
    rw [List.inj_on_of_nodup_map h.nodup (List.mem_of_find?_eq_some hfind) hc hname]
    rfl

theorem find?_other (h : l.HasColumns cols) {name : String} (hname : name ∉ cols.map Column.name) :
    (l.slots.find? fun slot => slot.name == name) = none := by
  rw [h.slots_eq, List.find?_eq_none, List.forall_mem_map]
  intro c hc hslot
  exact hname (List.mem_map.2 ⟨c, hc, beq_iff_eq.1 hslot⟩)

theorem fillMember_known (h : l.HasColumns cols) (hc : c ∈ cols) :
    l.fillMember turns st c.name =
      if (c.get st).isSome then Scan.fail .mismatch
      else Scan.expect ':' >>= fun _ => c.scan >>= fun b =>
        l.fillByName turns false (c.set st b) := by
  rw [fillMember, h.find?_known hc]
  simp only [Column.slot, Slot.of, bind_map_left]

theorem fillMember_other (h : l.HasColumns cols) {name : String}
    (hname : name ∉ cols.map Column.name) : l.fillMember turns st name =
      Scan.expect ':' >>= fun _ => Scan.skipValue >>= fun _ => l.fillByName turns false st := by
  rw [fillMember, h.find?_other hname]

/-- A member that has been read is the member of a column or one that is skipped. -/
theorem of_fillMember (h : l.HasColumns cols) {name : String}
    (hread : ∀ {st s}, l.fillByName turns false st n s = .ok (st', rest) →
      ∃ b members, Blank b ∧ Awaits cols a st members ∧
        s = b ++ (separated false (members.map Member.text) ++ '\x7d' :: rest))
    (hmember : l.fillMember turns st name n s = .ok (st', rest)) :
    ∃ w value members, Blank w ∧
      (∀ m : Member, m.name = name → m.value = value → Awaits cols a st (m :: members)) ∧
      s = w ++ ':' :: (value ++ (separated false (members.map Member.text) ++ '\x7d' :: rest)) := by
  by_cases hname : name ∈ cols.map Column.name
  · obtain ⟨c, hc, rfl⟩ := List.mem_map.1 hname
    rw [h.fillMember_known hc] at hmember
    split at hmember
    · cases hmember
    · next hget =>
      obtain ⟨⟨⟩, s₁, hcolon, hmember⟩ := Scan.of_bind hmember
      obtain ⟨b, s₂, hb, hothers⟩ := Scan.of_bind hmember
      obtain ⟨w, hw, rfl⟩ := (Scan.expect_eq_ok_iff rfl).1 hcolon
      obtain ⟨v, text, hv, htext, rfl⟩ := (h.recognizes c hc).sound hb
      obtain ⟨v', members, hv', hawaits, rfl⟩ := hread hothers
      obtain rfl := h.eq_part hc hawaits
      refine ⟨w, v ++ (text ++ v'), members, hw, fun m hm hvalue => ?_, by simp⟩
      rw [h.awaits_cons_known hc hm, hvalue]
      exact ⟨by simpa using hget, ⟨v, text, v', hv, htext, hv', rfl⟩, hawaits⟩
  · rw [h.fillMember_other hname] at hmember
    obtain ⟨⟨⟩, s₁, hcolon, hmember⟩ := Scan.of_bind hmember
    obtain ⟨⟨⟩, s₂, hskip, hothers⟩ := Scan.of_bind hmember
    obtain ⟨w, hw, rfl⟩ := (Scan.expect_eq_ok_iff rfl).1 hcolon
    obtain ⟨text, htext, rfl⟩ := Scan.isJson_of_skipValue hskip
    obtain ⟨v', members, hv', hawaits, rfl⟩ := hread hothers
    refine ⟨w, text ++ v', members, hw, fun m hm hvalue => ?_, by simp⟩
    rw [awaits_cons_other (hm ▸ hname), hvalue]
    exact ⟨htext.append_blank hv', hawaits⟩

/-- What the loop over an object has read are members that complete the record. -/
theorem of_fillByName (h : l.HasColumns cols)
    (hfill : l.fillByName turns first st n s = .ok (st', rest)) (hfinish : l.finish st' = some a) :
    ∃ b members, Blank b ∧ Awaits cols a st members ∧
      s = b ++ (separated first (members.map Member.text) ++ '\x7d' :: rest) := by
  induction turns generalizing first st s with
  | zero => cases hfill
  | succ turns ih =>
    rw [fillByName_succ] at hfill
    obtain ⟨more, s₁, hmore, hnext⟩ := Scan.of_bind hfill
    rcases Scan.of_hasMember hmore with ⟨rfl, w, v, t, hw, hv, rfl, rfl⟩ | ⟨rfl, w, t, hw, rfl, rfl⟩
    · rw [if_pos rfl, Scan.drop_bind] at hnext
      obtain ⟨name, s₂, hname, hmember⟩ := Scan.of_bind hnext
      obtain ⟨body, hbody, rfl⟩ := unquote_eq_ok_iff.1 hname
      obtain ⟨w', value, members, hw', hawaits, rfl⟩ := h.of_fillMember ih hmember
      let m : Member := ⟨name, v ++ (inQuotes body ++ w'), value,
        ⟨v, inQuotes body, w', hv, ⟨body, hbody, rfl⟩, hw', rfl⟩⟩
      exact ⟨w, m :: members, hw, hawaits m rfl rfl,
        by simp [m, separated_cons, Member.text, memberOf, inQuotes]⟩
    · rw [if_neg Bool.false_ne_true, Scan.drop_bind] at hnext
      cases hnext
      exact ⟨w, [], hw, awaits_nil_iff.2 ((h.finish_iff _ _).1 hfinish), by simp [separated]⟩

end HasColumns

/-- The loop over an object finds the name of the next member. -/
theorem fillByName_text (l : Layout σ α) (turns n : Nat) (first : Bool) (st : σ) {b : List Char}
    (hb : Blank b) (m : Member) (s : List Char) : ∃ w, Blank w ∧
      l.fillByName (turns + 1) first st n (b ++ (comma first ++ (m.text ++ s))) =
        l.fillMember turns st m.name n (w ++ ':' :: (m.value ++ s)) := by
  obtain ⟨name, key, value, w, t, w', hw, ⟨body, hbody, rfl⟩, hw', rfl⟩ := m
  have hname : Scan.lexeme (unquote []) n (body ++ '"' :: (w' ++ ':' :: (value ++ s))) =
      .ok (name, w' ++ ':' :: (value ++ s)) := unquote_eq_ok_iff.2 ⟨body, hbody, rfl⟩
  have htext : Member.text ⟨name, w ++ (inQuotes body ++ w'), value,
      w, inQuotes body, w', hw, ⟨body, hbody, rfl⟩, hw', rfl⟩ ++ s =
        w ++ '"' :: (body ++ '"' :: (w' ++ ':' :: (value ++ s))) := by
    simp [Member.text, memberOf, inQuotes]
  refine ⟨w', hw', ?_⟩
  rw [htext, fillByName_succ, (Scan.skipsBlank_hasMember first).bind _ n b _ hb,
    Scan.bind_eq ((Scan.hasMember_comma first hw _).trans (Scan.hasMember_quote first)),
    if_pos rfl, Scan.drop_bind, Scan.bind_eq hname]

namespace HasColumns

/-- A member that is awaited is read. -/
theorem exists_fillMember_eq (h : l.HasColumns cols) (hawaits : Awaits cols a st (m :: members))
    (turns : Nat) (hs : EndsNumber s) {w : List Char} (hw : Blank w) (hn : m.value.length < n) :
    ∃ st₁ v, Blank v ∧ Awaits cols a st₁ members ∧
      l.fillMember turns st m.name n (w ++ ':' :: (m.value ++ s)) =
        l.fillByName turns false st₁ n (v ++ s) := by
  have hcolon : Scan.expect ':' n (w ++ ':' :: (m.value ++ s)) = .ok ((), m.value ++ s) :=
    (Scan.expect_eq_ok_iff rfl).2 ⟨w, hw, rfl⟩
  by_cases hname : m.name ∈ cols.map Column.name
  · obtain ⟨c, hc, heq⟩ := List.mem_map.1 hname
    obtain ⟨hget, ⟨v, t, v', hv, ht, hv', hvalue⟩, hawaits⟩ :=
      (h.awaits_cons_known hc heq.symm).1 hawaits
    have hread : c.scan n (m.value ++ s) = .ok (c.part a, v' ++ s) := by
      rw [hvalue, List.append_assoc, List.append_assoc]
      rw [hvalue] at hn
      simp only [List.length_append] at hn
      exact (h.recognizes c hc).eq_ok ht (hs.blank hv') (by omega) hv
    refine ⟨_, v', hv', hawaits, ?_⟩
    rw [← heq, h.fillMember_known hc, hget, Option.isSome_none, if_neg Bool.false_ne_true,
      Scan.bind_eq hcolon, Scan.bind_eq hread]
  · obtain ⟨hvalue, hawaits⟩ := (awaits_cons_other hname).1 hawaits
    obtain ⟨v, hv, hskip⟩ := Scan.skipValue_isJson hvalue hs hn
    refine ⟨st, v, hv, hawaits, ?_⟩
    rw [h.fillMember_other hname, Scan.bind_eq hcolon, Scan.bind_eq hskip]

/-- The loop over an object reads members that complete the record. -/
theorem fillByName_members (h : l.HasColumns cols) (hawaits : Awaits cols a st members)
    {b : List Char} (hb : Blank b)
    (hturns : (separated first (members.map Member.text)).length < turns)
    (hn : (separated first (members.map Member.text)).length < n) :
    ∃ st', l.finish st' = some a ∧
      l.fillByName turns first st n
        (b ++ (separated first (members.map Member.text) ++ '\x7d' :: rest)) = .ok (st', rest) := by
  induction members generalizing turns first st b with
  | nil =>
    obtain ⟨turns, rfl⟩ := Nat.exists_eq_add_one_of_ne_zero (Nat.ne_zero_of_lt hturns)
    refine ⟨st, (h.finish_iff _ _).2 (awaits_nil_iff.1 hawaits), ?_⟩
    rw [fillByName_succ, (Scan.skipsBlank_hasMember first).bind _ n b _ hb, List.map_nil,
      separated, List.nil_append, Scan.bind_eq (Scan.hasMember_end first)]
    rfl
  | cons m members ih =>
    rw [List.map_cons] at hturns hn ⊢
    have hlen := length_separated_cons first m.text (members.map Member.text)
    have hvalue : m.value.length < m.text.length := by
      rw [Member.text, memberOf, List.length_append, List.length_cons]
      omega
    have hend : EndsNumber (separated false (members.map Member.text) ++ '\x7d' :: rest) :=
      Scan.endsNumber_parts .object _ rest
    obtain ⟨turns, rfl⟩ := Nat.exists_eq_add_one_of_ne_zero (Nat.ne_zero_of_lt hturns)
    obtain ⟨w, hw, htext⟩ := l.fillByName_text turns n first st hb m
      (separated false (members.map Member.text) ++ '\x7d' :: rest)
    obtain ⟨st₁, v, hv, hawaits₁, hmember⟩ :=
      h.exists_fillMember_eq hawaits turns hend hw (by omega : m.value.length < n)
    obtain ⟨st', hfinish, hothers⟩ : ∃ st', l.finish st' = some a ∧ l.fillByName turns false st₁ n
        (v ++ (separated false (members.map Member.text) ++ '\x7d' :: rest)) = .ok (st', rest) :=
      ih hawaits₁ hv (by omega) (by omega)
    refine ⟨st', hfinish, ?_⟩
    rw [separated_cons, List.append_assoc, List.append_assoc, htext, hmember, hothers]

end HasColumns

/-! ### Arrays -/

/-- All columns but the given ones are as they were. -/
def Keeps (cols cs : List (Column σ α)) (st st' : σ) : Prop :=
  ∀ c ∈ cols, c ∉ cs → c.get st' = c.get st

theorem fillInOrder_cons (c : Column σ α) (slots : List (Slot σ)) (first : Bool) (st : σ) :
    fillInOrder (c.slot :: slots) first st = Scan.hasElement first >>= fun more =>
      if more then c.scan >>= fun b => fillInOrder slots false (c.set st b)
      else Scan.fail .mismatch := by
  rw [fillInOrder]
  refine bind_congr fun more => ?_
  cases more
  · rfl
  · change c.set st <$> c.scan >>= _ = _
    rw [bind_map_left]
    rfl

namespace HasColumns

variable {cs : List (Column σ α)} {parts : List (List Char)}

/-- A column that has been put in stays, and counts as one of those that are put in. -/
theorem keeps_cons (h : l.HasColumns cols) (hc : c ∈ cols) (hnot : c ∉ cs) {b : c.Part}
    (hkeeps : Keeps cols cs (c.set st b) st') :
    c.get st' = some b ∧ Keeps cols (c :: cs) st st' := by
  refine ⟨(hkeeps c hc hnot).trans (h.get_set c hc st b), fun c' hc' hnot' => ?_⟩
  rw [List.mem_cons, not_or] at hnot'
  rw [hkeeps c' hc' hnot'.2, h.get_set_ne c hc c' hc' (h.name_ne hc hc' hnot'.1)]

/-- The parts of an array are read as the values of the columns in order. -/
theorem fillInOrder_parts (h : l.HasColumns cols) (st : σ) (rest : List Char)
    (hsub : ∀ c ∈ cs, c ∈ cols) (hnodup : cs.Nodup)
    (hparts : List.Forall₂ (fun c part => c.Gives a part) cs parts) {b : List Char}
    (hb : Blank b) (hn : (separated first parts).length < n) :
    ∃ st' w, Blank w ∧ (∀ c ∈ cs, c.get st' = some (c.part a)) ∧ Keeps cols cs st st' ∧
      fillInOrder (cs.map Column.slot) first st n (b ++ (separated first parts ++ ']' :: rest)) =
        .ok (st', w ++ ']' :: rest) := by
  induction hparts generalizing first st b with
  | nil => exact ⟨st, b, hb, by simp, fun _ _ _ => rfl, rfl⟩
  | @cons c part cs parts hpart _ ih =>
    obtain ⟨hc, hcs⟩ := List.forall_mem_cons.1 hsub
    obtain ⟨hnot, hnodup⟩ := List.nodup_cons.1 hnodup
    obtain ⟨v, t, v', hv, ht, hv', rfl⟩ := hpart
    have hlen := length_separated_cons first (v ++ (t ++ v')) parts
    simp only [List.length_append] at hlen
    have hend : EndsNumber (separated false parts ++ ']' :: rest) :=
      Scan.endsNumber_parts .array parts rest
    have hread : c.scan n (t ++ (v' ++ (separated false parts ++ ']' :: rest))) =
        .ok (c.part a, v' ++ (separated false parts ++ ']' :: rest)) :=
      ((h.recognizes c hc).reads ht _ (hend.blank hv')).eq (by omega)
    obtain ⟨st', w, hw, hget, hkeeps, hothers⟩ : ∃ st' w, Blank w ∧
        (∀ c ∈ cs, c.get st' = some (c.part a)) ∧ Keeps cols cs (c.set st (c.part a)) st' ∧
          fillInOrder (cs.map Column.slot) false (c.set st (c.part a)) n
            (v' ++ (separated false parts ++ ']' :: rest)) = .ok (st', w ++ ']' :: rest) :=
      ih _ hcs hnodup hv' (by omega)
    obtain ⟨hself, hkeeps⟩ := h.keeps_cons hc hnot hkeeps
    refine ⟨st', w, hw, List.forall_mem_cons.2 ⟨hself, hget⟩, hkeeps, ?_⟩
    have hassoc : separated first ((v ++ (t ++ v')) :: parts) ++ ']' :: rest =
        comma first ++ (v ++ (t ++ (v' ++ (separated false parts ++ ']' :: rest)))) := by
      simp [separated_cons]
    rw [List.map_cons, fillInOrder_cons, (Scan.skipsBlank_hasElement first).bind _ n b _ hb, hassoc,
      Scan.bind_eq (Scan.hasElement_opens first hv ((h.recognizes c hc).opens ht)), if_pos rfl,
      Scan.bind_eq hread, hothers]

/-- What has been read from an array are the values of the columns in order. -/
theorem of_fillInOrder (h : l.HasColumns cols) (hsub : ∀ c ∈ cs, c ∈ cols) (hnodup : cs.Nodup)
    {w : List Char} (hw : Blank w)
    (hfill : fillInOrder (cs.map Column.slot) first st n s = .ok (st', w ++ rest))
    (hfinish : l.finish st' = some a) :
    ∃ b parts, Blank b ∧ List.Forall₂ (fun c part => c.Gives a part) cs parts ∧
      Keeps cols cs st st' ∧ s = b ++ (separated first parts ++ rest) := by
  induction cs generalizing first st s with
  | nil =>
    cases hfill
    exact ⟨w, [], hw, .nil, fun _ _ _ => rfl, rfl⟩
  | cons c cs ih =>
    obtain ⟨hc, hcs⟩ := List.forall_mem_cons.1 hsub
    obtain ⟨hnot, hnodup⟩ := List.nodup_cons.1 hnodup
    rw [List.map_cons, fillInOrder_cons] at hfill
    obtain ⟨more, s₁, hmore, hnext⟩ := Scan.of_bind hfill
    rcases Scan.of_hasElement hmore with ⟨rfl, b, v, hb, hv, rfl⟩ | ⟨rfl, -⟩
    · rw [if_pos rfl] at hnext
      obtain ⟨value, s₂, hvalue, hothers⟩ := Scan.of_bind hnext
      obtain ⟨v', text, hv', htext, rfl⟩ := (h.recognizes c hc).sound hvalue
      obtain ⟨b', parts, hb', hparts, hkeeps, rfl⟩ := ih hcs hnodup hothers
      obtain ⟨hself, hkeeps'⟩ := h.keeps_cons hc hnot hkeeps
      have hpart := ((h.finish_iff _ _).1 hfinish c hc).symm.trans hself
      obtain rfl := Option.some.inj hpart
      exact ⟨b, _, hb, .cons ⟨v ++ v', text, b', hv.append hv', htext, hb', rfl⟩ hparts, hkeeps',
        by simp [separated_cons]⟩
    · cases hnext

/-! ### Records -/

theorem mem_nodup (h : l.HasColumns cols) : cols.Nodup := List.Nodup.of_map _ h.nodup

end HasColumns

theorem complete_eq_ok_iff :
    l.complete st n s = .ok (a, rest) ↔ l.finish st = some a ∧ s = rest := by
  unfold complete
  cases hfinish : l.finish st with
  | none => simp [Scan.fail]
  | some a' =>
    change Except.ok (a', s) = .ok (a, rest) ↔ _
    simp

theorem scan_bracket (l : Layout σ α) : l.scan n ('[' :: s) =
    (fillInOrder l.slots true l.empty >>= fun st => l.complete st >>= fun a =>
      Scan.expect ']' >>= fun _ => pure a) n s := rfl

namespace HasColumns

theorem isJson_form (h : l.HasColumns cols) (a : α) :
    ∀ field ∈ cols.map Column.form, ∀ text, field.IsText a text → IsJson text :=
  List.forall_mem_map.2 fun c hc => (h.recognizes c hc).isJson (c.part a)

/-- A record is read from exactly its texts. -/
theorem recognizes_scan (h : l.HasColumns cols) (hne : cols ≠ []) :
    Recognizes l.scan (IsRecord (cols.map Column.form)) where
  skipsBlank := Scan.skipsBlank_peek.bind _
  reads := by
    intro a text ht rest _
    cases ht with
    | @object members hgives =>
      refine ⟨⟨'\x7b', _, rfl, rfl, by decide⟩, fun {n} hn => ?_⟩
      have hlen : (separated true (members.map Member.text)).length < n :=
        (length_separated_lt _ _).trans hn
      obtain ⟨st', hfinish, hfill⟩ : ∃ st', l.finish st' = some a ∧ l.fillByName n true l.empty n
          ([] ++ (separated true (members.map Member.text) ++ '\x7d' :: rest)) = .ok (st', rest) :=
        h.fillByName_members ((awaits_iff_gives h.get_empty).2 hgives) blank_nil hlen hlen
      rw [objectOf, enclosed_append]
      exact (scan_brace l).trans
        ((Scan.bind_eq hfill).trans (complete_eq_ok_iff.2 ⟨hfinish, rfl⟩))
    | @array parts hparts =>
      refine ⟨⟨'[', _, rfl, rfl, by decide⟩, fun {n} hn => ?_⟩
      have hlen : (separated true parts).length < n := (length_separated_lt _ parts).trans hn
      rw [List.forall₂_map_left_iff] at hparts
      obtain ⟨st', w, hw, hget, -, hfill⟩ :=
        h.fillInOrder_parts l.empty rest (fun _ => id) h.mem_nodup hparts blank_nil hlen
      rw [enclosed_append]
      change l.scan n ('[' :: ([] ++ (separated true parts ++ ']' :: rest))) = _
      rw [scan_bracket, h.slots_eq, Scan.bind_eq hfill,
        Scan.bind_eq (complete_eq_ok_iff.2 ⟨(h.finish_iff _ _).2 hget, rfl⟩),
        Scan.bind_eq ((Scan.expect_eq_ok_iff rfl).2 ⟨w, hw, rfl⟩)]
      rfl
  sound := by
    intro n s a rest hscan
    obtain ⟨w, c, t, hw, -, rfl, hnext⟩ := Scan.of_peek hscan
    split at hnext
    · change (fillInOrder l.slots true l.empty >>= fun st => l.complete st >>= fun a =>
        Scan.expect ']' >>= fun _ => pure a) n t = _ at hnext
      rw [h.slots_eq] at hnext
      obtain ⟨st', s₁, hfill, hnext⟩ := Scan.of_bind hnext
      obtain ⟨a', s₂, hcomplete, hnext⟩ := Scan.of_bind hnext
      obtain ⟨⟨⟩, s₃, hclosing, hnext⟩ := Scan.of_bind hnext
      cases hnext
      obtain ⟨hfinish, rfl⟩ := complete_eq_ok_iff.1 hcomplete
      obtain ⟨v, hv, rfl⟩ := (Scan.expect_eq_ok_iff rfl).1 hclosing
      obtain ⟨b, parts, hb, hparts, -, rfl⟩ :=
        h.of_fillInOrder (fun _ => id) h.mem_nodup hv hfill hfinish
      cases hparts with
      | nil => exact absurd rfl hne
      | @cons c part cs parts hpart hparts =>
        have hrecord : IsRecord ((c :: cs).map Column.form) a
            (enclosed .array ((b ++ part) :: parts)) :=
          .array (List.forall₂_map_left_iff.2 (.cons (hpart.blank_append hb) hparts))
        exact ⟨w, _, hw, hrecord, by simp [enclosed, separated]⟩
    · change (l.fillByName n true l.empty >>= l.complete) n t = _ at hnext
      obtain ⟨st', s₁, hfill, hcomplete⟩ := Scan.of_bind hnext
      obtain ⟨hfinish, rfl⟩ := complete_eq_ok_iff.1 hcomplete
      obtain ⟨b, members, hb, hawaits, rfl⟩ := h.of_fillByName hfill hfinish
      have hgives := (awaits_iff_gives h.get_empty).1 hawaits
      obtain ⟨members', hgives, htext⟩ := hgives.exists_objectOf_eq (by simpa using hne) hb _
      exact ⟨w, _, hw, .object hgives, by rw [htext]⟩
    · cases hnext
  isJson a _ ht := ht.isJson (h.isJson_form a)

end HasColumns

end Layout

end GridRobot
