import GridRobot.Proofs.Json.AnyValue
import GridRobot.Proofs.Json.Forms

/-!
# One text, one reading

JSON text can be taken apart in one way only: what the parts of a container are is told by its
text alone.

* `IsJson.eq_of_append`, `IsFront.eq_of_append`: where a value and where a name ends;
* `enclosed_inj`: the parts of a container;
* `arrayOf_inj`, `objectOf_inj`: the elements of an array and the members of an object.
-/

namespace GridRobot

open Scan (Open isBlank)

/-! ### Values -/

/-- Where a value ends is told by the text alone. -/
theorem IsJson.eq_of_append {t t' s s' : List Char} {c c' : Char} (h : IsJson t) (h' : IsJson t')
    (hs : EndsNumber (c :: s)) (hs' : EndsNumber (c' :: s')) (hc : isBlank c = false)
    (hc' : isBlank c' = false) (heq : t ++ c :: s = t' ++ c' :: s') :
    t = t' ∧ c = c' ∧ s = s' := by
  have hlen : t.length < t.length + t'.length + 1 := by omega
  have hlen' : t'.length < t.length + t'.length + 1 := by omega
  obtain ⟨w, hw, hskip⟩ := Scan.skipValue_isJson h hs hlen
  obtain ⟨w', hw', hskip'⟩ := Scan.skipValue_isJson h' hs' hlen'
  rw [heq, hskip'] at hskip
  simp only [Except.ok.injEq, Prod.mk.injEq, true_and] at hskip
  obtain ⟨rfl, rfl, rfl⟩ := hw'.append_cons_inj hw hc' hc hskip
  exact ⟨List.append_cancel_right heq, rfl, rfl⟩

/-- So is where the value of a part begins. -/
theorem IsFront.eq_of_append {o : Open} {front front' s s' : List Char} (h : IsFront o front)
    (h' : IsFront o front') (heq : front ++ s = front' ++ s') : front = front' ∧ s = s' := by
  have hfront : o.front 0 (front ++ s) = .ok ((), s) := Scan.front_eq_ok_iff.2 ⟨front, h, rfl⟩
  rw [heq, Scan.front_eq_ok_iff.2 ⟨front', h', rfl⟩] at hfront
  cases hfront
  exact ⟨List.append_cancel_right heq, rfl⟩

/-! ### Parts of containers -/

namespace Scan

variable {o : Open} {front s s' t rest rest' : List Char} {first : Bool}

/-- No part begins where a container ends. -/
theorem comma_part_ne (first : Bool) (hfront : IsFront o front) (ht : IsJson t) :
    comma first ++ (front ++ (t ++ s)) ≠ o.closing :: s' := by
  intro heq
  cases first with
  | false =>
    cases o
    · cases heq
    · cases heq
  | true =>
    obtain ⟨w, c, s, hw, hc, hclosing, hs⟩ := exists_first hfront ht s
    change front ++ (t ++ _) = _ at heq
    rw [hs] at heq
    exact hclosing (hw.append_cons_inj blank_nil hc o.isBlank_closing heq).2.1

/-- After a value comes a comma or the end of the container. -/
theorem exists_separated_eq (o : Open) (parts : List (List Char)) (rest : List Char) :
    ∃ c s, isBlank c = false ∧ separated false parts ++ o.closing :: rest = c :: s := by
  cases parts with
  | nil => exact ⟨o.closing, rest, o.isBlank_closing, rfl⟩
  | cons part parts => exact ⟨',', _, rfl, rfl⟩

theorem separated_inj {parts parts' : List (List Char × List Char)}
    (h : ∀ part ∈ parts, IsFront o part.1 ∧ IsJson part.2)
    (h' : ∀ part ∈ parts', IsFront o part.1 ∧ IsJson part.2)
    (heq : separated first (parts.map fun part => part.1 ++ part.2) ++ o.closing :: rest =
      separated first (parts'.map fun part => part.1 ++ part.2) ++ o.closing :: rest') :
    parts = parts' := by
  induction parts generalizing parts' first with
  | nil =>
    cases parts' with
    | nil => rfl
    | cons part' parts' =>
      obtain ⟨hfront, hvalue⟩ := h' part' List.mem_cons_self
      rw [List.map_cons, separated_cons, List.append_assoc, List.append_assoc,
        List.append_assoc] at heq
      exact absurd heq.symm (comma_part_ne first hfront hvalue)
  | cons part parts ih =>
    obtain ⟨⟨hfront, hvalue⟩, hparts⟩ := List.forall_mem_cons.1 h
    rw [List.map_cons, separated_cons, List.append_assoc, List.append_assoc,
      List.append_assoc] at heq
    cases parts' with
    | nil => exact absurd heq (comma_part_ne first hfront hvalue)
    | cons part' parts' =>
      obtain ⟨⟨hfront', hvalue'⟩, hparts'⟩ := List.forall_mem_cons.1 h'
      rw [List.map_cons, separated_cons, List.append_assoc, List.append_assoc,
        List.append_assoc] at heq
      obtain ⟨hfronts, hvalues⟩ := hfront.eq_of_append hfront' (List.append_cancel_left heq)
      obtain ⟨c, s, hc, hs⟩ := exists_separated_eq o (parts.map fun part => part.1 ++ part.2) rest
      obtain ⟨c', s', hc', hs'⟩ :=
        exists_separated_eq o (parts'.map fun part => part.1 ++ part.2) rest'
      rw [hs, hs'] at hvalues
      obtain ⟨hvalue_eq, rfl, rfl⟩ := hvalue.eq_of_append hvalue' (hs ▸ endsNumber_parts o _ rest)
        (hs' ▸ endsNumber_parts o _ rest') hc hc' hvalues
      rw [Prod.ext hfronts hvalue_eq, ih hparts hparts' (hs.trans hs'.symm)]

end Scan

/-- The parts of a container are told by its text alone. -/
theorem enclosed_inj {o : Open} {parts parts' : List (List Char × List Char)}
    {rest rest' : List Char} (h : ∀ part ∈ parts, IsFront o part.1 ∧ IsJson part.2)
    (h' : ∀ part ∈ parts', IsFront o part.1 ∧ IsJson part.2)
    (heq : enclosed o (parts.map fun part => part.1 ++ part.2) ++ rest =
      enclosed o (parts'.map fun part => part.1 ++ part.2) ++ rest') : parts = parts' := by
  rw [enclosed_append, enclosed_append, List.cons.injEq] at heq
  exact Scan.separated_inj h h' heq.2

/-! ### Arrays and objects -/

/-- The elements of an array are told by its text alone. -/
theorem arrayOf_inj {parts parts' : List (List Char)} {rest rest' : List Char}
    (h : ∀ part ∈ parts, IsJson part) (h' : ∀ part ∈ parts', IsJson part)
    (heq : enclosed .array parts ++ rest = enclosed .array parts' ++ rest') : parts = parts' := by
  have hpairs := @enclosed_inj .array (parts.map fun part => ([], part))
    (parts'.map fun part => ([], part)) rest rest'
    (List.forall_mem_map.2 fun part hpart => ⟨.array, h part hpart⟩)
    (List.forall_mem_map.2 fun part hpart => ⟨.array, h' part hpart⟩)
    (by simpa [Function.comp_def] using heq)
  exact (List.map_inj_right fun _ _ hpair => (Prod.mk.inj hpair).2).1 hpairs

/-- The closing quote of a name is told by the text alone, and so is the name. -/
theorem Spells.append_quote_inj {name name' : String} {body body' s s' : List Char}
    (h : Spells body name.toList) (h' : Spells body' name'.toList)
    (heq : body ++ '"' :: s = body' ++ '"' :: s') : name = name' ∧ body = body' ∧ s = s' := by
  have hread : unquote [] (body ++ '"' :: s) = .ok (name, s) :=
    unquote_eq_ok_iff.2 ⟨body, h, rfl⟩
  rw [heq, unquote_eq_ok_iff.2 ⟨body', h', rfl⟩] at hread
  cases hread
  exact ⟨rfl, List.append_cancel_right heq, rfl⟩

/-- A key stands for one name only. -/
theorem Member.ext_text {m m' : Member} (hkey : m.key = m'.key) (hvalue : m.value = m'.value) :
    m = m' := by
  obtain ⟨w, t, v, hw, ⟨body, hbody, rfl⟩, hv, hm⟩ := m.isKey
  obtain ⟨w', t', v', hw', ⟨body', hbody', rfl⟩, hv', hm'⟩ := m'.isKey
  have hquotes : w ++ '"' :: (body ++ '"' :: v) = w' ++ '"' :: (body' ++ '"' :: v') := by
    simpa [hm, hm', inQuotes] using hkey
  obtain ⟨-, -, hbodies⟩ := hw.append_cons_inj hw' rfl rfl hquotes
  obtain ⟨hname, -, -⟩ := hbody.append_quote_inj hbody' hbodies
  cases m
  cases m'
  cases hname
  cases hkey
  cases hvalue
  rfl

/-- The members of an object are told by its text alone. -/
theorem objectOf_inj {members members' : List Member} {rest rest' : List Char}
    (h : ∀ m ∈ members, IsJson m.value) (h' : ∀ m ∈ members', IsJson m.value)
    (heq : objectOf members ++ rest = objectOf members' ++ rest') : members = members' := by
  have hfront : ∀ m : Member, IsFront .object (m.key ++ [':']) := fun m =>
    .object (m.isKey.mono fun _ => Names.isString)
  have htext : Member.text = fun m => (m.key ++ [':']) ++ m.value :=
    funext fun m => by simp [Member.text, memberOf]
  have hobject : ∀ ms : List Member, objectOf ms = enclosed .object
      ((ms.map fun m => (m.key ++ [':'], m.value)).map fun part => part.1 ++ part.2) := fun ms => by
    rw [objectOf, htext, List.map_map]
    rfl
  rw [hobject, hobject] at heq
  have hpairs := enclosed_inj (List.forall_mem_map.2 fun m hm => ⟨hfront m, h m hm⟩)
    (List.forall_mem_map.2 fun m hm => ⟨hfront m, h' m hm⟩) heq
  refine (List.map_inj_right fun m m' hpair => ?_).1 hpairs
  obtain ⟨hkey, hvalue⟩ := Prod.mk.inj hpair
  exact Member.ext_text (List.append_cancel_right hkey) hvalue

end GridRobot
