import GridRobot.Proofs.Json.Reading
import GridRobot.Proofs.Text.Numerals
import GridRobot.Proofs.Text.PrefixCodes

/-!
# Values from their lines

The text with a line for each element and field is that of one value only. Sorted by name, the
fields of an object are still those of the object.

* `Tells`: a code tells a value at the front of any text that does not go on with a number;
* `shapeOf`: the shape of a value, which the first character of its text tells;
* `Json.block_inj`: the lines between two brackets tell what they are made for;
* `Json.tells_prettyAt`, `Json.pretty_injective`: so do the lines of a value, at any depth;
* `Json.sortKeys_eq_of_mem`: the value of a name is found again after sorting.
-/

namespace GridRobot

variable {α : Type}

/-- At the front of a text that does not go on with a number, the code tells the value. -/
def Tells (code : α → List Char) (a : α) : Prop :=
  ∀ ⦃a' : α⦄ ⦃s s' : List Char⦄, EndsNumber s → EndsNumber s' → code a ++ s = code a' ++ s' →
    a = a' ∧ s = s'

/-! ### Strings and numbers -/

namespace Json

theorem prefixCode_string : PrefixCode fun s => (string s).toList := by
  intro t t' s s' h
  have htail : (string t).toList.tail ++ s = (string t').toList.tail ++ s' := by
    have hquoted : (string t).toList ++ s = (string t').toList ++ s' := h
    rw [toList_string t, toList_string t'] at hquoted
    exact (List.cons.inj hquoted).2
  have hread := unquote_string t s
  rw [htail, unquote_string t' s'] at hread
  cases hread
  exact ⟨rfl, rfl⟩

end Json

namespace Decimal

theorem tells_ofNat (n : Nat) : Tells (fun n => (ofNat n).toList) n := by
  intro n' s s' hs hs' h
  simp only [toList_ofNat] at h
  have hscan := NumberText.scan_toDigits n hs
  rw [h, NumberText.scan_toDigits n' hs'] at hscan
  simp only [Except.ok.injEq, Prod.mk.injEq, NumberText.mk.injEq, and_true] at hscan
  obtain ⟨hdigits, rfl⟩ := hscan
  refine ⟨ofNat_injective ?_, rfl⟩
  rw [ofNat, ofNat, hdigits]

theorem exists_toList_ofNat (n : Nat) :
    ∃ c ds, (ofNat n).toList = c :: ds ∧ c.isDigit = true := by
  obtain ⟨c, ds, hds⟩ := List.exists_cons_of_ne_nil (Nat.toDigits_ne_nil (b := 10) (n := n))
  refine ⟨c, ds, by rw [toList_ofNat, hds], ?_⟩
  exact Nat.isDigit_of_mem_toDigits (by decide) (by decide) (hds ▸ List.mem_cons_self)

theorem exists_toList_ofInt (z : Int) :
    ∃ c t, (ofInt z).toList = c :: t ∧ (c.isDigit = true ∨ c = '-') := by
  cases z with
  | ofNat n =>
    obtain ⟨c, ds, hds, hc⟩ := exists_toList_ofNat n
    exact ⟨c, ds, hds, .inl hc⟩
  | negSucc n => exact ⟨'-', _, String.toList_append, .inr rfl⟩

/-- A minus sign is no digit. -/
theorem toList_ofNat_append_ne (n : Nat) (s s' : List Char) : (ofNat n).toList ++ s ≠ '-' :: s' := by
  obtain ⟨c, ds, hds, hdigit⟩ := exists_toList_ofNat n
  rw [hds]
  rintro ⟨⟩
  exact absurd hdigit (by decide)

theorem tells_ofInt (z : Int) : Tells (fun z => (ofInt z).toList) z := by
  intro z' s s' hs hs' h
  cases z with
  | ofNat n =>
    cases z' with
    | ofNat n' =>
      obtain ⟨rfl, hrest⟩ := tells_ofNat n hs hs' h
      exact ⟨rfl, hrest⟩
    | negSucc n' =>
      simp only [ofInt, String.toList_append, List.append_assoc] at h
      exact absurd h (toList_ofNat_append_ne n s _)
  | negSucc n =>
    simp only [ofInt, String.toList_append, List.append_assoc] at h
    cases z' with
    | ofNat n' => exact absurd h.symm (toList_ofNat_append_ne n' s' _)
    | negSucc n' =>
      simp only [String.toList_append, List.append_assoc] at h
      obtain ⟨hn, hrest⟩ := tells_ofNat (n + 1) hs hs' (List.append_cancel_left h)
      exact ⟨by rw [Nat.succ.inj hn], hrest⟩

end Decimal

/-! ### Lines -/

section Lines

variable {code : α → String} {as as' : List α} {front s s' : List Char}

/-- After a line comes a comma or a new line. -/
theorem endsNumber_lines (code : α → String) (as : List α) (front s : List Char) :
    EndsNumber ((as.flatMap fun a => ',' :: (front ++ (code a).toList)) ++ '\n' :: s) := by
  cases as with
  | nil => exact endsNumber_cons rfl (by decide)
  | cons a as => exact endsNumber_cons rfl (by decide)

/-- The lines after the first, up to the line of the closing bracket. -/
theorem flatMap_lines_inj (h : ∀ a ∈ as, Tells (fun a => (code a).toList) a)
    (heq : (as.flatMap fun a => ',' :: (front ++ (code a).toList)) ++ '\n' :: s =
      (as'.flatMap fun a => ',' :: (front ++ (code a).toList)) ++ '\n' :: s') :
    as = as' ∧ s = s' := by
  induction as generalizing as' with
  | nil =>
    cases as' with
    | nil => exact ⟨rfl, (List.cons.inj heq).2⟩
    | cons a' as' => cases heq
  | cons a as ih =>
    cases as' with
    | nil => cases heq
    | cons a' as' =>
      obtain ⟨ha, has⟩ := List.forall_mem_cons.1 h
      simp only [List.flatMap_cons, List.cons_append, List.append_assoc, List.cons.injEq,
        true_and] at heq
      obtain ⟨rfl, hrest⟩ := ha (endsNumber_lines code as front s)
        (endsNumber_lines code as' front s') (List.append_cancel_left heq)
      obtain ⟨rfl, hs⟩ := ih has hrest
      exact ⟨rfl, hs⟩

namespace Json

section Block

variable {indent : Nat} {opening closing : String} {x : Char} (hclosing : closing.toList = [x])
include hclosing

theorem block_nil_append (s : List Char) :
    (block indent opening closing []).toList ++ s = opening.toList ++ x :: s := by
  simp [block, hclosing]

theorem block_cons_append (code : α → String) (a : α) (as : List α) (s : List Char) :
    (block indent opening closing ((a :: as).map code)).toList ++ s =
      opening.toList ++ '\n' :: (List.replicate (indent + 2) ' ' ++ ((code a).toList ++
        ((as.flatMap fun a => ',' :: ((newline (indent + 2)).toList ++ (code a).toList)) ++
          '\n' :: (List.replicate indent ' ' ++ x :: s)))) := by
  simp [block, newline, String.toList_intercalate, intercalate_cons_eq_flatMap, List.flatMap_map,
    hclosing]

/-- Lines between brackets tell what they are made for. -/
theorem block_inj (hx : x ≠ '\n') (h : ∀ a ∈ as, Tells (fun a => (code a).toList) a)
    (heq : (block indent opening closing (as.map code)).toList ++ s =
      (block indent opening closing (as'.map code)).toList ++ s') : as = as' ∧ s = s' := by
  cases as with
  | nil =>
    cases as' with
    | nil => exact ⟨rfl, List.append_cancel_left heq⟩
    | cons a' as' =>
      rw [List.map_nil, block_nil_append hclosing, block_cons_append hclosing] at heq
      exact absurd (List.cons.inj (List.append_cancel_left heq)).1 hx
  | cons a as =>
    cases as' with
    | nil =>
      rw [List.map_nil, block_nil_append hclosing, block_cons_append hclosing] at heq
      exact absurd (List.cons.inj (List.append_cancel_left heq)).1.symm hx
    | cons a' as' =>
      obtain ⟨ha, has⟩ := List.forall_mem_cons.1 h
      rw [block_cons_append hclosing, block_cons_append hclosing] at heq
      have hlines := List.append_cancel_left (List.cons.inj (List.append_cancel_left heq)).2
      obtain ⟨rfl, hrest⟩ := ha (endsNumber_lines _ _ _ _) (endsNumber_lines _ _ _ _) hlines
      obtain ⟨rfl, hend⟩ := flatMap_lines_inj has hrest
      exact ⟨rfl, (List.cons.inj (List.append_cancel_left hend)).2⟩

end Block

end Json

end Lines

/-! ### Values -/

namespace Json

/-- A value without what it holds. -/
def shape : Json → Json
  | num _ => num 0
  | str _ => str ""
  | arr _ => arr []
  | obj _ => obj []
  | v => v

/-- The shape of a value whose text begins with the given character. -/
def shapeOf (c : Char) : Json :=
  if c = 'n' then null
  else if c = 't' then bool true
  else if c = 'f' then bool false
  else if c = '"' then str ""
  else if c = '[' then arr []
  else if c = '\x7b' then obj []
  else num 0

section Equations

variable (indent : Nat)

@[simp] theorem prettyAt_null : prettyAt indent null = "null" := by
  rw [prettyAt] <;> simp [atom]

@[simp] theorem prettyAt_bool (b : Bool) :
    prettyAt indent (bool b) = if b then "true" else "false" := by
  rw [prettyAt] <;> cases b <;> simp [atom]

@[simp] theorem prettyAt_num (z : Int) : prettyAt indent (num z) = Decimal.ofInt z := by
  rw [prettyAt] <;> simp [atom]

@[simp] theorem prettyAt_str (s : String) : prettyAt indent (str s) = string s := by
  rw [prettyAt] <;> simp [atom]

theorem prettyAt_arr (items : List Json) :
    prettyAt indent (arr items) = block indent "[" "]" (items.map (prettyAt (indent + 2))) := by
  rw [prettyAt]

/-- The line of a field. -/
def fieldLine (f : String × Json) : String := string f.1 ++ ": " ++ prettyAt indent f.2

theorem prettyAt_obj (fields : List (String × Json)) :
    prettyAt indent (obj fields) =
      block indent "\x7b" "\x7d" (fields.map (fieldLine (indent + 2))) := by
  rw [prettyAt]
  rfl

end Equations

theorem exists_toList_block (indent : Nat) (opening closing : String) (lines : List String) :
    ∃ t, (block indent opening closing lines).toList = opening.toList ++ t := by
  unfold block
  split
  · exact ⟨_, String.toList_append⟩
  · simp only [String.toList_append, List.append_assoc]
    exact ⟨_, rfl⟩

/-- The first character of the text tells the shape of the value. -/
theorem exists_shapeOf (indent : Nat) (v : Json) :
    ∃ c t, (prettyAt indent v).toList = c :: t ∧ shapeOf c = v.shape := by
  cases v with
  | null => exact ⟨'n', ['u', 'l', 'l'], by simp, by simp [shapeOf, shape]⟩
  | bool b =>
    cases b with
    | true => exact ⟨'t', ['r', 'u', 'e'], by simp, by simp [shapeOf, shape]⟩
    | false => exact ⟨'f', ['a', 'l', 's', 'e'], by simp, by simp [shapeOf, shape]⟩
  | num z =>
    obtain ⟨c, t, ht, hc⟩ := Decimal.exists_toList_ofInt z
    refine ⟨c, t, by rw [prettyAt_num, ht], ?_⟩
    rcases hc with hdigit | rfl
    · have hne : ∀ x : Char, x.isDigit = false → c ≠ x := by
        rintro x hx rfl
        rw [hdigit] at hx
        cases hx
      simp [shapeOf, shape, hne]
    · simp [shapeOf, shape]
  | str s => exact ⟨'"', _, by rw [prettyAt_str, toList_string], by simp [shapeOf, shape]⟩
  | arr items =>
    obtain ⟨t, ht⟩ := exists_toList_block indent "[" "]" (items.map (prettyAt (indent + 2)))
    exact ⟨'[', t, by rw [prettyAt_arr, ht]; rfl, by simp [shapeOf, shape]⟩
  | obj fields =>
    obtain ⟨t, ht⟩ :=
      exists_toList_block indent "\x7b" "\x7d" (fields.map (fieldLine (indent + 2)))
    exact ⟨'\x7b', t, by rw [prettyAt_obj, ht]; rfl, by simp [shapeOf, shape]⟩

/-- A value is told by its lines, whatever follows them. -/
theorem tells_prettyAt (indent : Nat) (v : Json) :
    Tells (fun v => (prettyAt indent v).toList) v := by
  intro v' s s' hs hs' h
  -- values of different shapes are told apart by the first character
  have hshape : v.shape = v'.shape := by
    obtain ⟨c, t, ht, hc⟩ := exists_shapeOf indent v
    obtain ⟨c', t', ht', hc'⟩ := exists_shapeOf indent v'
    simp only [ht, ht'] at h
    rw [← hc, ← hc', (List.cons.inj h).1]
  match v, v', hshape with
  | null, null, _ => exact ⟨rfl, List.append_cancel_left h⟩
  | bool b, bool b', hb =>
    cases hb
    exact ⟨rfl, List.append_cancel_left h⟩
  | num z, num z', _ =>
    simp only [prettyAt_num] at h
    obtain ⟨rfl, hrest⟩ := Decimal.tells_ofInt z hs hs' h
    exact ⟨rfl, hrest⟩
  | str t, str t', _ =>
    simp only [prettyAt_str] at h
    obtain ⟨rfl, hrest⟩ := prefixCode_string h
    exact ⟨rfl, hrest⟩
  | arr items, arr items', _ =>
    simp only [prettyAt_arr] at h
    have hitems : ∀ v ∈ items, Tells (fun v => (prettyAt (indent + 2) v).toList) v :=
      fun v hv => tells_prettyAt (indent + 2) v
    obtain ⟨rfl, hrest⟩ := block_inj rfl (by decide) hitems h
    exact ⟨rfl, hrest⟩
  | obj fields, obj fields', _ =>
    simp only [prettyAt_obj] at h
    have hfields : ∀ f ∈ fields, Tells (fun f => (fieldLine (indent + 2) f).toList) f := by
      intro f hf f' s s' hs hs' h
      simp only [fieldLine, String.toList_append, List.append_assoc] at h
      obtain ⟨hname, h⟩ := prefixCode_string h
      obtain ⟨hvalue, hrest⟩ := tells_prettyAt (indent + 2) f.2 hs hs' (List.append_cancel_left h)
      exact ⟨Prod.ext hname hvalue, hrest⟩
    obtain ⟨rfl, hrest⟩ := block_inj rfl (by decide) hfields h
    exact ⟨rfl, hrest⟩
termination_by sizeOf v
decreasing_by
  · exact sizeOf_item_lt hv
  · exact sizeOf_field_lt hf

/-- The text with a line for each element and field is that of one value only. -/
theorem pretty_injective : Function.Injective pretty := by
  intro v v' h
  have hends : EndsNumber [] := nofun
  have hlines : (prettyAt 0 v).toList ++ [] = (prettyAt 0 v').toList ++ [] := by
    rw [show prettyAt 0 v = prettyAt 0 v' from h]
  exact (tells_prettyAt 0 v hends hends hlines).1

/-! ### Sorted fields -/

@[simp] theorem sortKeys_null : null.sortKeys = null := by
  rw [sortKeys] <;> simp

@[simp] theorem sortKeys_num (z : Int) : (num z).sortKeys = num z := by
  rw [sortKeys] <;> simp

@[simp] theorem sortKeys_str (s : String) : (str s).sortKeys = str s := by
  rw [sortKeys] <;> simp

theorem sortKeys_arr (items : List Json) : (arr items).sortKeys = arr (items.map sortKeys) := by
  rw [sortKeys]

theorem sortKeys_obj (fields : List (String × Json)) :
    (obj fields).sortKeys =
      obj ((fields.map fun f => (f.1, f.2.sortKeys)).mergeSort fun f g => f.1 ≤ g.1) := by
  rw [sortKeys]

/-- Objects that are equal after sorting give the same value to a name. -/
theorem sortKeys_eq_of_mem {fields fields' : List (String × Json)}
    (h : (obj fields).sortKeys = (obj fields').sortKeys) {v v' : Json} (name : String)
    (hv : (name, v) ∈ fields) (hv' : ∀ w, (name, w) ∈ fields' → w = v') :
    v.sortKeys = v'.sortKeys := by
  rw [sortKeys_obj, sortKeys_obj, obj.injEq] at h
  have hmem : (name, v.sortKeys) ∈ fields.map fun f => (f.1, f.2.sortKeys) :=
    List.mem_map_of_mem (f := fun f => (f.1, f.2.sortKeys)) hv
  rw [← List.mem_mergeSort, h, List.mem_mergeSort, List.mem_map] at hmem
  obtain ⟨⟨name', w⟩, hw, heq⟩ := hmem
  obtain ⟨rfl, hsorted⟩ := Prod.mk.inj heq
  rw [← hsorted, hv' w hw]

end Json

end GridRobot
