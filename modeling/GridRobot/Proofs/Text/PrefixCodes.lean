import GridRobot.Proofs.Text.Fields

/-!
# Prefix codes

Texts that tell where they end. A text made of such parts can be taken apart in one way only, even
if nothing but the parts themselves separates them.

* `PrefixCode`: no code begins with another one;
* `PrefixCode.prepend`, `PrefixCode.of_terminated`: codes with a fixed beginning or a fixed end;
* `PrefixCode.flatMap_append_cons_inj`: a list of codes up to an end mark is the list of one list
  of values;
* `intercalate_cons_eq_flatMap`: joined texts as the first one and codes that begin with the
  separator;
* `prefix_or_prefix_of_append_eq`: texts that cannot be told apart at their beginnings.
-/

namespace GridRobot

variable {α β : Type} {code : α → List β}

/-- At the front of a text there is at most one code. -/
def PrefixCode (code : α → List β) : Prop :=
  ∀ ⦃a a' : α⦄ ⦃s s' : List β⦄, code a ++ s = code a' ++ s' → a = a' ∧ s = s'

namespace PrefixCode

theorem injective (h : PrefixCode code) : Function.Injective code := by
  intro a a' heq
  have hend : code a ++ [] = code a' ++ [] := by rw [heq]
  exact (h hend).1

theorem prepend (h : PrefixCode code) (front : List β) : PrefixCode fun a => front ++ code a := by
  intro a a' s s' heq
  rw [List.append_assoc, List.append_assoc] at heq
  exact h (List.append_cancel_left heq)

/-- What ends with a mark that it does not have before tells where it ends. -/
theorem of_terminated [BEq β] [LawfulBEq β] {x : β} {body : α → List β} (hx : ∀ a, x ∉ body a)
    (hbody : Function.Injective body) : PrefixCode fun a => body a ++ [x] := by
  intro a a' s s' heq
  rw [List.append_assoc, List.append_assoc] at heq
  obtain ⟨hab, hs⟩ := (append_cons_inj (hx a) (hx a')).1 heq
  exact ⟨hbody hab, hs⟩

/-- No code begins with the end mark, so that the mark is not taken for the beginning of another
code, nor a code for the mark. -/
theorem flatMap_append_cons_inj (h : PrefixCode code) {x : β}
    (hx : ∀ a, ∃ y t, code a = y :: t ∧ y ≠ x) {as as' : List α} {s s' : List β}
    (heq : as.flatMap code ++ x :: s = as'.flatMap code ++ x :: s') : as = as' ∧ s = s' := by
  have hmark : ∀ {a as s s'}, x :: s ≠ (a :: as).flatMap code ++ x :: s' := by
    intro a as s s' heq
    obtain ⟨y, t, ha, hy⟩ := hx a
    rw [List.flatMap_cons, ha] at heq
    exact hy (List.cons.inj heq).1.symm
  induction as generalizing as' with
  | nil =>
    cases as' with
    | nil => exact ⟨rfl, (List.cons.inj heq).2⟩
    | cons a' as' => exact absurd heq hmark
  | cons a as ih =>
    cases as' with
    | nil => exact absurd heq.symm hmark
    | cons a' as' =>
      rw [List.flatMap_cons, List.flatMap_cons, List.append_assoc, List.append_assoc] at heq
      obtain ⟨rfl, hrest⟩ := h heq
      obtain ⟨rfl, hs⟩ := ih hrest
      exact ⟨rfl, hs⟩

end PrefixCode

/-- Of two texts with the same beginnings one begins with the other. -/
theorem prefix_or_prefix_of_append_eq {a a' s s' : List α} (h : a ++ s = a' ++ s') :
    a <+: a' ∨ a' <+: a :=
  List.prefix_or_prefix_of_prefix ⟨s, h⟩ (List.prefix_append a' s')

/-- Parts with a separator between them are the first part and the others with the separator in
front of each. -/
theorem intercalate_cons_eq_flatMap (sep part : List α) (parts : List (List α)) :
    sep.intercalate (part :: parts) = part ++ parts.flatMap fun p => sep ++ p := by
  induction parts generalizing part with
  | nil => simp
  | cons p parts ih => rw [List.intercalate_cons_cons, ih p, List.flatMap_cons, List.append_assoc,
      List.append_assoc]

end GridRobot
