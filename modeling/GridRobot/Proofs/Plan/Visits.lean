import GridRobot.Plan.Traversal
import Mathlib.Data.List.Basic

/-!
# First visits

A traversal may come to a position several times, and lists each position once when it is asked
for its unique positions. It does so in one pass with a set of the positions it has seen.

* `eraseDups_filter`, `eraseDups_append_eq_filter`, `pair_sublist_eraseDups_iff`: lists without
  their repetitions, in parts and in order;
* `firstVisits_eq`: the pass leaves out what was seen before it, and repetitions of the rest;
* `Traversal.uniquePositions_eq`: the unique positions are the path without its repetitions;
* `Traversal.mem_uniquePositions`, `Traversal.nodup_uniquePositions`: they are the positions of
  the path, each of them once;
* `Traversal.ListsFirstVisits`, `Traversal.lists_first_visits`: they are listed in the order of
  their first visits, and those of a path in two parts come from those of the parts.
-/

namespace GridRobot

/-! ### Lists without their repetitions -/

theorem nodup_eraseDups {α : Type} [DecidableEq α] (l : List α) : l.eraseDups.Nodup := by
  match l with
  | [] => simp
  | a :: l =>
    rw [List.eraseDups_cons, List.nodup_cons]
    refine ⟨?_, nodup_eraseDups (l.filter fun b => !b == a)⟩
    simp [List.mem_eraseDups]
termination_by l.length
decreasing_by exact Nat.lt_succ_of_le (List.length_filter_le _ _)

theorem pair_sublist_filter_iff {α : Type} {a b : α} {keep : α → Bool} {l : List α} :
    [a, b].Sublist (l.filter keep) ↔ [a, b].Sublist l ∧ keep a = true ∧ keep b = true := by
  constructor
  · intro h
    have hkeep : ∀ c ∈ [a, b], keep c = true := fun c hc => (List.mem_filter.1 (h.subset hc)).2
    exact ⟨h.trans List.filter_sublist, hkeep a (by simp), hkeep b (by simp)⟩
  · rintro ⟨h, ha, hb⟩
    simpa [ha, hb] using h.filter keep

section

variable {α : Type} [DecidableEq α]

/-- Repetitions can be left out before or after a choice of elements. -/
theorem eraseDups_filter (keep : α → Bool) (l : List α) :
    (l.filter keep).eraseDups = l.eraseDups.filter keep := by
  match l with
  | [] => rfl
  | a :: l =>
    have ih := eraseDups_filter keep (l.filter fun b => !b == a)
    rw [List.eraseDups_cons]
    by_cases ha : keep a = true
    · rw [List.filter_cons_of_pos ha, List.filter_cons_of_pos ha, List.eraseDups_cons, ← ih,
        List.filter_comm]
    · -- no element that is kept is equal to `a`
      have hkeep : (l.filter fun b => !b == a).filter keep = l.filter keep := by
        rw [List.filter_filter]
        apply List.filter_congr
        intro b _
        by_cases hb : b = a
        · simp [hb, ha]
        · simp [hb]
      rw [List.filter_cons_of_neg ha, List.filter_cons_of_neg ha, ← ih, hkeep]
termination_by l.length
decreasing_by exact Nat.lt_succ_of_le (List.length_filter_le _ _)

theorem eraseDups_of_nodup {l : List α} (h : l.Nodup) : l.eraseDups = l := by
  induction l with
  | nil => rfl
  | cons a l ih =>
    obtain ⟨ha, hl⟩ := List.nodup_cons.1 h
    have hother : (l.filter fun b => !b == a) = l := by
      apply List.filter_eq_self.2
      intro b hb
      simpa using ne_of_mem_of_not_mem hb ha
    rw [List.eraseDups_cons, hother, ih hl]

/-- Of a second part only what is not in the first part is left. -/
theorem eraseDups_append_eq_filter (l m : List α) :
    (l ++ m).eraseDups = l.eraseDups ++ m.eraseDups.filter fun a => a ∉ l := by
  rw [List.eraseDups_append, List.removeAll, eraseDups_filter]
  simp

/-- Elements stay in the order of their first occurrences. -/
theorem pair_sublist_eraseDups_iff {a b : α} {l : List α} :
    [a, b].Sublist l.eraseDups ↔ b ∈ l ∧ l.idxOf a < l.idxOf b := by
  induction l with
  | nil => simp
  | cons c l ih =>
    rw [List.eraseDups_cons, eraseDups_filter, List.cons_sublist_cons', List.singleton_sublist,
      pair_sublist_filter_iff, ih, List.mem_filter, List.mem_eraseDups]
    by_cases hb : b = c
    · -- nothing comes before the first element
      subst hb
      simp
    · rw [List.idxOf_cons_ne l (Ne.symm hb)]
      by_cases ha : a = c
      · subst ha
        simp [hb]
      · rw [List.idxOf_cons_ne l (Ne.symm ha)]
        simp [ha, hb]

end

/-! ### Paths -/

namespace Traversal

/-- The pass prepends what it found before, and adds what was not seen before, without
repetitions. -/
theorem firstVisits_eq (seen : PositionSet) (found path : List Position) :
    firstVisits seen found path =
      found.reverse ++ (path.filter fun p => !seen.contains p).eraseDups := by
  induction path generalizing seen found with
  | nil => simp [firstVisits]
  | cons p path ih =>
    rw [firstVisits]
    cases hp : seen.contains p with
    | true =>
      rw [if_pos rfl, ih, List.filter_cons_of_neg (by simp [hp])]
    | false =>
      -- later repetitions of `p` are left out because `p` is seen from now on
      have hfilter : (path.filter fun q => !(seen.insert p).contains q) =
          (path.filter fun q => !seen.contains q).filter fun q => !q == p := by
        rw [List.filter_filter]
        apply List.filter_congr
        intro q _
        rw [PositionSet.contains_insert, Bool.not_or]
      rw [if_neg Bool.false_ne_true, ih, hfilter, List.filter_cons_of_pos (by simp [hp]),
        List.eraseDups_cons, List.reverse_cons, List.append_assoc, List.singleton_append]

/-- The unique positions are the path with every repetition left out. -/
theorem uniquePositions_eq (t : Traversal) : t.uniquePositions = t.path.eraseDups := by
  rw [uniquePositions, firstVisits_eq, List.reverse_nil, List.nil_append,
    List.filter_eq_self.2 fun p _ => by simp]

@[simp] theorem mem_uniquePositions {t : Traversal} {p : Position} :
    p ∈ t.uniquePositions ↔ p ∈ t.path := by
  rw [uniquePositions_eq, List.mem_eraseDups]

theorem nodup_uniquePositions (t : Traversal) : t.uniquePositions.Nodup :=
  t.uniquePositions_eq ▸ nodup_eraseDups t.path

/-- A list holds the positions of a path, each of them once, in the order of their first
visits. -/
structure ListsFirstVisits (path listed : List Position) : Prop where
  nodup : listed.Nodup
  mem_iff : ∀ p, p ∈ listed ↔ p ∈ path
  before_iff : ∀ p q,
    [p, q].Sublist listed ↔ p ∈ path ∧ q ∈ path ∧ path.idxOf p < path.idxOf q

theorem listsFirstVisits_uniquePositions (t : Traversal) :
    ListsFirstVisits t.path t.uniquePositions where
  nodup := t.nodup_uniquePositions
  mem_iff _ := mem_uniquePositions
  before_iff p q := by
    rw [uniquePositions_eq, pair_sublist_eraseDups_iff]
    constructor
    · rintro ⟨hq, hlt⟩
      have hp : t.path.idxOf p < t.path.length :=
        Nat.lt_trans hlt (List.idxOf_lt_length_of_mem hq)
      exact ⟨List.idxOf_lt_length_iff.1 hp, hq, hlt⟩
    · rintro ⟨-, hq, hlt⟩
      exact ⟨hq, hlt⟩

/-- **The unique positions are the first visits.** They are the positions of the path, each of
them once, in the order of their first visits. As a path they are their own unique positions, and
when a path goes on, only positions that are new to it are added. -/
theorem lists_first_visits (t : Traversal) :
    ListsFirstVisits t.path t.uniquePositions ∧
      (∀ inBounds, uniquePositions ⟨inBounds, t.uniquePositions⟩ = t.uniquePositions) ∧
      ∀ inBounds inBounds' later, uniquePositions ⟨inBounds, t.path ++ later⟩ =
        t.uniquePositions ++ (uniquePositions ⟨inBounds', later⟩).filter fun p => p ∉ t.path := by
  refine ⟨t.listsFirstVisits_uniquePositions, fun inBounds => ?_, fun inBounds _ later => ?_⟩
  · rw [uniquePositions_eq, eraseDups_of_nodup t.nodup_uniquePositions]
  · simp only [uniquePositions_eq]
    exact eraseDups_append_eq_filter t.path later

/-- On the way back nothing is new. -/
example : uniquePositions ⟨true, [⟨0, 0⟩, ⟨0, ⟨1, by decide, by decide⟩⟩, ⟨0, 0⟩]⟩ =
    [⟨0, 0⟩, ⟨0, ⟨1, by decide, by decide⟩⟩] := by decide

end Traversal

end GridRobot
