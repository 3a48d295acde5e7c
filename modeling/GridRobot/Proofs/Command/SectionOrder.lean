import GridRobot.Proofs.Command.Rejection
import GridRobot.Proofs.Grid.Text

/-!
# Sections in another order

A command is known by its sections, and not by the order in which they are written. The order only
decides which of several faults is met first.

* `Command.parse_intercalate_eq_ok_iff`: when sections joined by semicolons make up a command;
* `Command.parse_intercalate_perm`: sections that are put into another order make up the same
  command, or are rejected again.
-/

namespace GridRobot

namespace Command

variable {c : Command} {parts : List String}

/-- Three texts without a semicolon make up a command when they are its sections, each of them
somewhere. -/
theorem parse_intercalate_eq_ok_iff (hlen : parts.length = 3)
    (hsep : ∀ part ∈ parts, ';' ∉ part.toList) :
    parse (";".intercalate parts) = .ok c ↔
      ∃ m s l, (parts.map String.toList).Perm [m, s, l] ∧ SectionText m (.map c.bounds) ∧
        SectionText s (.start c.start) ∧ SectionText l (.steps c.steps) := by
  have hsplit : (";".intercalate parts).toList.splitOn ';' = parts.map String.toList := by
    rw [splitOn_eq_iff, String.toList_intercalate]
    refine ⟨?_, rfl, List.forall_mem_map.2 hsep⟩
    exact List.ne_nil_of_length_eq_add_one (by rw [List.length_map, hlen])
  rw [parse_of_length_eq (by rw [hsplit, List.length_map, hlen]), hsplit,
    foldlM_readSection_finish_iff, exists_sections_iff]

/-- **The order of the sections does not matter.** Three texts without a semicolon make up the same
command in every order. If they are rejected in one order they are rejected in all, though perhaps
with another error. -/
theorem parse_intercalate_perm {a b d : String} (hp : parts.Perm [a, b, d])
    (hsep : ∀ part ∈ [a, b, d], ';' ∉ part.toList) :
    (∀ c, parse (";".intercalate parts) = .ok c ↔
      parse (";".intercalate [a, b, d]) = .ok c) ∧
    ((∃ e, parse (";".intercalate parts) = .error e) ↔
      ∃ e, parse (";".intercalate [a, b, d]) = .error e) := by
  have hok : ∀ c, parse (";".intercalate parts) = .ok c ↔
      parse (";".intercalate [a, b, d]) = .ok c := by
    intro c
    have hsep' : ∀ part ∈ parts, ';' ∉ part.toList := fun part h => hsep part (hp.mem_iff.1 h)
    have hmap : (parts.map String.toList).Perm ([a, b, d].map String.toList) := hp.map _
    rw [parse_intercalate_eq_ok_iff hp.length_eq hsep', parse_intercalate_eq_ok_iff rfl hsep]
    -- the same sections are found in both orders
    constructor
    · rintro ⟨m, s, l, hperm, hsections⟩
      exact ⟨m, s, l, hmap.symm.trans hperm, hsections⟩
    · rintro ⟨m, s, l, hperm, hsections⟩
      exact ⟨m, s, l, hmap.trans hperm, hsections⟩
  refine ⟨hok, ?_⟩
  rw [exists_eq_error_iff, exists_eq_error_iff]
  exact forall_congr' fun c => not_congr (hok c)

/-- A command that leaves its map to the east. -/
def eastward : Command where
  bounds := ⟨⟨.lowest, 0⟩, ⟨⟨8, by decide, by decide⟩, .highest⟩⟩
  start := .origin
  steps := [⟨.east, 9, by decide, by decide⟩]

theorem parse_intercalate_perm_eastward :
    let parts := ["[E9]", "M:-2147483648,8,0,2147483647", "S:0,0"]
    let usual := ["M:-2147483648,8,0,2147483647", "S:0,0", "[E9]"]
    parts.Perm usual ∧ (∀ part ∈ usual, ';' ∉ part.toList) ∧
      parse (";".intercalate usual) = .ok eastward ∧
      parse (";".intercalate parts) = .ok eastward := by
  intro parts usual
  have hp : parts.Perm usual := (List.perm_append_comm : (["[E9]"] ++ _).Perm (_ ++ ["[E9]"]))
  have hsep : ∀ part ∈ usual, ';' ∉ part.toList := by decide
  have h : parse (";".intercalate usual) = .ok eastward := by decide
  exact ⟨hp, hsep, h, ((parse_intercalate_perm hp hsep).1 eastward).2 h⟩

-- The section that is met first is reported.
example : parse "M:1;S:0,0;Q" = .error (.mapFormat 1) ∧
    parse "Q;S:0,0;M:1" = .error (.unknownSection "Q") := by decide

end Command

end GridRobot
