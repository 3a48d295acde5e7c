/-!
# The environment

Settings are variables with text values.

* `Environment`, `Environment.get?`;
* `Environment.define`: a variable that is only set if it was not.
-/

namespace GridRobot

/-- Variables with their values. The first entry of a name counts. -/
abbrev Environment := List (String × String)

namespace Environment

/-- The value of a variable. -/
def get? (env : Environment) (name : String) : Option String := env.lookup name

/-- The environment in which a variable has a value: the one it had, or else the given one. -/
def define (env : Environment) (name value : String) : Environment :=
  if (env.get? name).isSome then env else env ++ [(name, value)]

theorem get?_append (env added : Environment) (name : String) :
    get? (env ++ added) name = (env.get? name).or (added.get? name) := by
  induction env with
  | nil => rfl
  | cons entry env ih =>
    obtain ⟨n, v⟩ := entry
    simp only [get?, List.cons_append, List.lookup_cons] at ih ⊢
    by_cases h : name = n
    · simp [h]
    · simp only [beq_eq_false_iff_ne.mpr h, ih]

theorem get?_define (env : Environment) (name value other : String) :
    (env.define name value).get? other =
      (env.get? other).or (if other = name then some value else none) := by
  have hadded : get? [(name, value)] other = if other = name then some value else none := by
    by_cases h : other = name
    · simp [get?, h]
    · simp [get?, List.lookup_cons, beq_eq_false_iff_ne.mpr h, h]
  unfold define
  split
  · next hset =>
    by_cases h : other = name
    · obtain ⟨v, hv⟩ := Option.isSome_iff_exists.mp hset
      rw [h, hv]
      rfl
    · rw [if_neg h, Option.or_none]
  · rw [get?_append, hadded]

end Environment

end GridRobot
