import GridRobot.Proofs.Plan.Cursor

/-!
# Calls of a cursor

A cursor is asked for one move after the other, also when its plan is spent. It answers with the
moves of the plan, and then with nothing. All it keeps beside the legs is how many of them are
spent and, in a 32-bit word, how many moves are left of the next one.

* `calls`: several calls in a row, with the answers;
* `Cursor.call`, `Cursor.calls_spec`: the answers of any cursor, and the moves left to it;
* `Registers`: the two numbers. `Registers.call` counts down with nothing else to go by, and
  `Cursor.registers_calls` says that it does what the cursor does;
* `Command.calls_yield_plan`: a fresh cursor after any number of calls.
-/

namespace GridRobot

/-- The answers to `k` calls in a row, and the state after them. -/
def calls {σ : Type} (call : σ → Option Direction × σ) : Nat → σ → List (Option Direction) × σ
  | 0, s => ([], s)
  | k + 1, s =>
    let (answer, s') := call s
    let (answers, s'') := calls call k s'
    (answer :: answers, s'')

theorem calls_succ {σ : Type} (call : σ → Option Direction × σ) (k : Nat) (s : σ) :
    calls call (k + 1) s =
      ((call s).1 :: (calls call k (call s).2).1, (calls call k (call s).2).2) := rfl

namespace Cursor

/-- A call for the next move. When the plan is spent there is none, and the cursor stays. -/
def call (c : Cursor) : Option Direction × Cursor :=
  match c.next with
  | none => (none, c)
  | some (d, c') => (some d, c')

variable {c c' : Cursor} {d : Direction}

theorem call_of_none (h : c.next = none) : c.call = (none, c) := by
  rw [call, h]

theorem call_of_some (h : c.next = some (d, c')) : c.call = (some d, c') := by
  rw [call, h]

/-! ### The answers -/

/-- The answers to `k` calls are the first moves to come, and nothing once there are no more. -/
theorem calls_spec (k : Nat) (c : Cursor) :
    (calls call k c).1 =
        (c.upcoming.take k).map some ++ List.replicate (k - c.remainingDistance) none ∧
      (calls call k c).2.upcoming = c.upcoming.drop k := by
  induction k generalizing c with
  | zero => simp [calls]
  | succ k ih =>
    -- the first call takes the head of the moves to come, if there is one
    rw [calls_succ, (ih c.call.2).1, (ih c.call.2).2, ← length_upcoming, ← length_upcoming]
    cases hn : c.next with
    | none => simp [call_of_none hn, upcoming_of_next_eq_none hn, List.replicate_succ]
    | some step =>
      obtain ⟨d, c'⟩ := step
      simp [call_of_some hn, upcoming_next hn]

theorem remainingDistance_calls (k : Nat) (c : Cursor) :
    (calls call k c).2.remainingDistance = c.remainingDistance - k := by
  rw [← length_upcoming, (calls_spec k c).2, List.length_drop, length_upcoming]

/-! ### The end of the plan -/

theorem pending_eq_nil_iff : c.pending = [] ↔ c.remainingDistance = 0 := by
  constructor
  · intro hp
    have hle := c.remaining_le
    rw [hp, headDistance] at hle
    rw [remainingDistance, hp, List.tail_nil, distanceOf_nil]
    omega
  · intro hr
    by_cases hp : c.pending = []
    · exact hp
    · have hpos := c.remaining_pos hp
      rw [remainingDistance] at hr
      omega

theorem isFinished_iff : c.isFinished = true ↔ c.remainingDistance = 0 := by
  rw [isFinished, List.isEmpty_iff, pending_eq_nil_iff]

theorem currentStep_eq_none_iff : c.currentStep = none ↔ c.remainingDistance = 0 := by
  rw [currentStep, List.head?_eq_none_iff, pending_eq_nil_iff]

theorem currentStep_eq_getElem? (c : Cursor) : c.currentStep = c.steps[c.index]? := by
  rw [currentStep, c.pending_eq, List.head?_drop]

theorem remaining_of_currentStep {s : Step} (h : c.currentStep = some s) :
    1 ≤ c.remaining ∧ c.remaining ≤ s.distance := by
  obtain ⟨rest, hrest⟩ := List.head?_eq_some_iff.1 h
  have hpos := c.remaining_pos (by simp [hrest])
  have hle := c.remaining_le
  rw [hrest, headDistance] at hle
  exact ⟨hpos, hle⟩

end Cursor

/-! ### Registers -/

/-- What a cursor keeps beside the legs: the number of legs spent, and the number of moves left
of the next one. -/
structure Registers where
  index : Nat
  remaining : UInt32
  deriving DecidableEq

namespace Registers

/-- The registers before the first move of leg `index`. -/
def enter (steps : List Step) (index : Nat) : Registers :=
  ⟨index, match steps[index]? with
    | none => 0
    | some s => UInt32.ofNat s.distance⟩

/-- A call for the next move. The word is counted down whatever it holds. -/
def call (steps : List Step) (g : Registers) : Option Direction × Registers :=
  match steps[g.index]? with
  | none => (none, g)
  | some s =>
    let left := g.remaining - 1
    (some s.direction, if left = 0 then enter steps (g.index + 1) else ⟨g.index, left⟩)

/-- The number of moves to come: the word, and a sum over the legs after the next one. -/
def remainingDistance (steps : List Step) (g : Registers) : UInt64 :=
  g.remaining.toUInt64 + wordDistance (steps.drop (g.index + 1))

theorem enter_eq (steps : List Step) (index : Nat) :
    enter steps index = ⟨index, UInt32.ofNat (headDistance (steps.drop index))⟩ := by
  unfold enter
  rw [← List.head?_drop]
  cases steps.drop index <;> rfl

end Registers

namespace Cursor

variable {c : Cursor}

/-- The registers of a cursor. -/
def registers (c : Cursor) : Registers := ⟨c.index, UInt32.ofNat c.remaining⟩

theorem remaining_lt (c : Cursor) : c.remaining < UInt32.size := by
  have hle := c.remaining_le
  cases hp : c.pending with
  | nil =>
    rw [hp, headDistance] at hle
    rw [UInt32.size]
    omega
  | cons s rest =>
    have := s.le
    rw [hp, headDistance] at hle
    rw [UInt32.size]
    omega

/-- The word holds the number of moves left of the leg. -/
theorem toNat_remaining (c : Cursor) : c.registers.remaining.toNat = c.remaining :=
  UInt32.toNat_ofNat_of_lt' c.remaining_lt

theorem registers_ofSteps (steps : List Step) :
    (ofSteps steps).registers = Registers.enter steps 0 := by
  rw [Registers.enter_eq]
  rfl

/-- A move takes its direction from the next leg and counts the word down. -/
theorem registers_next {c' : Cursor} {d : Direction} (h : c.next = some (d, c')) :
    c'.steps = c.steps ∧ ∃ s, c.currentStep = some s ∧ s.direction = d ∧
      c'.registers = if c.registers.remaining - 1 = 0 then Registers.enter c.steps (c.index + 1)
        else ⟨c.index, c.registers.remaining - 1⟩ := by
  unfold next at h
  split at h
  · cases h
  · next s rest hp =>
    have hs : c.currentStep = some s := by rw [currentStep, hp, List.head?_cons]
    obtain ⟨hpos, -⟩ := remaining_of_currentStep hs
    -- the word holds at least one, so it is counted down like the number
    have hleft : c.registers.remaining - 1 = UInt32.ofNat (c.remaining - 1) :=
      (UInt32.ofNat_sub hpos).symm
    have hspent : UInt32.ofNat (c.remaining - 1) = 0 ↔ c.remaining = 1 := by
      have := c.remaining_lt
      rw [← UInt32.toNat_inj, UInt32.toNat_ofNat_of_lt' (by omega), UInt32.toNat_zero]
      omega
    simp only [Option.some.injEq, Prod.mk.injEq] at h
    obtain ⟨rfl, rfl⟩ := h
    rw [hleft]
    split
    · next h₁ =>
      refine ⟨rfl, s, hs, rfl, ?_⟩
      rw [if_pos (hspent.2 h₁), Registers.enter_eq, ← (drop_index_succ (hp ▸ c.pending_eq)).1]
      rfl
    · next h₁ =>
      refine ⟨rfl, s, hs, rfl, ?_⟩
      rw [if_neg (mt hspent.1 h₁)]
      rfl

/-- A call does to the registers what it does to the cursor. -/
theorem registers_call (c : Cursor) :
    c.call.2.steps = c.steps ∧
      c.registers.call c.steps = (c.call.1, c.call.2.registers) := by
  cases hn : c.next with
  | none =>
    have hs : c.steps[c.registers.index]? = none := by
      rw [registers, ← currentStep_eq_getElem?, currentStep, next_eq_none_iff.1 hn, List.head?_nil]
    rw [call_of_none hn, Registers.call, hs]
    exact ⟨rfl, rfl⟩
  | some step =>
    obtain ⟨d, c'⟩ := step
    obtain ⟨hsteps, s, hs, rfl, hregisters⟩ := registers_next hn
    rw [currentStep_eq_getElem?] at hs
    rw [call_of_some hn, hregisters, Registers.call,
      show c.steps[c.registers.index]? = some s from hs]
    exact ⟨hsteps, rfl⟩

theorem registers_calls (k : Nat) (c : Cursor) :
    calls (Registers.call c.steps) k c.registers =
      ((calls call k c).1, (calls call k c).2.registers) := by
  induction k generalizing c with
  | zero => rfl
  | succ k ih =>
    obtain ⟨hsteps, hcall⟩ := c.registers_call
    rw [calls_succ, calls_succ, hcall, ← hsteps, ih]

theorem steps_calls (k : Nat) (c : Cursor) : (calls call k c).2.steps = c.steps := by
  induction k generalizing c with
  | zero => rfl
  | succ k ih => rw [calls_succ, ih, (registers_call c).1]

/-- The sum that is taken from the registers. -/
theorem registers_remainingDistance (c : Cursor) :
    c.registers.remainingDistance c.steps = c.wordRemaining := by
  rw [Registers.remainingDistance, wordRemaining, registers, UInt32.toUInt64_ofNat' c.remaining_lt,
    c.pending_eq, List.tail_drop]

end Cursor

/-! ### A fresh cursor -/

/-- What is known of a fresh cursor of a command after `k` calls with the given answers. -/
structure Cursor.AfterCalls (c : Command) (k : Nat) (answers : List (Option Direction))
    (cursor : Cursor) : Prop where
  /-- The answers are the first `k` moves of the plan, or all of them and then nothing. -/
  answers_eq : answers =
    (c.moves.take (min k c.totalDistance)).map some ++ List.replicate (k - c.totalDistance) none
  /-- Each answer that is a move takes one unit from the distance. -/
  remainingDistance_eq : cursor.remainingDistance = c.totalDistance - min k c.totalDistance
  /-- The words that the distances are summed up in do not wrap around. -/
  toNat_wordDistance : (wordDistance c.steps).toNat = c.totalDistance
  toNat_remainingDistance :
    (cursor.registers.remainingDistance c.steps).toNat = cursor.remainingDistance
  /-- The number of moves to come is given exactly. -/
  sizeHint_eq : cursor.sizeHint (UInt64.size - 1) =
    (cursor.remainingDistance, some cursor.remainingDistance)
  isFinished_iff : cursor.isFinished = true ↔ cursor.remainingDistance = 0
  currentStep_eq_none_iff : cursor.currentStep = none ↔ cursor.remainingDistance = 0
  /-- The word that is counted down holds the moves left of the leg that is being walked, so it
  is never zero when it is counted down. -/
  toNat_remaining : cursor.registers.remaining.toNat = cursor.remaining
  remaining_of_currentStep : ∀ s, cursor.currentStep = some s →
    1 ≤ cursor.remaining ∧ cursor.remaining ≤ s.distance
  /-- The same calls on the registers alone have the same answers and lead to the same state. -/
  registers_eq : calls (Registers.call c.steps) k (.enter c.steps 0) = (answers, cursor.registers)

theorem distanceOf_le (steps : List Step) : distanceOf steps ≤ 4294967295 * steps.length := by
  induction steps with
  | nil => simp
  | cons s steps ih =>
    have := s.le
    rw [distanceOf_cons, List.length_cons]
    omega

namespace Command

@[simp] theorem remainingDistance_cursor (c : Command) :
    c.cursor.remainingDistance = c.totalDistance := by
  rw [← Cursor.length_upcoming, upcoming_cursor, length_moves]

theorem afterCalls_cursor {c : Command} (hc : c.totalDistance < UInt64.size) (k : Nat) :
    Cursor.AfterCalls c k (calls Cursor.call k c.cursor).1 (calls Cursor.call k c.cursor).2 := by
  have hsteps : (calls Cursor.call k c.cursor).2.steps = c.steps := Cursor.steps_calls k c.cursor
  have hdistance : (calls Cursor.call k c.cursor).2.remainingDistance = c.totalDistance - k := by
    rw [Cursor.remainingDistance_calls, remainingDistance_cursor]
  exact
    { answers_eq := by
        rw [(Cursor.calls_spec k c.cursor).1, upcoming_cursor, remainingDistance_cursor,
          ← c.length_moves, List.take_eq_take_min]
      remainingDistance_eq := by
        rw [hdistance]
        omega
      toNat_wordDistance := by
        rw [toNat_wordDistance]
        exact Nat.mod_eq_of_lt hc
      toNat_remainingDistance := by
        rw [← hsteps, Cursor.registers_remainingDistance, Cursor.toNat_wordRemaining]
        exact Nat.mod_eq_of_lt (by omega)
      sizeHint_eq := by
        rw [Cursor.sizeHint, if_pos (by omega)]
      isFinished_iff := Cursor.isFinished_iff
      currentStep_eq_none_iff := Cursor.currentStep_eq_none_iff
      toNat_remaining := Cursor.toNat_remaining _
      remaining_of_currentStep := fun _ => Cursor.remaining_of_currentStep
      registers_eq := by
        rw [← Cursor.registers_ofSteps]
        exact Cursor.registers_calls k c.cursor }

/-- **A cursor plays the plan.** A plan of at most `2 ^ 32` legs has fewer than `2 ^ 64` moves, and
of such a plan a cursor gives one move after the other, then none, and always knows how many are
left. -/
theorem calls_yield_plan (c : Command) :
    (c.steps.length ≤ UInt32.size → c.totalDistance < UInt64.size) ∧
      (c.totalDistance < UInt64.size → ∀ k, Cursor.AfterCalls c k
        (calls Cursor.call k c.cursor).1 (calls Cursor.call k c.cursor).2) := by
  refine ⟨fun hlength => ?_, afterCalls_cursor⟩
  have hle := distanceOf_le c.steps
  rw [UInt32.size] at hlength
  rw [totalDistance, UInt64.size]
  omega

/-- Two legs of the greatest distance. -/
def longLegs : Command where
  bounds := ⟨.origin, .origin⟩
  start := .origin
  steps := [⟨.north, 4294967295, by decide, by decide⟩, ⟨.east, 4294967295, by decide, by decide⟩]

/-- One call into the second leg. -/
theorem calls_yield_plan_longLegs :
    longLegs.steps.length ≤ UInt32.size ∧ longLegs.totalDistance < UInt64.size ∧
      Cursor.AfterCalls longLegs 4294967296 (calls Cursor.call 4294967296 longLegs.cursor).1
        (calls Cursor.call 4294967296 longLegs.cursor).2 :=
  have hlength : longLegs.steps.length ≤ UInt32.size := by decide
  have htotal : longLegs.totalDistance < UInt64.size := (calls_yield_plan longLegs).1 hlength
  ⟨hlength, htotal, (calls_yield_plan longLegs).2 htotal 4294967296⟩

end Command

end GridRobot
