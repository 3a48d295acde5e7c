import GridRobot.Command.Basic

/-!
# Cursors

A cursor plays the unit moves of a plan one at a time. It stands before some move of some
leg, or after the last leg.

* `Cursor`, `Cursor.ofSteps`, `Command.cursor`;
* `Cursor.upcoming`: the moves still to come, in order;
* `Cursor.next`: the next move and the cursor after it;
* `Cursor.take`, `Cursor.drain`, `Cursor.skip`, `Cursor.nth`: several moves at once;
* `Cursor.currentStep`, `Cursor.remainingDistance`, `Cursor.sizeHint`, `Cursor.isFinished`.

`upcoming_next` says that `next` takes the first of the upcoming moves.
-/

namespace GridRobot

/-- The distance of the first leg, or zero. -/
def headDistance : List Step → Nat
  | [] => 0
  | s :: _ => s.distance

theorem headDistance_pos {steps : List Step} (h : steps ≠ []) : 0 < headDistance steps := by
  cases steps with
  | nil => exact absurd rfl h
  | cons s _ => exact s.pos

/-- A place in a plan: `index` legs are spent, `pending` are not, and of the first of these
`remaining` moves are left. -/
structure Cursor where
  steps : List Step
  index : Nat
  pending : List Step
  remaining : Nat
  pending_eq : pending = steps.drop index
  index_le : index ≤ steps.length
  remaining_le : remaining ≤ headDistance pending
  remaining_pos : pending ≠ [] → 0 < remaining
  deriving DecidableEq

namespace Cursor

/-- The cursor before the first move of leg `index`. -/
def enter (steps : List Step) (index : Nat) (pending : List Step)
    (hp : pending = steps.drop index) (hi : index ≤ steps.length) : Cursor :=
  ⟨steps, index, pending, headDistance pending, hp, hi, Nat.le_refl _, headDistance_pos⟩

/-- The cursor before the first move of a plan. -/
def ofSteps (steps : List Step) : Cursor := enter steps 0 steps rfl (Nat.zero_le _)

theorem drop_index_succ {steps : List Step} {index : Nat} {s : Step} {rest : List Step}
    (h : s :: rest = steps.drop index) :
    rest = steps.drop (index + 1) ∧ index + 1 ≤ steps.length := by
  constructor
  · rw [← List.tail_drop, ← h]
    rfl
  · have := congrArg List.length h
    simp at this
    omega

/-- The next move and the cursor after it, unless the plan is spent. -/
def next (c : Cursor) : Option (Direction × Cursor) :=
  match h : c.pending with
  | [] => none
  | s :: rest =>
    have hs : s :: rest = c.steps.drop c.index := h ▸ c.pending_eq
    some (s.direction,
      if h₁ : c.remaining = 1 then
        enter c.steps (c.index + 1) rest (drop_index_succ hs).1 (drop_index_succ hs).2
      else
        ⟨c.steps, c.index, s :: rest, c.remaining - 1, hs, c.index_le,
          Nat.le_trans (Nat.sub_le _ _) (h ▸ c.remaining_le),
          fun _ => by
            have := c.remaining_pos (by simp [h])
            omega⟩)

/-- The leg that is being walked. -/
def currentStep (c : Cursor) : Option Step := c.pending.head?

/-- The number of moves to come. -/
def remainingDistance (c : Cursor) : Nat := c.remaining + distanceOf c.pending.tail

/-- Bounds for the number of moves to come, in numbers up to `most`. A number beyond it has no
upper bound. -/
def sizeHint (most : Nat) (c : Cursor) : Nat × Option Nat :=
  if c.remainingDistance ≤ most then (c.remainingDistance, some c.remainingDistance)
  else (most, none)

/-- Whether no moves are left. -/
def isFinished (c : Cursor) : Bool := c.pending.isEmpty

/-- The moves to come, in order. -/
def upcoming (c : Cursor) : List Direction :=
  match c.pending with
  | [] => []
  | s :: rest => List.replicate c.remaining s.direction ++ rest.flatMap Step.moves

/-! ### Several moves at once -/

/-- Takes up to `n` moves, which are put in front of `taken`, newest first. -/
def takeOnto : Nat → List Direction → Cursor → List Direction × Cursor
  | 0, taken, c => (taken.reverse, c)
  | n + 1, taken, c =>
    match c.next with
    | none => (taken.reverse, c)
    | some (d, c') => takeOnto n (d :: taken) c'

/-- The next `n` moves, or as many as there are, and the cursor after them. -/
def take (n : Nat) (c : Cursor) : List Direction × Cursor := takeOnto n [] c

/-- All the moves to come, and the cursor after them. -/
def drain (c : Cursor) : List Direction × Cursor := c.take c.remainingDistance

/-- The cursor `n` moves after the beginning of leg `index`, or at the end of the plan. -/
def locate (steps : List Step) (index : Nat) (pending : List Step)
    (hp : pending = steps.drop index) (hi : index ≤ steps.length) (n : Nat) : Cursor :=
  match pending with
  | [] => enter steps index [] hp hi
  | s :: rest =>
    if h : n < s.distance then
      ⟨steps, index, s :: rest, s.distance - n, hp, hi, Nat.sub_le _ _,
        fun _ => Nat.sub_pos_of_lt h⟩
    else
      locate steps (index + 1) rest (drop_index_succ hp).1 (drop_index_succ hp).2
        (n - s.distance)

/-- The cursor after the next `n` moves, or at the end of the plan. -/
def skip (n : Nat) (c : Cursor) : Cursor :=
  locate c.steps c.index c.pending c.pending_eq c.index_le
    (headDistance c.pending - c.remaining + n)

/-- The move after the next `n`, and the cursor after it. -/
def nth (n : Nat) (c : Cursor) : Option Direction × Cursor :=
  match (c.skip n).next with
  | none => (none, c.skip n)
  | some (d, c') => (some d, c')

/-! ### What one move does -/

theorem next_eq_none_iff {c : Cursor} : c.next = none ↔ c.pending = [] := by
  unfold next
  split <;> simp_all

/-- `next` takes the first of the upcoming moves. -/
theorem upcoming_next {c c' : Cursor} {d : Direction} (h : c.next = some (d, c')) :
    c.upcoming = d :: c'.upcoming := by
  unfold next at h
  split at h
  · cases h
  · next s rest hp =>
    have hpos := c.remaining_pos (by simp [hp])
    simp only [Option.some.injEq, Prod.mk.injEq] at h
    obtain ⟨rfl, rfl⟩ := h
    split
    · next h₁ =>
      simp only [upcoming, hp, h₁, enter]
      cases rest with
      | nil => simp
      | cons s' rest' => simp [headDistance, Step.moves]
    · next h₁ =>
      obtain ⟨k, hk⟩ : ∃ k, c.remaining = k + 2 := ⟨c.remaining - 2, by omega⟩
      simp [upcoming, hp, hk, List.replicate_succ]

@[simp] theorem length_upcoming (c : Cursor) : c.upcoming.length = c.remainingDistance := by
  unfold upcoming remainingDistance
  split
  · next hp =>
    have := c.remaining_le
    simp_all [headDistance]
  · next s rest hp =>
    rw [List.length_append, List.length_replicate, length_flatMap_moves, hp, List.tail_cons]

theorem remainingDistance_next {c c' : Cursor} {d : Direction} (h : c.next = some (d, c')) :
    c'.remainingDistance + 1 = c.remainingDistance := by
  rw [← length_upcoming, ← length_upcoming, upcoming_next h, List.length_cons]

end Cursor

/-- The cursor before the first move of a command. -/
def Command.cursor (c : Command) : Cursor := .ofSteps c.steps

end GridRobot
