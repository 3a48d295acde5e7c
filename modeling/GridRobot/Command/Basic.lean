import GridRobot.Grid.Bounds

/-!
# Commands

A command gives the map, the start of the robot and the legs of its plan. A leg, or step,
is a direction with a positive number of unit moves.

* `Step`, `Step.ofDistance?`, `Step.moves`, `distanceOf`;
* `Command`, `Command.moves`: the unit moves of the whole plan, in order;
* `Command.totalDistance`: how many there are;
* `Step.text`, `Command.text`: command text, with the sections in their usual order.
-/

namespace GridRobot

/-- One leg of a plan. The distance is a positive 32-bit number. -/
structure Step where
  direction : Direction
  distance : Nat
  pos : 0 < distance
  le : distance ≤ 4294967295
  deriving DecidableEq

namespace Step

/-- The leg with the given distance, if that is a positive 32-bit number. -/
def ofDistance? (d : Direction) (n : Nat) : Option Step :=
  if h : 0 < n ∧ n ≤ 4294967295 then some ⟨d, n, h.1, h.2⟩ else none

/-- The unit moves of a leg. -/
def moves (s : Step) : List Direction := List.replicate s.distance s.direction

/-- The leg in command text. -/
def text (s : Step) : String := String.singleton s.direction.letter ++ Decimal.ofNat s.distance

theorem ofDistance?_eq_some_iff {d : Direction} {n : Nat} {s : Step} :
    ofDistance? d n = some s ↔ s.direction = d ∧ s.distance = n := by
  unfold ofDistance?
  split
  · next h =>
    constructor
    · intro hs
      cases hs
      exact ⟨rfl, rfl⟩
    · rintro ⟨rfl, rfl⟩
      rfl
  · next h =>
    constructor
    · intro hs
      cases hs
    · rintro ⟨rfl, rfl⟩
      exact absurd ⟨s.pos, s.le⟩ h

@[simp] theorem length_moves (s : Step) : s.moves.length = s.distance := by
  simp [moves]

end Step

/-- The number of unit moves of several legs. -/
def distanceOf (steps : List Step) : Nat := steps.foldr (fun s n => s.distance + n) 0

@[simp] theorem distanceOf_nil : distanceOf [] = 0 := rfl

@[simp] theorem distanceOf_cons (s : Step) (steps : List Step) :
    distanceOf (s :: steps) = s.distance + distanceOf steps := rfl

theorem length_flatMap_moves (steps : List Step) :
    (steps.flatMap Step.moves).length = distanceOf steps := by
  induction steps with
  | nil => rfl
  | cons s steps ih =>
    rw [List.flatMap_cons, List.length_append, ih, Step.length_moves, distanceOf_cons]

/-- A map, a start and the legs to walk. -/
structure Command where
  bounds : Bounds
  start : Position
  steps : List Step
  deriving DecidableEq

namespace Command

/-- The unit moves of the plan, in order. -/
def moves (c : Command) : List Direction := c.steps.flatMap Step.moves

/-- The number of unit moves of the plan. -/
def totalDistance (c : Command) : Nat := distanceOf c.steps

/-- The command as text. -/
def text (c : Command) : String :=
  "M:" ++ c.bounds.min.x.text ++ "," ++ c.bounds.max.x.text ++ "," ++
    c.bounds.min.y.text ++ "," ++ c.bounds.max.y.text ++
    ";S:" ++ c.start.x.text ++ "," ++ c.start.y.text ++
    ";[" ++ ",".intercalate (c.steps.map Step.text) ++ "]"

@[simp] theorem length_moves (c : Command) : c.moves.length = c.totalDistance :=
  length_flatMap_moves c.steps

end Command

end GridRobot
