import GridRobot.Robot.Basic

/-!
# Ticks and runs

What one tick can do to a robot, and what follows for runs of any length.

* `Robot.TickTo r o r'`: a tick of `r` has the outcome `o` and leads to `r'`; there are two ways
  to rest and four ways to act (`tickTo_tick`);
* `Robot.ticks n r`: several ticks in a row, with their outcomes;
* `runToEnd_spec`: a run ends in a robot that is done, with the summary of that robot;
* `Robot.Reachable c r`: the robots that ticks and runs lead to, from the start of `c`;
  `Reachable.induction` proves a property of all of them from the start and one tick.
-/

namespace GridRobot

/-- The status of a robot after a tick. -/
def Tick.status : Tick → Status
  | moved _ _ => .running
  | finished => .finished
  | refused e => .aborted e

/-- The outcome of a run that has a status. -/
def Status.outcome? : Status → Option RunOutcome
  | running => none
  | finished => some .completed
  | aborted e => some (.aborted e.target?)

namespace Robot

/-! ### One tick -/

/-- The journal after a move was taken from the plan. -/
def journalOnSpend (r : Robot) (cursor : Cursor) : List Event :=
  if cursor.index = r.cursor.index then r.journal else .stepExhausted cursor.index :: r.journal

theorem spend_eq (r : Robot) (cursor : Cursor) :
    r.spend cursor = { r with cursor := cursor, journal := r.journalOnSpend cursor } := by
  unfold spend journalOnSpend
  simp only
  split <;> rfl

/-- A tick: its outcome and the robot after it. The robot rests when its run is over. Otherwise
it finishes, refuses the next move for one of two reasons, or makes it. -/
inductive TickTo (r : Robot) : Tick → Robot → Prop
  | restFinished : r.status = .finished → TickTo r .finished r
  | restRefused {e : MoveError} : r.status = .aborted e → TickTo r (.refused e) r
  | finish : r.status = .running → r.cursor.next = none →
      TickTo r .finished
        { r with status := .finished, journal := .targetReached r.position :: r.journal }
  | beyondGrid {d : Direction} {cursor : Cursor} :
      r.status = .running → r.cursor.next = some (d, cursor) → r.position.step? d = none →
      TickTo r (.refused (.beyondGrid r.position d))
        { r with
          cursor := cursor
          status := .aborted (.beyondGrid r.position d)
          journal := .refused (.beyondGrid r.position d) :: r.journalOnSpend cursor }
  | outOfBounds {d : Direction} {cursor : Cursor} {q : Position} :
      r.status = .running → r.cursor.next = some (d, cursor) → r.position.step? d = some q →
      r.onMap q = false →
      TickTo r (.refused (.outOfBounds r.position q))
        { r with
          cursor := cursor
          status := .aborted (.outOfBounds r.position q)
          journal := .refused (.outOfBounds r.position q) :: r.journalOnSpend cursor }
  | move {d : Direction} {cursor : Cursor} {q : Position} :
      r.status = .running → r.cursor.next = some (d, cursor) → r.position.step? d = some q →
      r.onMap q = true →
      TickTo r (.moved d q)
        { r with
          cursor := cursor
          position := q
          trail := r.trail.push q
          cleaned := r.cleaned.insert q
          journal := .moved d q :: r.journalOnSpend cursor }

theorem tickTo_tick (r : Robot) : r.TickTo r.tick.1 r.tick.2 := by
  unfold tick
  cases hr : r.status with
  | finished => exact .restFinished hr
  | aborted e => exact .restRefused hr
  | running =>
    cases hn : r.cursor.next with
    | none => exact .finish hr hn
    | some step =>
      obtain ⟨d, cursor⟩ := step
      simp only [attempt, spend_eq]
      cases hs : r.position.step? d with
      | none => exact .beyondGrid hr hn hs
      | some q =>
        have hon : ({ r with cursor := cursor, journal := r.journalOnSpend cursor } : Robot).onMap q
            = r.onMap q := rfl
        simp only [hon]
        cases hq : r.onMap q with
        | false => exact .outOfBounds hr hn hs hq
        | true =>
          have hclean : ∀ t : Trail, ({ r with
              cursor := cursor, journal := r.journalOnSpend cursor,
              position := q, trail := t } : Robot).onMap q = true := fun _ => hq
          simp only [moveTo, clean, hclean]
          exact .move hr hn hs hq

theorem TickTo.status_eq {r r' : Robot} {o : Tick} (h : r.TickTo o r') : r'.status = o.status := by
  cases h with
  | restFinished h => exact h
  | restRefused h => exact h
  | finish => rfl
  | beyondGrid => rfl
  | outOfBounds => rfl
  | move h => exact h

theorem status_tick {r r' : Robot} {o : Tick} (h : r.tick = (o, r')) : r'.status = o.status := by
  have ht := r.tickTo_tick
  rw [h] at ht
  exact ht.status_eq

/-! ### Several ticks -/

/-- The outcomes of `n` ticks in a row, and the robot after them. -/
def ticks : Nat → Robot → List Tick × Robot
  | 0, r => ([], r)
  | n + 1, r =>
    let (o, r') := r.tick
    let (os, r'') := ticks n r'
    (o :: os, r'')

theorem ticks_succ (n : Nat) (r : Robot) :
    ticks (n + 1) r = (r.tick.1 :: (ticks n r.tick.2).1, (ticks n r.tick.2).2) := rfl

/-! ### Runs -/

section Runs

variable {r r' : Robot}

theorem runToEnd_of_moved {d : Direction} {q : Position} (h : r.tick = (.moved d q, r')) :
    r.runToEnd = r'.runToEnd := by
  rw [runToEnd]
  split <;> simp_all

theorem runToEnd_of_finished (h : r.tick = (.finished, r')) :
    r.runToEnd = (r'.summary .completed, r') := by
  rw [runToEnd]
  split <;> simp_all

theorem runToEnd_of_refused {e : MoveError} (h : r.tick = (.refused e, r')) :
    r.runToEnd = (r'.summary (.aborted e.target?), r') := by
  rw [runToEnd]
  split <;> simp_all

/-- A property that a tick preserves is preserved by a run. -/
theorem runToEnd_preserves {P : Robot → Prop} (hP : ∀ r, P r → P r.tick.2) (h : P r) :
    P r.runToEnd.2 := by
  induction r using runToEnd.induct with
  | case1 r d q r' hr _ ih =>
    rw [runToEnd_of_moved hr]
    exact ih (by simpa [hr] using hP r h)
  | case2 r r' hr =>
    rw [runToEnd_of_finished hr]
    simpa [hr] using hP r h
  | case3 r e r' hr =>
    rw [runToEnd_of_refused hr]
    simpa [hr] using hP r h

/-- A run ends in a robot that is done, and its summary is the summary of that robot. -/
theorem runToEnd_spec (r : Robot) :
    ∃ o, r.runToEnd.2.status.outcome? = some o ∧ r.runToEnd.1 = r.runToEnd.2.summary o := by
  induction r using runToEnd.induct with
  | case1 r d q r' hr _ ih =>
    rw [runToEnd_of_moved hr]
    exact ih
  | case2 r r' hr =>
    rw [runToEnd_of_finished hr]
    exact ⟨.completed, by rw [status_tick hr]; rfl, rfl⟩
  | case3 r e r' hr =>
    rw [runToEnd_of_refused hr]
    exact ⟨.aborted e.target?, by rw [status_tick hr]; rfl, rfl⟩

theorem moves_runToEnd (r : Robot) : r.runToEnd.1.moves = r.runToEnd.2.trail.moves := by
  obtain ⟨o, -, hs⟩ := r.runToEnd_spec
  rw [hs]
  rfl

theorem trail_runToEnd (r : Robot) : r.runToEnd.1.trail = r.runToEnd.2.trail.toList := by
  obtain ⟨o, -, hs⟩ := r.runToEnd_spec
  rw [hs]
  rfl

end Runs

/-- The robots that ticks and runs lead to, from the start of a command. -/
inductive Reachable (c : Command) : Robot → Prop
  | activate : Reachable c (activate c)
  | tick {r : Robot} : Reachable c r → Reachable c r.tick.2
  | runToEnd {r : Robot} : Reachable c r → Reachable c r.runToEnd.2

theorem Reachable.ticks {c : Command} {r : Robot} (h : Reachable c r) (n : Nat) :
    Reachable c (ticks n r).2 := by
  induction n generalizing r with
  | zero => exact h
  | succ n ih => exact ih h.tick

theorem Reachable.induction {c : Command} {P : Robot → Prop} (h₀ : P (Robot.activate c))
    (hP : ∀ r, P r → P r.tick.2) {r : Robot} (h : Reachable c r) : P r := by
  induction h with
  | activate => exact h₀
  | tick _ ih => exact hP _ ih
  | runToEnd _ ih => exact runToEnd_preserves hP ih

end Robot

end GridRobot
