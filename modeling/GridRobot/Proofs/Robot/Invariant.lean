import GridRobot.Proofs.Plan.Cursor
import GridRobot.Proofs.Plan.Moves
import GridRobot.Proofs.Robot.Ticks

/-!
# The state of a robot

What holds of a robot at any time: its trail is what it has made of its plan, its cursor is what
is left of it, and the tiles it cleaned are those it stood on.

* `Robot.Unmade r rest`: after its trail, the robot has the moves `rest` of its plan left;
* `Robot.OnPlan c r`: the state agrees with the plan of `c`. It holds at the start and a tick
  preserves it (`onPlan_activate`, `OnPlan.tick`), so it holds of every reachable robot;
* `Robot.Consistent c r`: the same in terms of what can be seen of the robot;
  `consistent_of_reachable` derives it.
-/

namespace GridRobot

/-- Whether a run is over because a move was refused. -/
def Status.isAborted : Status → Bool
  | aborted _ => true
  | _ => false

namespace Robot

variable {c : Command} {r r' : Robot}

/-- The moves of the plan that are not on the trail. A refused move was taken from the cursor
but is not on the trail. -/
inductive Unmade (r : Robot) : List Direction → Prop
  | running : r.status = .running → Unmade r r.cursor.upcoming
  | finished : r.status = .finished → r.cursor.upcoming = [] → Unmade r []
  | beyondGrid {d : Direction} : r.status = .aborted (.beyondGrid r.position d) →
      r.position.step? d = none → Unmade r (d :: r.cursor.upcoming)
  | outOfBounds {d : Direction} {q : Position} : r.status = .aborted (.outOfBounds r.position q) →
      r.position.step? d = some q → r.onMap q = false → Unmade r (d :: r.cursor.upcoming)

/-- The state of the robot agrees with the plan of the command. -/
structure OnPlan (c : Command) (r : Robot) : Prop where
  command_eq : r.command = c
  position_eq : r.position = r.trail.last
  cleaned_iff : ∀ p, p ∈ r.cleaned ↔ p ∈ r.trail.toList ∧ c.bounds.contains p = true
  plan : ∃ made rest, r.trail.Follows c.bounds c.start made ∧ r.Unmade rest ∧
    c.moves = made ++ rest

/-! ### Every robot is on its plan -/

theorem activate_eq (c : Command) :
    activate c =
      { command := c
        cursor := c.cursor
        position := c.start
        trail := .single c.start
        cleaned := if c.bounds.contains c.start then (∅ : PositionSet).insert c.start else ∅
        status := .running
        journal := (if c.bounds.contains c.start then [] else [.startOutside c.start]) ++
          [.activated c.start c.bounds c.totalDistance] } := by
  cases h : c.bounds.contains c.start <;> simp [activate, clean, onMap, note, h]

theorem onPlan_activate (c : Command) : (activate c).OnPlan c := by
  rw [activate_eq]
  refine ⟨rfl, rfl, fun p => ?_, [], c.moves, .single, ?_, rfl⟩
  · cases h : c.bounds.contains c.start with
    | true =>
      rw [if_pos rfl, PositionSet.mem_insert, Trail.toList_single, List.mem_singleton]
      constructor
      · rintro (rfl | hp)
        · exact ⟨rfl, h⟩
        · exact absurd hp Std.TreeSet.not_mem_emptyc
      · exact fun hp => .inl hp.1
    | false => simp +contextual [h]
  · rw [← upcoming_cursor]
    exact .running rfl

theorem Unmade.eq_upcoming {rest : List Direction} (h : r.Unmade rest)
    (hr : r.status = .running) : rest = r.cursor.upcoming := by
  cases h with
  | running => rfl
  | finished h | beyondGrid h | outOfBounds h => rw [hr] at h; cases h

theorem OnPlan.tickTo {o : Tick} (h : r.OnPlan c) (ht : r.TickTo o r') : r'.OnPlan c := by
  obtain ⟨hcommand, hposition, hcleaned, made, rest, hf, hu, hmoves⟩ := h
  cases ht with
  | restFinished | restRefused =>
    exact ⟨hcommand, hposition, hcleaned, made, rest, hf, hu, hmoves⟩
  | finish hr hn =>
    have hup := Cursor.upcoming_of_next_eq_none hn
    rw [hu.eq_upcoming hr, hup] at hmoves
    exact ⟨hcommand, hposition, hcleaned, made, [], hf, .finished rfl hup, hmoves⟩
  | beyondGrid hr hn hs =>
    rw [hu.eq_upcoming hr, Cursor.upcoming_next hn] at hmoves
    exact ⟨hcommand, hposition, hcleaned, made, _, hf, .beyondGrid rfl hs, hmoves⟩
  | outOfBounds hr hn hs hq =>
    rw [hu.eq_upcoming hr, Cursor.upcoming_next hn] at hmoves
    exact ⟨hcommand, hposition, hcleaned, made, _, hf, .outOfBounds rfl hs hq, hmoves⟩
  | @move d cursor q hr hn hs hq =>
    rw [hu.eq_upcoming hr, Cursor.upcoming_next hn] at hmoves
    have hon : c.bounds.contains q = true := by rw [← hcommand]; exact hq
    refine ⟨hcommand, rfl, fun p => ?_, made ++ [d], cursor.upcoming,
      hf.push (hposition ▸ hs) hon, .running hr, by rw [hmoves, List.append_assoc]; rfl⟩
    rw [PositionSet.mem_insert, hcleaned, Trail.toList_push, List.mem_append, List.mem_singleton]
    constructor
    · rintro (rfl | ⟨hp, hc⟩)
      · exact ⟨.inr rfl, hon⟩
      · exact ⟨.inl hp, hc⟩
    · rintro ⟨hp | rfl, hc⟩
      · exact .inr ⟨hp, hc⟩
      · exact .inl rfl

theorem OnPlan.tick (h : r.OnPlan c) : r.tick.2.OnPlan c := h.tickTo r.tickTo_tick

theorem Reachable.onPlan (h : Reachable c r) : r.OnPlan c :=
  h.induction (onPlan_activate c) fun _ => OnPlan.tick

/-- A run has the summary of a robot that is on its plan and done. -/
theorem exists_onPlan_runToEnd (c : Command) :
    ∃ (r : Robot) (o : RunOutcome), r.OnPlan c ∧ r.status.outcome? = some o ∧
      (activate c).runToEnd.1 = r.summary o := by
  obtain ⟨o, ho, hs⟩ := (activate c).runToEnd_spec
  exact ⟨_, o, Reachable.activate.runToEnd.onPlan, ho, hs⟩

/-! ### What the plan says about the robot -/

/-- The walk of the plan goes on from the trail. -/
theorem OnPlan.exists_walk_eq (h : r.OnPlan c) :
    ∃ rest, r.Unmade rest ∧ c.moves.drop r.trail.moves = rest ∧
      c.walk = walkMoves c.bounds rest r.trail := by
  obtain ⟨made, rest, hf, hu, hmoves⟩ := h.plan
  refine ⟨rest, hu, ?_, ?_⟩
  · rw [hmoves, hf.moves_eq, List.drop_left]
  · rw [Command.walk_eq_walkMoves, hmoves, walkMoves_of_follows hf]

/-- The trail is the beginning of the path. -/
theorem OnPlan.trail_isPrefix (h : r.OnPlan c) : r.trail.toList <+: c.traverse.path := by
  obtain ⟨rest, -, -, hwalk⟩ := h.exists_walk_eq
  rw [Command.traverse, Walk.traversal, hwalk]
  exact prefix_walkMoves c.bounds rest r.trail

/-- Each unit of distance is on the trail, refused, or still to come. -/
theorem OnPlan.conserved (h : r.OnPlan c) :
    r.trail.moves + r.cursor.remainingDistance + (if r.status.isAborted then 1 else 0) =
      c.totalDistance := by
  obtain ⟨made, rest, hf, hu, hmoves⟩ := h.plan
  rw [← Command.length_moves, hmoves, List.length_append, hf.moves_eq, ← Cursor.length_upcoming]
  cases hu with
  | running hr => simp [hr, Status.isAborted]
  | finished hr hup => simp [hr, hup, Status.isAborted]
  | beyondGrid hr | outOfBounds hr => simp [hr, Status.isAborted, Nat.add_assoc]

/-- What can be seen of a robot that was put on the start of a command and then ticked or run
any number of times. -/
structure Consistent (c : Command) (r : Robot) : Prop where
  /-- The command is kept. -/
  command_eq : r.command = c
  /-- The trail starts where the command says. -/
  head?_eq : r.trail.toList.head? = some c.start
  /-- The trail ends where the robot stands. -/
  getLast?_eq : r.trail.toList.getLast? = some r.position
  /-- The `k`-th move of the trail is one unit in the `k`-th direction of the plan. -/
  unit_moves : ∀ (k : Nat) (p q : Position), r.trail.toList[k]? = some p →
    r.trail.toList[k + 1]? = some q → ∃ d, c.moves[k]? = some d ∧ p.step? d = some q
  /-- Only the start may be off the map. -/
  inside : ∀ p ∈ r.trail.toList.tail, c.bounds.contains p = true
  /-- The trail is the beginning of the planned path. -/
  onPath : r.trail.toList <+: c.traverse.path
  /-- The tiles cleaned are the tiles of the map that were stood on. -/
  cleaned_iff : ∀ p, p ∈ r.cleaned ↔ p ∈ r.trail.toList ∧ c.bounds.contains p = true
  /-- Each unit of distance is on the trail, still to come, or refused. -/
  conserved : (r.trail.toList.length - 1) + r.cursor.remainingDistance +
    (if r.status.isAborted then 1 else 0) = c.totalDistance

theorem OnPlan.consistent (h : r.OnPlan c) : r.Consistent c := by
  obtain ⟨made, rest, hf, -, hmoves⟩ := h.plan
  refine ⟨h.command_eq, hf.head?_eq, ?_, fun k p q hp hq => ?_, hf.contains_of_mem_tail,
    h.trail_isPrefix, h.cleaned_iff, ?_⟩
  · rw [h.position_eq, Trail.getLast?_toList]
  · obtain ⟨d, hd, hs⟩ := hf.step?_getElem hp hq
    exact ⟨d, by rw [hmoves, List.getElem?_append_left (List.getElem?_eq_some_iff.1 hd).1, hd], hs⟩
  · rw [Trail.length_toList, Nat.add_sub_cancel, h.conserved]

/-- **The state of a robot.** Every robot that ticks and runs lead to is consistent with its
command, and while the plan is shorter than `2 ^ 64` the words that count its moves hold their
true numbers. -/
theorem consistent_of_reachable (hc : c.totalDistance < UInt64.size) (h : Reachable c r) :
    r.Consistent c ∧ r.cursor.wordRemaining.toNat = r.cursor.remainingDistance ∧
      (wordDistance c.steps).toNat = c.totalDistance := by
  have hcons := h.onPlan.conserved
  refine ⟨h.onPlan.consistent, ?_, ?_⟩
  · rw [Cursor.toNat_wordRemaining, Nat.mod_eq_of_lt (by omega)]
  · rw [toNat_wordDistance]
    exact Nat.mod_eq_of_lt hc

/-- A plan whose last move leaves a map of three by three tiles. -/
def cornerPlan : Command where
  bounds := ⟨.origin, ⟨3, by decide, by decide⟩, ⟨3, by decide, by decide⟩⟩
  start := .origin
  steps := [⟨.east, 2, by decide, by decide⟩, ⟨.north, 3, by decide, by decide⟩]

theorem consistent_of_reachable_cornerPlan :
    cornerPlan.totalDistance < UInt64.size ∧
      Reachable cornerPlan (activate cornerPlan).tick.2.runToEnd.2.tick.2 ∧
      (activate cornerPlan).tick.2.runToEnd.2.tick.2.Consistent cornerPlan :=
  have hc : cornerPlan.totalDistance < UInt64.size := by decide
  have hr : Reachable cornerPlan (activate cornerPlan).tick.2.runToEnd.2.tick.2 :=
    .tick (.runToEnd (.tick .activate))
  ⟨hc, hr, (consistent_of_reachable hc hr).1⟩

end Robot

end GridRobot
