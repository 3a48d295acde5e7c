import GridRobot.Proofs.Plan.Legs
import GridRobot.Proofs.Robot.Playback
import GridRobot.Proofs.Robot.Rest

/-!
# What a robot logs

A tick of a running robot logs one event for its outcome and, before it, one for the leg whose last
move it takes, if it does; the leg counts even when that move is refused. A tick of a robot at rest
logs nothing. So the journal can be read back: it lists the moves along the trail and the legs that
the cursor has spent, and once the run is over it closes with the one event that says how.

* `withMessages`: the events of a log with given messages; `endMessages`: those that end a run;
* `Level.messages`: the messages at each level (`Reachable.message_mem`);
* `TickTo.events_eq`: what a tick logs;
* `Robot.Journaled c r`: what the journal says; a tick preserves it (`Journaled.tick`), so it holds
  of every reachable robot (`Reachable.journaled`);
* `Robot.EndEvent c s e`: the event that ends the log of a run with the summary `s`.
-/

namespace GridRobot

/-! ### Kinds of events -/

/-- The events of a log whose message is one of the given. -/
def withMessages (messages : List String) (log : List Event) : List Event :=
  log.filter fun e => e.message ∈ messages

@[simp] theorem withMessages_append (messages : List String) (log log' : List Event) :
    withMessages messages (log ++ log') = withMessages messages log ++ withMessages messages log' :=
  List.filter_append ..

/-- The messages of the events that end a run. -/
def endMessages : List String :=
  ["Target reached", "Unable to move, target is beyond the coordinate range",
    "Unable to reach target, it is outside the map"]

/-- The messages of a level in the log of a check and of a run. -/
def Level.messages : Level → List String
  | error => []
  | warn => ["Start position is outside the map",
      "Unable to move, target is beyond the coordinate range",
      "Unable to reach target, it is outside the map"]
  | info => ["Robot activated", "Target reached"]
  | debug => ["parsed command", "path leaves coordinate range", "path leaves bounds",
      "path stays in bounds", "Moved"]
  | trace => ["step exhausted"]

/-- No message is one of two levels. -/
theorem Level.eq_of_mem_messages {l l' : Level} {m : String} (h : m ∈ l.messages)
    (h' : m ∈ l'.messages) : l = l' := by
  have hdisjoint : ∀ m ∈ l.messages, m ∈ l'.messages → l = l' := by
    cases l <;> cases l' <;> decide
  exact hdisjoint m h h'

/-- The events of several moves. -/
def moveEvents (moves : List (Direction × Position)) : List Event :=
  moves.map fun m => .moved m.1 m.2

/-- The events of the first `n` legs that are spent. -/
def legEvents (n : Nat) : List Event := (List.range n).map fun i => .stepExhausted (i + 1)

/-- What is logged about legs when a cursor goes on. -/
def spentEvents (cursor cursor' : Cursor) : List Event :=
  if cursor'.index = cursor.index then [] else [.stepExhausted cursor'.index]

/-- What is logged about the outcome of a tick at a position. -/
def Tick.event (p : Position) : Tick → Event
  | moved d q => .moved d q
  | finished => .targetReached p
  | refused e => .refused e

/-- The event that has ended a run with a robot at a position. -/
def Status.event? (p : Position) : Status → Option Event
  | running => none
  | finished => some (.targetReached p)
  | aborted e => some (.refused e)

theorem moveEvents_append (moves moves' : List (Direction × Position)) :
    moveEvents (moves ++ moves') = moveEvents moves ++ moveEvents moves' :=
  List.map_append

theorem legEvents_append {cursor cursor' : Cursor}
    (h : cursor'.index = cursor.index ∨ cursor'.index = cursor.index + 1) :
    legEvents cursor.index ++ spentEvents cursor cursor' = legEvents cursor'.index := by
  unfold spentEvents
  rcases h with h | h
  · rw [if_pos h, List.append_nil, h]
  · rw [if_neg (by omega), h, legEvents, legEvents, List.range_succ, List.map_append]
    rfl

section Kinds

variable (cursor cursor' : Cursor) (p : Position) (o : Tick)

theorem moved_spentEvents : withMessages ["Moved"] (spentEvents cursor cursor') = [] := by
  unfold spentEvents
  split <;> rfl

theorem exhausted_spentEvents :
    withMessages ["step exhausted"] (spentEvents cursor cursor') = spentEvents cursor cursor' := by
  unfold spentEvents
  split <;> rfl

theorem ended_spentEvents : withMessages endMessages (spentEvents cursor cursor') = [] := by
  unfold spentEvents
  split <;> rfl

theorem moved_event : withMessages ["Moved"] [o.event p] = moveEvents o.move?.toList := by
  rcases o with _ | _ | (_ | _) <;> rfl

theorem exhausted_event : withMessages ["step exhausted"] [o.event p] = [] := by
  rcases o with _ | _ | (_ | _) <;> rfl

theorem ended_event : withMessages endMessages [o.event p] = (o.status.event? p).toList := by
  rcases o with _ | _ | (_ | _) <;> rfl

/-- The event of a tick is at the level of its message. -/
theorem message_event_mem : (o.event p).message ∈ (o.event p).level.messages := by
  rcases o with _ | _ | (_ | _)
  · show "Moved" ∈ Level.messages .debug
    decide
  · show "Target reached" ∈ Level.messages .info
    decide
  · show "Unable to reach target, it is outside the map" ∈ Level.messages .warn
    decide
  · show "Unable to move, target is beyond the coordinate range" ∈ Level.messages .warn
    decide

end Kinds

theorem message_mem_of_mem_spentEvents {cursor cursor' : Cursor} {e : Event}
    (h : e ∈ spentEvents cursor cursor') : e.message ∈ e.level.messages := by
  unfold spentEvents at h
  split at h
  · cases h
  · rw [List.mem_singleton.1 h]
    show "step exhausted" ∈ Level.messages .trace
    decide

namespace Robot

variable {c : Command} {r r' : Robot} {o : Tick}

/-! ### One tick -/

theorem reverse_journalOnSpend (r : Robot) (cursor : Cursor) :
    (r.journalOnSpend cursor).reverse = r.events ++ spentEvents r.cursor cursor := by
  unfold journalOnSpend spentEvents
  split
  · exact (List.append_nil _).symm
  · exact List.reverse_cons

/-- What a tick of a running robot logs. -/
theorem TickTo.events_eq (h : r.TickTo o r') (hr : r.status = .running) :
    r'.events = r.events ++ spentEvents r.cursor r'.cursor ++ [o.event r.position] := by
  cases h with
  | restFinished h | restRefused h =>
    rw [hr] at h
    cases h
  | finish =>
    have hstays : spentEvents r.cursor r.cursor = [] := if_pos rfl
    rw [events, List.reverse_cons, hstays, List.append_nil]
    rfl
  | beyondGrid | outOfBounds | move =>
    rw [events, List.reverse_cons, reverse_journalOnSpend]
    rfl

/-- A tick leaves the legs of the cursor alone and spends at most one of them. -/
theorem TickTo.cursor_steps (h : r.TickTo o r') :
    r'.cursor.steps = r.cursor.steps ∧
      (r'.cursor.index = r.cursor.index ∨ r'.cursor.index = r.cursor.index + 1) := by
  cases h with
  | restFinished | restRefused | finish => exact ⟨rfl, .inl rfl⟩
  | beyondGrid _ hn | outOfBounds _ hn | move _ hn =>
    exact ⟨Cursor.steps_next hn, Cursor.index_next hn⟩

theorem TickTo.event?_eq (h : r.TickTo o r') :
    r'.status.event? r'.position = o.status.event? r.position := by
  rw [h.status_eq]
  cases h <;> rfl

/-! ### The journal -/

/-- What the journal of a robot says about it. -/
structure Journaled (c : Command) (r : Robot) : Prop where
  /-- The legs of the plan are kept. -/
  steps_eq : r.cursor.steps = c.steps
  /-- The moves that are logged are those along the trail. -/
  moved_eq : withMessages ["Moved"] r.events = moveEvents (c.movesAlong r.trail.toList)
  /-- Each leg that is spent is logged with its number. -/
  exhausted_eq : withMessages ["step exhausted"] r.events = legEvents r.cursor.index
  /-- The end of the run is logged once. -/
  ended_eq : withMessages endMessages r.events = (r.status.event? r.position).toList
  /-- Nothing is logged after it. -/
  getLast?_eq : ∀ e, r.status.event? r.position = some e → r.events.getLast? = some e

theorem events_activate (c : Command) :
    (activate c).events = .activated c.start c.bounds c.totalDistance ::
      if c.bounds.contains c.start then [] else [.startOutside c.start] := by
  rw [activate_eq, events, List.reverse_append]
  split <;> rfl

theorem journaled_activate (c : Command) : (activate c).Journaled c := by
  have hevents := events_activate c
  have hmoves : c.movesAlong (activate c).trail.toList = [] := by
    rw [activate_eq]
    exact List.zip_nil_right
  have hcursor : (activate c).cursor = c.cursor := by rw [activate_eq]
  have hstatus : (activate c).status = .running := by rw [activate_eq]
  -- none of the events at the start is of a kind that the journal is read for
  refine ⟨?_, ?_, ?_, ?_, fun e he => ?_⟩
  · rw [hcursor]
    rfl
  · rw [hevents, hmoves]
    split <;> rfl
  · rw [hevents, hcursor]
    split <;> rfl
  · rw [hevents, hstatus]
    split <;> rfl
  · rw [hstatus] at he
    cases he

theorem Journaled.tickTo (h : r.Journaled c) (hplan : r.OnPlan c) (ht : r.TickTo o r')
    (hr : r.status = .running) : r'.Journaled c := by
  have hevents := ht.events_eq hr
  obtain ⟨hsteps, hindex⟩ := ht.cursor_steps
  have hend : (r.status.event? r.position).toList = [] := by
    rw [hr]
    rfl
  refine ⟨hsteps.trans h.steps_eq, ?_, ?_, ?_, fun e he => ?_⟩
  · rw [hevents, withMessages_append, withMessages_append, h.moved_eq, moved_spentEvents,
      List.append_nil, moved_event, hplan.movesAlong_tickTo ht, moveEvents_append]
  · rw [hevents, withMessages_append, withMessages_append, h.exhausted_eq, exhausted_spentEvents,
      exhausted_event, List.append_nil, legEvents_append hindex]
  · rw [hevents, withMessages_append, withMessages_append, h.ended_eq, hend, ended_spentEvents,
      ended_event, ht.event?_eq]
    rfl
  · rw [ht.event?_eq] at he
    rw [hevents, List.getLast?_concat]
    cases o with
    | moved d q => cases he
    | finished | refused e => exact he

theorem Journaled.tick (h : r.Journaled c) (hplan : r.OnPlan c) : r.tick.2.Journaled c := by
  cases hr : r.isDone with
  | false => exact h.tickTo hplan r.tickTo_tick (isDone_eq_false_iff.1 hr)
  | true =>
    obtain ⟨o, -, ht⟩ := tick_of_isDone hr
    rw [ht]
    exact h

/-- The journal of every reachable robot can be read back. -/
theorem Reachable.journaled (h : Reachable c r) : r.Journaled c := by
  have hboth : r.OnPlan c ∧ r.Journaled c :=
    h.induction (P := fun r => r.OnPlan c ∧ r.Journaled c)
      ⟨onPlan_activate c, journaled_activate c⟩ fun _ h => ⟨h.1.tick, h.2.tick h.1⟩
  exact hboth.2

/-- Whatever a robot logs is at the level of its message. -/
theorem Reachable.message_mem (h : Reachable c r) : ∀ e ∈ r.events, e.message ∈ e.level.messages := by
  refine h.induction (P := fun r => ∀ e ∈ r.events, e.message ∈ e.level.messages) ?_ fun r ih => ?_
  · have hactivated : "Robot activated" ∈ Level.messages .info := by decide
    have houtside : "Start position is outside the map" ∈ Level.messages .warn := by decide
    rw [events_activate]
    by_cases hstart : c.bounds.contains c.start = true
    · rw [if_pos hstart]
      exact List.forall_mem_singleton.2 hactivated
    · rw [if_neg hstart]
      exact List.forall_mem_cons.2 ⟨hactivated, List.forall_mem_singleton.2 houtside⟩
  · cases hr : r.isDone with
    | true =>
      obtain ⟨o, -, ht⟩ := tick_of_isDone hr
      rw [ht]
      exact ih
    | false =>
      rw [r.tickTo_tick.events_eq (isDone_eq_false_iff.1 hr)]
      intro e he
      rcases List.mem_append.1 he with he | he
      · rcases List.mem_append.1 he with he | he
        · exact ih e he
        · exact message_mem_of_mem_spentEvents he
      · rw [List.mem_singleton.1 he]
        exact message_event_mem r.position r.tick.1

/-! ### The end of a run -/

/-- The event that ends the log of a run. A refused move is the one after the last that is made. -/
inductive EndEvent (c : Command) (s : RunSummary) : Event → Prop
  | targetReached : s.outcome = .completed → EndEvent c s (.targetReached s.finalPosition)
  | outOfBounds {q : Position} : s.outcome = .aborted (some q) →
      EndEvent c s (.refused (.outOfBounds s.finalPosition q))
  | beyondGrid {d : Direction} : s.outcome = .aborted none → c.moves[s.moves]? = some d →
      EndEvent c s (.refused (.beyondGrid s.finalPosition d))

/-- The event that has ended the run of a robot matches its summary. -/
theorem OnPlan.exists_endEvent (h : r.OnPlan c) {outcome : RunOutcome}
    (ho : r.status.outcome? = some outcome) :
    ∃ e, r.status.event? r.position = some e ∧ EndEvent c (r.summary outcome) e := by
  obtain ⟨made, rest, hf, hu, hmoves⟩ := h.plan
  cases hu with
  | running hr =>
    rw [hr] at ho
    cases ho
  | finished hr hup =>
    rw [hr] at ho ⊢
    cases ho
    exact ⟨_, rfl, .targetReached rfl⟩
  | beyondGrid hr hs =>
    rw [hr] at ho ⊢
    cases ho
    refine ⟨_, rfl, .beyondGrid rfl ?_⟩
    rw [hmoves, show (r.summary _).moves = made.length from hf.moves_eq,
      List.getElem?_append_right (Nat.le_refl _), Nat.sub_self, List.getElem?_cons_zero]
  | outOfBounds hr hs hq =>
    rw [hr] at ho ⊢
    cases ho
    exact ⟨_, rfl, .outOfBounds rfl⟩

end Robot

end GridRobot
