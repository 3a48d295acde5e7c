import GridRobot.Proofs.Plan.Legs
import Mathlib.Order.Bounds.Basic

/-!
# Skipping moves

A cursor can be asked for one move, for several at once, for a move further on, or for all that
are left. Each of these requests stands for a number of single calls. A cursor keeps nothing of how
it was driven: its state is fixed by the number of moves still to come.

* `Cursor.eq_of_remainingDistance_eq`: on the same legs there is one cursor for each number of
  moves to come;
* `Cursor.skip_eq`, `Cursor.nth_snd`, `Cursor.take_eq`, `Cursor.drain_eq`: what the requests do, in
  single calls;
* `Cursor.Request`, `Cursor.serve`: any sequence of requests, and the cursor after it;
* `Command.served_cursors_canonical`: two cursors that sequences of requests lead to, and what such
  a cursor answers next (`Cursor.AfterMoves`).
-/

namespace GridRobot

theorem calls_add {σ : Type} (call : σ → Option Direction × σ) (m n : Nat) (s : σ) :
    (calls call (m + n) s).2 = (calls call n (calls call m s).2).2 := by
  induction m generalizing s with
  | zero => rw [Nat.zero_add]; rfl
  | succ m ih => rw [Nat.succ_add, calls_succ, ih, calls_succ]

namespace Cursor

variable {a b c : Cursor}

/-! ### One state for each distance -/

theorem pending_eq_of_index_eq (hs : a.steps = b.steps) (hi : a.index = b.index) :
    a.pending = b.pending := by
  rw [a.pending_eq, b.pending_eq, hs, hi]

theorem eq_of_index_eq (hs : a.steps = b.steps) (hi : a.index = b.index)
    (hr : a.remaining = b.remaining) : a = b := by
  have hp := pending_eq_of_index_eq hs hi
  cases a
  cases b
  simp_all

/-- A cursor is its legs and its registers. -/
theorem eq_iff_registers_eq : a = b ↔ a.steps = b.steps ∧ a.registers = b.registers := by
  constructor
  · rintro rfl
    exact ⟨rfl, rfl⟩
  · rintro ⟨hs, hg⟩
    refine eq_of_index_eq hs (congrArg Registers.index hg) ?_
    rw [← toNat_remaining, hg, toNat_remaining]

theorem remainingDistance_le_steps (c : Cursor) : c.remainingDistance ≤ distanceOf c.steps := by
  have hle := c.remainingDistance_le
  rw [c.pending_eq] at hle
  exact Nat.le_trans hle (distanceOf_drop_le c.index c.steps)

/-- On the same legs there is one cursor for each number of moves to come. -/
theorem eq_of_remainingDistance_eq (hs : a.steps = b.steps)
    (hr : a.remainingDistance = b.remainingDistance) : a = b := by
  obtain ⟨n, hn⟩ : ∃ n, n + a.remainingDistance = distanceOf a.steps :=
    ⟨_, Nat.sub_add_cancel a.remainingDistance_le_steps⟩
  -- the legs that are spent are as many as the same number of moves is enough for
  have ha : IsGreatest (legsWithin a.steps n) a.index := isGreatest_index hn
  have hb : IsGreatest (legsWithin a.steps n) b.index := by
    rw [hs]
    exact isGreatest_index (by rw [← hr, hn, hs])
  have hi : a.index = b.index := ha.unique hb
  refine eq_of_index_eq hs hi ?_
  rw [remainingDistance, remainingDistance, pending_eq_of_index_eq hs hi] at hr
  exact Nat.add_right_cancel hr

/-- Calls after the end of the plan change nothing. -/
theorem calls_of_next_eq_none (h : c.next = none) (k : Nat) : (calls call k c).2 = c := by
  refine eq_of_remainingDistance_eq (steps_calls k c) ?_
  rw [remainingDistance_calls, pending_eq_nil_iff.1 (next_eq_none_iff.1 h), Nat.zero_sub]

theorem calls_min (k : Nat) (c : Cursor) :
    (calls call (min c.remainingDistance k) c).2 = (calls call k c).2 := by
  refine eq_of_remainingDistance_eq (by rw [steps_calls, steps_calls]) ?_
  rw [remainingDistance_calls, remainingDistance_calls]
  omega

/-! ### Requests in single calls -/

theorem call_fst (c : Cursor) : c.call.1 = c.upcoming.head? := by
  cases hn : c.next with
  | none => rw [call_of_none hn, upcoming_of_next_eq_none hn]; rfl
  | some step => rw [call_of_some hn, upcoming_next hn]; rfl

theorem takeOnto_eq (n : Nat) (taken : List Direction) (c : Cursor) :
    takeOnto n taken c = (taken.reverse ++ c.upcoming.take n, (calls call n c).2) := by
  induction n generalizing taken c with
  | zero => simp [takeOnto, calls]
  | succ n ih =>
    rw [takeOnto]
    cases hn : c.next with
    | none => simp [calls_of_next_eq_none hn, upcoming_of_next_eq_none hn]
    | some step =>
      obtain ⟨d, c'⟩ := step
      rw [calls_succ, call_of_some hn, upcoming_next hn]
      simp [ih]

theorem take_eq (n : Nat) (c : Cursor) :
    c.take n = (c.upcoming.take n, (calls call n c).2) := takeOnto_eq n [] c

theorem drain_eq (c : Cursor) :
    c.drain = (c.upcoming, (calls call c.remainingDistance c).2) := by
  rw [drain, take_eq, ← length_upcoming, List.take_length]

/-- A jump from the beginning of a leg leaves the legs as they are and takes `n` moves, or as many
as there are. -/
theorem locate_spec (steps : List Step) (index : Nat) (pending : List Step)
    (hp : pending = steps.drop index) (hi : index ≤ steps.length) (n : Nat) :
    (locate steps index pending hp hi n).steps = steps ∧
      (locate steps index pending hp hi n).remainingDistance = distanceOf pending - n := by
  induction pending generalizing index n with
  | nil => simp [locate, enter, remainingDistance, headDistance]
  | cons s rest ih =>
    rw [locate]
    split
    · next h =>
      refine ⟨rfl, ?_⟩
      simp only [remainingDistance, List.tail_cons, distanceOf_cons]
      omega
    · next h =>
      obtain ⟨hsteps, hdistance⟩ := ih (index + 1) _ _ (n - s.distance)
      refine ⟨hsteps, ?_⟩
      rw [hdistance, distanceOf_cons]
      omega

/-- Skipping moves jumps over whole legs, and comes to where single calls lead. -/
theorem skip_eq (n : Nat) (c : Cursor) : c.skip n = (calls call n c).2 := by
  -- the jump begins where the leg does, so the moves taken of the leg count too
  obtain ⟨hsteps, hdistance⟩ := locate_spec c.steps c.index c.pending c.pending_eq c.index_le
    (headDistance c.pending - c.remaining + n)
  refine eq_of_remainingDistance_eq (hsteps.trans (steps_calls n c).symm) ?_
  have hle := c.remaining_le
  have hpending := headDistance_add_tail c.pending
  rw [skip, hdistance, remainingDistance_calls, remainingDistance]
  omega

theorem nth_eq_call (n : Nat) (c : Cursor) : c.nth n = (c.skip n).call := by
  unfold nth call
  rfl

theorem nth_fst (n : Nat) (c : Cursor) : (c.nth n).1 = c.upcoming[n]? := by
  rw [nth_eq_call, call_fst, skip_eq, (calls_spec n c).2, List.head?_drop]

theorem nth_snd (n : Nat) (c : Cursor) : (c.nth n).2 = (calls call (n + 1) c).2 := by
  rw [nth_eq_call, skip_eq, calls_add]
  rfl

/-! ### Sequences of requests -/

/-- What a cursor can be asked for: the next move, the move after the next `n`, up to `n` moves,
or all of them. -/
inductive Request
  | next
  | nth (n : Nat)
  | take (n : Nat)
  | drain
  deriving DecidableEq

/-- The cursor after a request. -/
def meet (c : Cursor) : Request → Cursor
  | .next => c.call.2
  | .nth n => (c.nth n).2
  | .take n => (c.take n).2
  | .drain => c.drain.2

/-- The cursor after several requests. -/
def serve (c : Cursor) (requests : List Request) : Cursor := requests.foldl meet c

/-- A request stands for a number of single calls. -/
theorem exists_meet_eq_calls (c : Cursor) (q : Request) : ∃ k, c.meet q = (calls call k c).2 := by
  cases q with
  | next => exact ⟨1, rfl⟩
  | nth n => exact ⟨n + 1, nth_snd n c⟩
  | take n => exact ⟨n, by rw [meet, take_eq]⟩
  | drain => exact ⟨c.remainingDistance, by rw [meet, drain_eq]⟩

theorem exists_serve_eq_calls (c : Cursor) (requests : List Request) :
    ∃ k, c.serve requests = (calls call k c).2 := by
  induction requests generalizing c with
  | nil => exact ⟨0, rfl⟩
  | cons q requests ih =>
    obtain ⟨m, hm⟩ := c.exists_meet_eq_calls q
    obtain ⟨n, hn⟩ := ih (c.meet q)
    refine ⟨m + n, ?_⟩
    rw [calls_add, ← hm, ← hn]
    rfl

end Cursor

theorem Cursor.steps_serve (c : Cursor) (requests : List Request) :
    (c.serve requests).steps = c.steps := by
  obtain ⟨k, hk⟩ := c.exists_serve_eq_calls requests
  rw [hk, steps_calls]

/-- What is known of a cursor that has taken `k` moves of the plan of a command. -/
structure Cursor.AfterMoves (c : Command) (k : Nat) (cursor : Cursor) : Prop where
  /-- The moves that are not taken are to come. -/
  distance_eq : k + cursor.remainingDistance = c.totalDistance
  /-- The same moves could have been taken one by one. -/
  eq_calls : cursor = (calls Cursor.call k c.cursor).2
  /-- The move after the next `n`, if the plan has one, and the cursor after the calls for it. -/
  nth_eq : ∀ n, cursor.nth n =
    (c.moves[k + n]?, (calls Cursor.call (min c.totalDistance (k + n + 1)) c.cursor).2)
  /-- Up to `n` moves, and the cursor after as many calls. -/
  take_eq : ∀ n, cursor.take n =
    ((c.moves.drop k).take n, (calls Cursor.call (min c.totalDistance (k + n)) c.cursor).2)
  drain_eq : cursor.drain = (c.moves.drop k, (calls Cursor.call c.totalDistance c.cursor).2)

namespace Command

variable {c : Command}

/-- After any requests, a cursor is where single calls have led that took as many moves. -/
theorem exists_serve_eq_calls (c : Command) (requests : List Cursor.Request) :
    ∃ k, k + (c.cursor.serve requests).remainingDistance = c.totalDistance ∧
      c.cursor.serve requests = (calls Cursor.call k c.cursor).2 := by
  obtain ⟨m, hm⟩ := c.cursor.exists_serve_eq_calls requests
  refine ⟨min c.cursor.remainingDistance m, ?_, hm.trans (Cursor.calls_min m c.cursor).symm⟩
  rw [hm, Cursor.remainingDistance_calls, remainingDistance_cursor]
  omega

/-- The word that the moves to come are added up in tells two cursors apart. -/
theorem serve_eq_iff (hc : c.totalDistance < UInt64.size) (requests requests' : List Cursor.Request) :
    c.cursor.serve requests = c.cursor.serve requests' ↔
      (c.cursor.serve requests).wordRemaining = (c.cursor.serve requests').wordRemaining := by
  obtain ⟨k, hk, -⟩ := c.exists_serve_eq_calls requests
  obtain ⟨k', hk', -⟩ := c.exists_serve_eq_calls requests'
  constructor
  · exact congrArg Cursor.wordRemaining
  · intro hword
    refine Cursor.eq_of_remainingDistance_eq ?_ ?_
    · rw [Cursor.steps_serve, Cursor.steps_serve]
    · have hnat := congrArg UInt64.toNat hword
      rwa [Cursor.toNat_wordRemaining, Cursor.toNat_wordRemaining, Nat.mod_eq_of_lt (by omega),
        Nat.mod_eq_of_lt (by omega)] at hnat

/-- A cursor that has taken `k` moves of a plan is where `k` single calls lead. -/
theorem afterMoves_calls {k : Nat}
    (hk : k + (calls Cursor.call k c.cursor).2.remainingDistance = c.totalDistance) :
    Cursor.AfterMoves c k (calls Cursor.call k c.cursor).2 := by
  obtain ⟨-, hupcoming⟩ := Cursor.calls_spec k c.cursor
  rw [upcoming_cursor] at hupcoming
  have hmin : ∀ n, (calls Cursor.call (min c.totalDistance (k + n)) c.cursor).2 =
      (calls Cursor.call n (calls Cursor.call k c.cursor).2).2 := by
    intro n
    rw [← c.remainingDistance_cursor, Cursor.calls_min, calls_add]
  refine ⟨hk, rfl, fun n => Prod.ext ?_ ?_, fun n => ?_, ?_⟩
  · rw [Cursor.nth_fst, hupcoming, List.getElem?_drop]
  · rw [Cursor.nth_snd, Nat.add_assoc, hmin]
  · rw [Cursor.take_eq, hupcoming, hmin]
  · rw [Cursor.drain_eq, hupcoming, ← calls_add, hk]

/-- **The state of a cursor is canonical.** However a cursor was driven, it is the same as another
one on the same plan when as many moves are left to it: it has the same legs and registers. It is
where single calls lead, and to ask it for a move further on is to make the calls in between. -/
theorem served_cursors_canonical (hc : c.totalDistance < UInt64.size) :
    (∀ requests requests' : List Cursor.Request,
      let a := c.cursor.serve requests
      let b := c.cursor.serve requests'
      (a = b ↔ a.steps = b.steps ∧ a.registers = b.registers) ∧
        (a = b ↔ a.registers.remainingDistance c.steps = b.registers.remainingDistance c.steps)) ∧
    ∀ requests : List Cursor.Request, ∃ k, Cursor.AfterMoves c k (c.cursor.serve requests) := by
  refine ⟨fun requests requests' => ⟨Cursor.eq_iff_registers_eq, ?_⟩, fun requests => ?_⟩
  · have hsteps : ∀ qs, (c.cursor.serve qs).steps = c.steps := c.cursor.steps_serve
    rw [serve_eq_iff hc, ← Cursor.registers_remainingDistance, ← Cursor.registers_remainingDistance,
      hsteps, hsteps]
  · obtain ⟨k, hk, hcalls⟩ := c.exists_serve_eq_calls requests
    rw [hcalls] at hk ⊢
    exact ⟨k, afterMoves_calls hk⟩

/-- Two jumps over the end of a leg in either order, and the move after the longer one. -/
theorem served_cursors_canonical_longLegs :
    longLegs.totalDistance < UInt64.size ∧
      longLegs.cursor.serve [.nth 4294967290, .nth 9] =
        longLegs.cursor.serve [.nth 9, .nth 4294967290] ∧
      longLegs.moves[4294967300]? = some .east := by
  have hc : longLegs.totalDistance < UInt64.size := by decide
  obtain ⟨hsame, hnth⟩ := served_cursors_canonical hc
  obtain ⟨k, hk⟩ := hnth [.nth 4294967290]
  have hdistance := hk.distance_eq
  have hleft : (longLegs.cursor.serve [.nth 4294967290]).remainingDistance = 4294967299 := by decide
  have htaken : k = 4294967291 := by
    rw [hleft, show longLegs.totalDistance = 8589934590 by decide] at hdistance
    omega
  subst htaken
  have hmove := congrArg Prod.fst (hk.nth_eq 9)
  exact ⟨hc, (hsame _ _).2.2 (by decide), hmove.symm.trans (by decide)⟩

end Command

end GridRobot
