import GridRobot.Plan.Cursor

/-!
# What a cursor counts

A cursor before the first leg has all the moves of the plan to come. Its distances are sums of
32-bit numbers that are kept in 64-bit words; below `2 ^ 64` the words hold the true sums.

* `upcoming_cursor`, `upcoming_of_next_eq_none`: the moves to come at the two ends of a plan;
* `wordDistance`, `Cursor.wordRemaining`: the sums as words.
-/

namespace GridRobot

@[simp] theorem upcoming_cursor (c : Command) : c.cursor.upcoming = c.moves := by
  unfold Command.cursor Cursor.ofSteps Cursor.enter Cursor.upcoming Command.moves
  cases c.steps <;> rfl

theorem Cursor.upcoming_of_next_eq_none {c : Cursor} (h : c.next = none) : c.upcoming = [] := by
  unfold upcoming
  rw [next_eq_none_iff.1 h]

/-! ### Sums in words -/

/-- The distance of several legs, added up in a word from the first leg on. -/
def wordDistance (steps : List Step) : UInt64 :=
  steps.foldl (fun n s => n + UInt64.ofNat s.distance) 0

/-- The number of moves to come: those of the leg that is being walked, and a sum over the legs
after it. -/
def Cursor.wordRemaining (c : Cursor) : UInt64 :=
  UInt64.ofNat c.remaining + wordDistance c.pending.tail

theorem toNat_wordDistance (steps : List Step) :
    (wordDistance steps).toNat = distanceOf steps % UInt64.size := by
  have h : ∀ n : UInt64, (steps.foldl (fun n s => n + UInt64.ofNat s.distance) n).toNat =
      (n.toNat + distanceOf steps) % UInt64.size := by
    induction steps with
    | nil => intro n; exact (Nat.mod_eq_of_lt n.toNat_lt).symm
    | cons s steps ih =>
      intro n
      rw [List.foldl_cons, ih, UInt64.toNat_add, UInt64.toNat_ofNat', distanceOf_cons, UInt64.size]
      omega
  rw [wordDistance, h, UInt64.toNat_zero, Nat.zero_add]

theorem Cursor.toNat_wordRemaining (c : Cursor) :
    c.wordRemaining.toNat = c.remainingDistance % UInt64.size := by
  rw [wordRemaining, UInt64.toNat_add, UInt64.toNat_ofNat', toNat_wordDistance, remainingDistance,
    UInt64.size]
  omega

end GridRobot
