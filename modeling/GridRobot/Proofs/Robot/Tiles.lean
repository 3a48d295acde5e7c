import GridRobot.Proofs.Grid.Tiles
import GridRobot.Proofs.Robot.Invariant

/-!
# The tiles of a robot

A robot keeps the tiles that it has cleaned, and counts them and the tiles of its map. A tick
cleans one tile at most, the one that the robot moves to, and no tile gets dirty again.

* `tile_isSome_iff`, `tile_eq_some_iff`: the tiles of any robot;
* `TickTo.tile_eq`: the tiles after a tick;
* `Cleans r o r'`: what can be seen of them, when the tick of `r` has the outcome `o`;
* `TilesBalance c r`: the tiles agree with the map and the trail, and the counts with the tiles;
* `tiles_balance`: all this holds of every reachable robot.
-/

namespace GridRobot

/-- The tile that is moved to. -/
def Tick.target? : Tick → Option Position
  | moved _ q => some q
  | finished => none
  | refused _ => none

namespace Robot

variable {c : Command} {r r' : Robot} {o : Tick} {p : Position}

/-! ### Tiles and cleaned tiles -/

theorem tile_isSome_iff : (r.tile p).isSome = true ↔ r.onMap p = true := by
  unfold tile
  split <;> simp_all

theorem tile_eq_some_iff {s : TileState} :
    r.tile p = some s ↔ r.onMap p = true ∧ (s = .clean ↔ p ∈ r.cleaned) := by
  unfold tile
  rw [Std.TreeSet.mem_iff_contains]
  cases s <;> cases r.onMap p <;> cases r.cleaned.contains p <;> simp

theorem tile_eq_clean_iff : r.tile p = some .clean ↔ r.onMap p = true ∧ p ∈ r.cleaned := by
  rw [tile_eq_some_iff, eq_self, true_iff]

/-! ### Ticks and tiles -/

/-- A tick cleans the tile that is moved to and leaves all others alone. -/
theorem TickTo.tile_eq (h : r.TickTo o r') (p : Position) :
    r'.tile p = if o.target? = some p then some .clean else r.tile p := by
  cases h with
  | restFinished | restRefused | finish | beyondGrid | outOfBounds => rfl
  | @move d cursor q _ _ _ hq =>
    by_cases hpq : q = p
    · subst hpq
      rw [Tick.target?, if_pos rfl, tile_eq_clean_iff]
      exact ⟨hq, PositionSet.mem_insert.2 (.inl rfl)⟩
    · rw [Tick.target?, if_neg (mt Option.some.inj hpq), tile, PositionSet.contains_insert,
        beq_false_of_ne (Ne.symm hpq), Bool.false_or]
      rfl

/-- The position that is moved to is a tile. -/
theorem TickTo.position_eq {q : Position} (h : r.TickTo o r') (ho : o.target? = some q) :
    r'.position = q ∧ r.onMap q = true := by
  cases h with
  | restFinished | restRefused | finish | beyondGrid | outOfBounds => cases ho
  | move _ _ _ hq =>
    cases ho
    exact ⟨rfl, hq⟩

/-- What a tick with the outcome `o` does to the tiles. -/
structure Cleans (r : Robot) (o : Tick) (r' : Robot) : Prop where
  /-- No tile gets dirty again. -/
  clean_stays : ∀ p, r.tile p = some .clean → r'.tile p = some .clean
  /-- A tile that changes is the one that the robot has moved to, and gets clean. -/
  changes : ∀ p, r'.tile p ≠ r.tile p →
    (∃ d, o = .moved d p) ∧ p = r'.position ∧ r.tile p = some .dirty ∧ r'.tile p = some .clean

theorem TickTo.cleans (h : r.TickTo o r') : r.Cleans o r' := by
  refine ⟨fun p hp => ?_, fun p hp => ?_⟩
  · rw [h.tile_eq, hp, ite_self]
  · -- the tile has changed, so it is the one moved to, and it was not clean before
    have htile := h.tile_eq p
    by_cases ho : o.target? = some p
    · obtain ⟨hposition, hon⟩ := h.position_eq ho
      rw [if_pos ho] at htile
      rw [htile] at hp
      refine ⟨?_, hposition.symm, ?_, htile⟩
      · cases o with
        | moved d q => cases ho; exact ⟨d, rfl⟩
        | finished | refused => cases ho
      · have hmem : p ∉ r.cleaned := fun hmem => hp (tile_eq_clean_iff.2 ⟨hon, hmem⟩).symm
        exact tile_eq_some_iff.2 ⟨hon, iff_of_false nofun hmem⟩
    · rw [if_neg ho] at htile
      exact absurd htile hp

theorem clean_stays_runToEnd (h : r.tile p = some .clean) : r.runToEnd.2.tile p = some .clean :=
  runToEnd_preserves (P := fun r => r.tile p = some .clean)
    (fun r hr => r.tickTo_tick.cleans.clean_stays p hr) h

/-! ### Counts -/

/-- The tiles of a robot agree with the map of its command and with its trail, and their numbers
with the counts of the robot. -/
structure TilesBalance (c : Command) (r : Robot) : Prop where
  /-- The tiles are the positions inside the map. -/
  isSome_iff : ∀ p, (r.tile p).isSome = true ↔ c.bounds.contains p = true
  /-- The count of all tiles is their number. -/
  encard_tiles : {p | (r.tile p).isSome = true}.encard = r.totalTiles
  /-- The words in which the count is worked out do not wrap around. -/
  toNat_wordArea : c.bounds.wordArea.toNat = r.totalTiles
  /-- A tile is clean if it was stood on. -/
  clean_iff : ∀ p, r.tile p = some .clean ↔ c.bounds.contains p = true ∧ p ∈ r.trail.toList
  /-- The count of clean tiles is their number. -/
  encard_clean : {p | r.tile p = some .clean}.encard = r.cleanedTiles
  /-- No more tiles are clean than there are. -/
  cleanedTiles_le : r.cleanedTiles ≤ r.totalTiles

theorem OnPlan.tilesBalance (h : r.OnPlan c) : r.TilesBalance c := by
  have hon : ∀ p, r.onMap p = c.bounds.contains p := fun p => by rw [onMap, h.command_eq]
  have htiles : {p | (r.tile p).isSome = true}.encard = r.totalTiles := by
    simp only [tile_isSome_iff]
    exact r.command.bounds.encard_contains
  have hclean : {p | r.tile p = some .clean} = {p | p ∈ r.cleaned} := by
    ext p
    simp only [Set.mem_ofPred_eq, tile_eq_clean_iff, hon]
    exact and_iff_right_of_imp fun hp => ((h.cleaned_iff p).1 hp).2
  have hcleaned : {p | r.tile p = some .clean}.encard = r.cleanedTiles := by
    rw [hclean, PositionSet.encard_mem]
    rfl
  refine ⟨fun p => by rw [tile_isSome_iff, hon], htiles, ?_, fun p => ?_, hcleaned, ?_⟩
  · rw [Bounds.toNat_wordArea, totalTiles, h.command_eq]
  · rw [tile_eq_clean_iff, hon, h.cleaned_iff]
    constructor
    · rintro ⟨hc, ht, -⟩
      exact ⟨hc, ht⟩
    · rintro ⟨hc, ht⟩
      exact ⟨hc, ht, hc⟩
  · have hsub : {p | r.tile p = some .clean} ⊆ {p | (r.tile p).isSome = true} := by
      intro p hp
      exact tile_isSome_iff.2 (tile_eq_clean_iff.1 hp).1
    have hle := Set.encard_le_encard hsub
    rwa [hcleaned, htiles, Nat.cast_le] at hle

/-- **The tiles are accounted for.** In every reachable robot the tiles agree with the map and the
trail, and the counts with the tiles. Whatever the robot does next, clean tiles stay clean, and a
tick changes at most the tile that it moves to. -/
theorem tiles_balance (h : Reachable c r) :
    r.TilesBalance c ∧ r.Cleans r.tick.1 r.tick.2 ∧
      ∀ p, r.tile p = some .clean → r.runToEnd.2.tile p = some .clean :=
  ⟨h.onPlan.tilesBalance, r.tickTo_tick.cleans, fun _ => clean_stays_runToEnd⟩

theorem tiles_balance_cornerPlan :
    Reachable cornerPlan (activate cornerPlan).tick.2 ∧
      (activate cornerPlan).tick.2.TilesBalance cornerPlan ∧
      (activate cornerPlan).tick.2.Cleans (activate cornerPlan).tick.2.tick.1
        (activate cornerPlan).tick.2.tick.2 ∧
      ∀ p, (activate cornerPlan).tick.2.tile p = some .clean →
        (activate cornerPlan).tick.2.runToEnd.2.tile p = some .clean :=
  have hr : Reachable cornerPlan (activate cornerPlan).tick.2 := .tick .activate
  ⟨hr, tiles_balance hr⟩

end Robot

end GridRobot
