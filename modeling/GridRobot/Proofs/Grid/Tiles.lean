import GridRobot.Proofs.Plan.Integers
import Mathlib.Data.Int.Interval
import Mathlib.Data.Set.Card

/-!
# Counting tiles

A rectangle has as many tiles as its sides say, also when it is empty, inverted on one side, or
as large as the grid. A finite set of positions has as many elements as its size says.

* `Bounds.encard_contains`: the tiles of a rectangle are the points of a product of two intervals,
  and `Bounds.area` is their number;
* `wordSpan`, `Bounds.wordArea`: the sides as 32-bit words and their product as a 64-bit word,
  which do not wrap around (`toNat_wordSpan`, `Bounds.toNat_wordArea`);
* `area_counts_tiles`: all this for any two corners;
* `PositionSet.encard_mem`, `PositionSet.size_eq_length`, `PositionSet.size_le_of_subset`: the size
  of a set of positions.
-/

namespace GridRobot

/-! ### The tiles of a rectangle -/

theorem Position.toInts_injective : Function.Injective Position.toInts := by
  intro p q h
  obtain ⟨hx, hy⟩ := Prod.ext_iff.1 h
  exact Position.ext (Coord.ext hx) (Coord.ext hy)

theorem Representable.exists_position {z : Int × Int} (h : Representable z) :
    ∃ p : Position, p.toInts = z :=
  ⟨⟨⟨z.1, h.1.1, h.1.2⟩, ⟨z.2, h.2.1, h.2.2⟩⟩, rfl⟩

namespace Bounds

/-- The tiles of a rectangle are the points that it covers in the plane. -/
theorem image_toInts (b : Bounds) :
    Position.toInts '' {p | b.contains p = true} = {z | b.Covers z} := by
  ext z
  simp only [Set.mem_image, Set.mem_ofPred_eq, contains_iff_covers]
  constructor
  · rintro ⟨p, hp, rfl⟩
    exact hp
  · intro hz
    obtain ⟨p, rfl⟩ := hz.representable.exists_position
    exact ⟨p, hz, rfl⟩

/-- The area of a rectangle is the number of its tiles. -/
theorem encard_contains (b : Bounds) : {p | b.contains p = true}.encard = b.area := by
  have hsides : {z | b.Covers z} =
      ↑(Finset.Ico b.min.x.val b.max.x.val ×ˢ Finset.Ico b.min.y.val b.max.y.val) := by
    ext z
    simp only [Set.mem_ofPred_eq, Covers, Finset.coe_product, Set.mem_prod, Finset.coe_Ico,
      Set.mem_Ico]
  rw [← Position.toInts_injective.encard_image, image_toInts, hsides,
    Set.encard_coe_eq_coe_finsetCard, Finset.card_product, Int.card_Ico, Int.card_Ico]
  rfl

end Bounds

/-! ### Sides and areas in words -/

/-- The distance from one coordinate up to another, or zero: the difference of the 32-bit
patterns. -/
def wordSpan (lo hi : Coord) : UInt32 :=
  if lo.val < hi.val then UInt32.ofInt hi.val - UInt32.ofInt lo.val else 0

/-- The number of tiles as a product of words. -/
def Bounds.wordArea (b : Bounds) : UInt64 :=
  (wordSpan b.min.x b.max.x).toUInt64 * (wordSpan b.min.y b.max.y).toUInt64

theorem toNat_wordOfInt (z : Int) : (UInt32.ofInt z).toNat = (z % 2 ^ 32).toNat := by
  rw [UInt32.ofInt, UInt32.toNat_ofNat']
  omega

theorem toNat_wordSpan (lo hi : Coord) : (wordSpan lo hi).toNat = (hi.val - lo.val).toNat := by
  have := lo.lower
  have := hi.upper
  unfold wordSpan
  split
  · rw [UInt32.toNat_sub, toNat_wordOfInt, toNat_wordOfInt]
    omega
  · rw [UInt32.toNat_zero]
    omega

theorem Bounds.toNat_wordArea (b : Bounds) : b.wordArea.toNat = b.area := by
  have hw := (wordSpan b.min.x b.max.x).toNat_lt
  have hh := (wordSpan b.min.y b.max.y).toNat_lt
  have hprod := Nat.mul_lt_mul'' hw hh
  rw [wordArea, UInt64.toNat_mul, UInt32.toNat_toUInt64, UInt32.toNat_toUInt64,
    Nat.mod_eq_of_lt (by omega), toNat_wordSpan, toNat_wordSpan]
  rfl

/-- **The area is the number of tiles.** Whatever the corners are, the sides are the differences of
the coordinates, or zero where the rectangle is inverted, and the area counts the positions inside.
The words for the sides and for the area have room for these numbers. -/
theorem area_counts_tiles (b : Bounds) :
    {p | b.contains p = true}.encard = b.area ∧
      (b.width : Int) = max (b.max.x.val - b.min.x.val) 0 ∧
      (b.height : Int) = max (b.max.y.val - b.min.y.val) 0 ∧
      (wordSpan b.min.x b.max.x).toNat = b.width ∧ (wordSpan b.min.y b.max.y).toNat = b.height ∧
      b.wordArea.toNat = b.area :=
  ⟨b.encard_contains, Int.toNat_eq_max _, Int.toNat_eq_max _, toNat_wordSpan _ _,
    toNat_wordSpan _ _, b.toNat_wordArea⟩

/-- The largest rectangle is just small enough for the area to be a 64-bit number. -/
example : (Bounds.mk ⟨⟨-2147483648, by decide, by decide⟩, ⟨-2147483648, by decide, by decide⟩⟩
    ⟨⟨2147483647, by decide, by decide⟩, ⟨2147483647, by decide, by decide⟩⟩).area =
      18446744065119617025 := by
  decide

/-! ### Finite sets of positions -/

namespace PositionSet

variable {s : PositionSet}

theorem nodup_toList (s : PositionSet) : s.toList.Nodup :=
  s.distinct_toList.imp fun hne heq => hne (Std.LawfulEqCmp.compare_eq_iff_eq.2 heq)

/-- A list without repetitions that has the same elements is as long as the set is large. -/
theorem size_eq_length {ps : List Position} (hps : ps.Nodup) (h : ∀ p, p ∈ s ↔ p ∈ ps) :
    s.size = ps.length := by
  have hperm : s.toList.Perm ps :=
    (List.perm_ext_iff_of_nodup s.nodup_toList hps).2 fun p => by rw [Std.TreeSet.mem_toList, h]
  rw [← Std.TreeSet.length_toList, hperm.length_eq]

theorem encard_mem (s : PositionSet) : {p | p ∈ s}.encard = s.size := by
  have hcoe : {p | p ∈ s} = ↑s.toList.toFinset := by
    ext p
    simp [Std.TreeSet.mem_toList]
  rw [hcoe, Set.encard_coe_eq_coe_finsetCard, List.toFinset_card_of_nodup s.nodup_toList,
    Std.TreeSet.length_toList]

theorem size_le_of_subset {t : PositionSet} (h : ∀ p, p ∈ s → p ∈ t) : s.size ≤ t.size := by
  have hcard : {p | p ∈ s}.encard ≤ {p | p ∈ t}.encard := Set.encard_le_encard h
  rw [encard_mem, encard_mem] at hcard
  exact_mod_cast hcard

end PositionSet

end GridRobot
