import GridRobot.Grid.Bounds
import GridRobot.Proofs.Text.Fields
import GridRobot.Proofs.Text.Numerals

/-!
# Coordinates and positions in text

A coordinate is printed as a numeral, and the text of a coordinate or a position says which one it
is.

* `Coord.lowest`, `Coord.highest`: the ends of the coordinate range, which have the longest texts;
* `Coord.numeral_text`, `Coord.text_injective`, `Position.text_injective`;
* `Coord.not_mem_text`, `Position.not_mem_text`, `Position.not_mem_listText`,
  `Bounds.not_mem_text`: characters that these texts do not have.
-/

namespace GridRobot

variable {x : Char}

namespace Coord

def lowest : Coord := ⟨-2147483648, by decide, by decide⟩

def highest : Coord := ⟨2147483647, by decide, by decide⟩

theorem numeral_text (c : Coord) : Decimal.Numeral c.text.toList c.val :=
  Decimal.numeral_ofInt c.val

theorem text_injective {c d : Coord} (h : c.text = d.text) : c = d :=
  Coord.ext (c.numeral_text.eq (h ▸ d.numeral_text))

theorem not_mem_text (c : Coord) (hd : x.isDigit = false) (hx : x ∉ ['+', '-']) :
    x ∉ c.text.toList :=
  c.numeral_text.not_mem_of_not_sign hd hx

end Coord

namespace Position

theorem toList_text (p : Position) :
    p.text.toList = '(' :: (p.x.text.toList ++ ',' :: ' ' :: (p.y.text.toList ++ [')'])) := by
  simp [text]

/-- The comma is the only one, so that it separates the coordinates. -/
theorem text_injective {p q : Position} (h : p.text = q.text) : p = q := by
  have hcomma : ∀ c : Coord, ',' ∉ c.text.toList := fun c =>
    c.not_mem_text (by decide) (by decide)
  have hlist := congrArg String.toList h
  rw [toList_text, toList_text, List.cons.injEq] at hlist
  obtain ⟨hx, hy⟩ := (append_cons_inj (hcomma p.x) (hcomma q.x)).1 hlist.2
  rw [List.cons.injEq, List.append_left_inj] at hy
  exact Position.ext (Coord.text_injective (String.toList_injective hx))
    (Coord.text_injective (String.toList_injective hy.2))

theorem not_mem_text (p : Position) (hd : x.isDigit = false)
    (hx : x ∉ ['+', '-', '(', ',', ' ', ')']) : x ∉ p.text.toList := by
  simp only [List.mem_cons, List.not_mem_nil, not_or] at hx
  have hcoord : ∀ c : Coord, x ∉ c.text.toList := fun c => c.not_mem_text hd (by simp [hx])
  simp [toList_text, hcoord, hx]

theorem not_mem_listText (ps : List Position) (hd : x.isDigit = false)
    (hx : x ∉ ['+', '-', '(', ',', ' ', ')']) : x ∉ (listText ps).toList := by
  rw [listText, String.toList_intercalate, List.map_map]
  refine not_mem_intercalate ?_ fun text ht => ?_
  · simp only [List.mem_cons, List.not_mem_nil, not_or] at hx
    simp [hx]
  · obtain ⟨p, -, rfl⟩ := List.mem_map.1 ht
    exact p.not_mem_text hd hx

end Position

theorem Bounds.not_mem_text (b : Bounds) (hd : x.isDigit = false)
    (hx : x ∉ ['+', '-', '[', '.', ')', ' ', 'x']) : x ∉ b.text.toList := by
  simp only [List.mem_cons, List.not_mem_nil, not_or] at hx
  have hcoord : ∀ c : Coord, x ∉ c.text.toList := fun c => c.not_mem_text hd (by simp [hx])
  unfold text
  simp [hcoord, hx]

end GridRobot
