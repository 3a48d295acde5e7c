import GridRobot.Json.Scan

/-!
# Reading records

A record is read from an object or from an array. An object gives each field once, by name
and in any order, and may give other names, whose values are skipped. An array gives the
values of all fields in order and nothing else.

* `Slot`: a field of a record, as a place to be filled;
* `Layout`: the slots of a record, and the record once all are filled;
* `Layout.scan`: a record.
-/

namespace GridRobot

/-- A named place in a partly read record. -/
structure Slot (σ : Type) where
  name : String
  isFilled : σ → Bool
  fill : σ → Scan σ

/-- The slot for one optional component of a partly read record. -/
def Slot.of {σ α : Type} (name : String) (get : σ → Option α) (set : σ → α → σ)
    (value : Scan α) : Slot σ where
  name := name
  isFilled := fun st => (get st).isSome
  fill := fun st => set st <$> value

/-- How a record is read: its slots in order, with none of them filled at first. -/
structure Layout (σ α : Type) where
  slots : List (Slot σ)
  empty : σ
  finish : σ → Option α

namespace Layout

variable {σ α : Type}

/-- The finished record, of which no field may be missing. -/
def complete (l : Layout σ α) (st : σ) : Scan α :=
  match l.finish st with
  | some a => return a
  | none => Scan.fail .mismatch

/-- The values of the given slots, in order, from an array. -/
def fillInOrder : List (Slot σ) → Bool → σ → Scan σ
  | [], _, st => return st
  | slot :: slots, first, st => do
    if ← Scan.hasElement first then
      let st ← slot.fill st
      fillInOrder slots false st
    else
      Scan.fail .mismatch

/-- The members of an object up to its end. -/
def fillByName (l : Layout σ α) : Nat → Bool → σ → Scan σ
  | 0, _, _ => Scan.fail .ended
  | n + 1, first, st => do
    if ← Scan.hasMember first then
      Scan.drop
      let name ← Scan.lexeme (unquote [])
      match l.slots.find? fun slot => slot.name == name with
      | some slot =>
        if slot.isFilled st then
          -- a repeated name is a fault whatever follows it
          Scan.fail .mismatch
        else
          Scan.expect ':'
          let st ← slot.fill st
          fillByName l n false st
      | none =>
        Scan.expect ':'
        Scan.skipValue
        fillByName l n false st
    else
      Scan.drop
      return st

/-- A record. -/
def scan (l : Layout σ α) : Scan α := do
  match ← Scan.peek with
  | '[' =>
    Scan.drop
    let a ← l.complete (← fillInOrder l.slots true l.empty)
    -- all values have been read, so that a comma is a fault as well
    Scan.expect ']'
    return a
  | '\x7b' =>
    Scan.drop
    l.complete (← fillByName l (← read) true l.empty)
  | _ => Scan.misfitHere

end Layout

end GridRobot
