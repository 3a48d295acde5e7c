import GridRobot.Text.Decimal

/-!
# JSON values and their text

The part of JSON that the program writes: its numbers are integers. The fields of an object
keep their order.

* `Json`;
* `Json.compact`: the text without white space;
* `Json.pretty`: the text with a line for each element and field;
* `Json.sortKeys`: the same value with the fields of every object sorted by name.
-/

namespace GridRobot

/-- A JSON value. -/
inductive Json
  | null
  | bool (b : Bool)
  | num (z : Int)
  | str (s : String)
  | arr (items : List Json)
  | obj (fields : List (String × Json))

namespace Json

theorem sizeOf_item_lt {v : Json} {items : List Json} (h : v ∈ items) :
    sizeOf v < sizeOf (arr items) := by
  have := List.sizeOf_lt_of_mem h
  simp only [arr.sizeOf_spec]
  omega

theorem sizeOf_field_lt {f : String × Json} {fields : List (String × Json)} (h : f ∈ fields) :
    sizeOf f.2 < sizeOf (obj fields) := by
  have := List.sizeOf_lt_of_mem h
  obtain ⟨name, v⟩ := f
  simp only [Prod.mk.sizeOf_spec] at this
  simp only [obj.sizeOf_spec]
  omega

/-- The written form of one character of a string. -/
def escapeChar (c : Char) : List Char :=
  if c = '"' then ['\\', '"']
  else if c = '\\' then ['\\', '\\']
  else if c = '\n' then ['\\', 'n']
  else if c = '\r' then ['\\', 'r']
  else if c = '\t' then ['\\', 't']
  else if c = '\x08' then ['\\', 'b']
  else if c = '\x0c' then ['\\', 'f']
  else if c.toNat < 0x20 then
    ['\\', 'u', '0', '0', Nat.digitChar (c.toNat / 16), Nat.digitChar (c.toNat % 16)]
  else [c]

/-- A string with its quotes. -/
def string (s : String) : String :=
  "\"" ++ String.ofList (s.toList.flatMap escapeChar) ++ "\""

/-- The text of a value that holds no other. -/
def atom : Json → String
  | null => "null"
  | bool true => "true"
  | bool false => "false"
  | num z => Decimal.ofInt z
  | str s => string s
  | arr _ => "[]"
  | obj _ => "\x7b\x7d"

/-- The text without white space. -/
def compact : Json → String
  | arr items => "[" ++ ",".intercalate (items.map fun v => compact v) ++ "]"
  | obj fields =>
    "\x7b" ++ ",".intercalate (fields.map fun f => string f.1 ++ ":" ++ compact f.2) ++ "\x7d"
  | v => v.atom
termination_by v => sizeOf v
decreasing_by
  · exact sizeOf_item_lt ‹_›
  · exact sizeOf_field_lt ‹_›

/-- A new line that begins with the given number of blanks. -/
def newline (indent : Nat) : String := "\n" ++ String.ofList (List.replicate indent ' ')

/-- Lines between brackets, each indented one level further, or the brackets alone. -/
def block (indent : Nat) (opening closing : String) (lines : List String) : String :=
  if lines.isEmpty then opening ++ closing
  else
    opening ++ newline (indent + 2) ++ ("," ++ newline (indent + 2)).intercalate lines ++
      newline indent ++ closing

/-- The text with a line for each element and field, each level indented by two blanks. -/
def prettyAt (indent : Nat) : Json → String
  | arr items => block indent "[" "]" (items.map fun v => prettyAt (indent + 2) v)
  | obj fields =>
    block indent "\x7b" "\x7d"
      (fields.map fun f => string f.1 ++ ": " ++ prettyAt (indent + 2) f.2)
  | v => v.atom
termination_by v => sizeOf v
decreasing_by
  · exact sizeOf_item_lt ‹_›
  · exact sizeOf_field_lt ‹_›

/-- The text with a line for each element and field. -/
def pretty (v : Json) : String := prettyAt 0 v

/-- The value with the fields of every object sorted by name. -/
def sortKeys : Json → Json
  | arr items => arr (items.map fun v => sortKeys v)
  | obj fields =>
    obj ((fields.map fun f => (f.1, sortKeys f.2)).mergeSort fun f g => f.1 ≤ g.1)
  | v => v
termination_by v => sizeOf v
decreasing_by
  · exact sizeOf_item_lt ‹_›
  · exact sizeOf_field_lt ‹_›

end Json

end GridRobot
