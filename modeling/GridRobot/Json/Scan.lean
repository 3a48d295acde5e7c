import GridRobot.Json.Lexeme

/-!
# Reading JSON text

A scan reads a value from the front of a text, or says what is wrong with the text. White
space may stand between the parts of a value.

* `Scan`: its context is a bound on the turns of its loops, of which each takes at least one
  character, so that the length of the whole text is enough;
* `Scan.peek`, `Scan.drop`, `Scan.lexeme`, `Scan.misfitHere`: the smallest scans;
* `Scan.boolean`, `Scan.numeral`, `Scan.null`, `Scan.oneOf`: values that hold no other;
* `Scan.list`: an array of any length;
* `Scan.skipValue`: any value at all, without its value;
* `Scan.decode`: the value of a whole text.
-/

namespace GridRobot

/-- Reads a value from the front of a text. -/
abbrev Scan := ReaderT Nat (StateT (List Char) (Except Fault))

namespace Scan

/-- White space. -/
def isBlank (c : Char) : Bool := c == ' ' || c == '\n' || c == '\t' || c == '\r'

/-- The text is at fault. -/
def fail {α : Type} (f : Fault) : Scan α := fun _ _ => .error f

/-- The next character that is no white space, which is left in place. -/
def peek : Scan Char := fun _ s =>
  match s.dropWhile isBlank with
  | [] => .error .ended
  | c :: rest => .ok (c, c :: rest)

/-- Drops a character that has been peeked at. -/
def drop : Scan Unit := fun _ s => .ok ((), s.tail)

/-- A lexeme with its value. -/
def lexeme {α : Type} (f : List Char → Except Fault (α × List Char)) : Scan α := fun _ s => f s

/-- A lexeme without its value. -/
def skipLexeme (f : List Char → Except Fault (List Char)) : Scan Unit := fun _ s =>
  (f s).map fun rest => ((), rest)

/-- The value at hand has another type than asked for. -/
def misfitHere {α : Type} : Scan α := fun _ s => .error (misfit s)

/-- A character that must come next. -/
def expect (c : Char) : Scan Unit := do
  if (← peek) = c then drop else fail .malformed

/-! ### Values that hold no other -/

/-- A number. -/
def numeral : Scan Numeral := do
  let c ← peek
  if c = '-' then
    drop
    lexeme (readNumber true)
  else if c.isDigit then
    lexeme (readNumber false)
  else
    misfitHere

/-- True or false. -/
def boolean : Scan Bool := do
  match ← peek with
  | 't' =>
    drop
    skipLexeme (literal ['r', 'u', 'e'])
    return true
  | 'f' =>
    drop
    skipLexeme (literal ['a', 'l', 's', 'e'])
    return false
  | _ => misfitHere

/-- The value that says nothing. -/
def null : Scan Unit := do
  match ← peek with
  | 'n' =>
    drop
    skipLexeme (literal ['u', 'l', 'l'])
  | _ => misfitHere

/-- One of the given names, after the opening quote. -/
def nameOf {α : Type} (options : List α) (name : α → String) : Scan α := do
  let s ← lexeme (unquote [])
  match options.find? fun a => name a == s with
  | some a => return a
  | none => fail .mismatch

/-- One of the given names: a string, or the only name of an object with value null. The names of
an object are strings, so that any other value in the place of one is a malformed object, not a
value of another type. -/
def oneOf {α : Type} (options : List α) (name : α → String) : Scan α := do
  match ← peek with
  | '"' =>
    drop
    nameOf options name
  | '\x7b' =>
    drop
    if (← peek) = '"' then
      drop
      let a ← nameOf options name
      expect ':'
      null
      expect '\x7d'
      return a
    else
      fail .malformed
  | _ => fail .malformed

/-! ### Arrays and objects -/

/-- Whether another element follows in an array. A comma must stand before all but the first. -/
def hasElement (first : Bool) : Scan Bool := do
  let c ← peek
  if c = ']' then
    return false
  else if first then
    return true
  else if c = ',' then
    drop
    if (← peek) = ']' then fail .malformed else return true
  else
    fail .malformed

/-- Whether another name follows in an object. A comma must stand before all but the first. -/
def hasMember (first : Bool) : Scan Bool := do
  let c ← peek
  if c = '\x7d' then
    return false
  else if first then
    if c = '"' then return true else fail .malformed
  else if c = ',' then
    drop
    if (← peek) = '"' then return true else fail .malformed
  else
    fail .malformed

/-- The elements of an array up to its end; `read` holds those already read, newest first. -/
def elements {α : Type} (element : Scan α) : Nat → Bool → List α → Scan (List α)
  | 0, _, _ => fail .ended
  | n + 1, first, read => do
    if ← hasElement first then
      let a ← element
      elements element n false (a :: read)
    else
      drop
      return read.reverse

/-- An array of any length. -/
def list {α : Type} (element : Scan α) : Scan (List α) := do
  match ← peek with
  | '[' =>
    drop
    elements element (← read) true []
  | _ => misfitHere

/-! ### Skipped values -/

/-- A container whose end has not been reached. -/
inductive Open
  | array
  | object
  deriving DecidableEq

/-- The name of a member and the colon after it, from the opening quote on. -/
def skipName : Scan Unit := do
  expect '"'
  skipLexeme skipString
  expect ':'

/-- A value that holds no other, without its value. -/
def skipAtom (c : Char) : Scan Unit :=
  if c = 'n' then skipLexeme (literal ['n', 'u', 'l', 'l'])
  else if c = 't' then skipLexeme (literal ['t', 'r', 'u', 'e'])
  else if c = 'f' then skipLexeme (literal ['f', 'a', 'l', 's', 'e'])
  else if c = '-' then do
    drop
    skipLexeme skipNumber
  else if c.isDigit then skipLexeme skipNumber
  else if c = '"' then do
    drop
    skipLexeme skipString
  else fail .malformed

/-- Skips to the end of the outermost value. The containers that are open are listed from the
inside out, and `awaited` says whether a value is due. -/
def skipOpen : Nat → Bool → List Open → Scan Unit
  | 0, _, _ => fail .ended
  | n + 1, true, within => do
    let c ← peek
    if c = '[' then
      drop
      if (← peek) = ']' then
        drop
        skipOpen n false within
      else
        skipOpen n true (.array :: within)
    else if c = '\x7b' then
      drop
      if (← peek) = '\x7d' then
        drop
        skipOpen n false within
      else
        skipName
        skipOpen n true (.object :: within)
    else
      skipAtom c
      skipOpen n false within
  | _ + 1, false, [] => return ()
  | n + 1, false, .array :: within => do
    let c ← peek
    if c = ',' then
      drop
      skipOpen n true (.array :: within)
    else if c = ']' then
      drop
      skipOpen n false within
    else
      fail .malformed
  | n + 1, false, .object :: within => do
    let c ← peek
    if c = ',' then
      drop
      skipName
      skipOpen n true (.object :: within)
    else if c = '\x7d' then
      drop
      skipOpen n false within
    else
      fail .malformed

/-- Any value at all. -/
def skipValue : Scan Unit := do
  skipOpen (← read) true []

/-! ### Whole texts -/

/-- The value of a text, after which only white space may follow. -/
def decode {α : Type} (scan : Scan α) (text : String) : Except Fault α :=
  let chars := text.toList
  match scan (chars.length + 1) chars with
  | .error f => .error f
  | .ok (a, rest) => if rest.all isBlank then .ok a else .error .malformed

end Scan

end GridRobot
