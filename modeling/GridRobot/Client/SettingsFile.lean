import GridRobot.Client.Environment
import GridRobot.Text.CharClass

/-!
# The settings file

A text with a `KEY=value` line for each variable. Variables that are already set keep their
values, so that of several lines for one variable the first counts. Values may be quoted, and a
quoted value may go on over several lines. Outside single quotes a backslash escapes, and `$`
stands before the name of a variable whose value is put in. What follows a line that cannot be
read is ignored, and so is a last line that is not complete.

* `LineState`, `logicalLines`: the lines, of which each holds its quotes;
* `Reading`, `value?`: the value of a line;
* `line?`: what a line says;
* `load`: the environment with the variables of a file.
-/

namespace GridRobot.SettingsFile

/-! ### Lines -/

/-- What surrounds a place in a line: nothing, blanks before it, a backslash before it, or
quotes, in which there may be a backslash before it as well. -/
inductive LineState
  | bare
  | blank
  | escaped
  | single
  | singleEscaped
  | double
  | doubleEscaped
  deriving DecidableEq

namespace LineState

/-- The state after a character that stands outside quotes and is no blank. -/
def afterBare (c : Char) : LineState :=
  if c = '\\' then escaped
  else if c = '\'' then single
  else if c = '"' then double
  else bare

/-- The state after a character. Inside quotes a backslash protects the next character. -/
def next (c : Char) : LineState → LineState
  | bare => if isWhiteSpace c && c != '\n' && c != '\r' then blank else afterBare c
  | blank => afterBare c
  | escaped => bare
  | single => if c = '\\' then singleEscaped else if c = '\'' then bare else single
  | singleEscaped => single
  | double => if c = '\\' then doubleEscaped else if c = '"' then bare else double
  | doubleEscaped => double

end LineState

/-- The characters before a comment, and the state at the end if there is no comment. A comment
begins with a `#` after a blank. -/
def scanLine : LineState → List Char → List Char × Option LineState
  | st, [] => ([], some st)
  | st, c :: rest =>
    if st = .blank ∧ c = '#' then ([], none)
    else
      let (kept, last) := scanLine (st.next c) rest
      (c :: kept, last)

/-- The lines of a text, each with the line feed that ends it. -/
def physicalLines : List Char → List (List Char)
  | [] => []
  | c :: rest =>
    if c = '\n' then [c] :: physicalLines rest
    else
      match physicalLines rest with
      | [] => [[c]]
      | line :: lines => (c :: line) :: lines

/-- Joins lines until the quotes are closed. `before` is the part of a line that has been read,
newest first. -/
def joinLines (st : LineState) (before : List Char) : List (List Char) → List (List Char)
  | [] => []
  | line :: rest =>
    if before = [] ∧ (trimStart line).head? = some '#' then joinLines .bare [] rest
    else
      let (kept, last) := scanLine st line
      let read := kept.reverse ++ before
      match last with
      | none => read.reverse :: joinLines .bare [] rest
      | some .bare => read.reverse :: joinLines .bare [] rest
      | some st' => joinLines st' read rest

/-- The lines of a settings file. A byte order mark at its beginning is dropped. -/
def logicalLines (text : List Char) : List (List Char) :=
  let text := if text.head? = some '\ufeff' then text.tail else text
  joinLines .bare [] (physicalLines text)

/-! ### Values -/

/-- How the next character of a value is read. The name of a variable may stand in double
quotes, which `quoted` says, and it is kept with its newest character first. -/
inductive Reading
  | bare
  | single
  | double
  | escaped (quoted : Bool)
  | name (quoted : Bool) (read : List Char)
  | bracedName (quoted : Bool) (read : List Char)
  | ended
  deriving DecidableEq

/-- What a backslash makes of the next character. -/
def escaped? (c : Char) : Option Char :=
  if c = 'n' then some '\n'
  else if c = '\\' ∨ c = '\'' ∨ c = '"' ∨ c = '$' ∨ c = ' ' then some c
  else none

/-- Outside names: in double quotes or not. -/
def Reading.plain (quoted : Bool) : Reading := if quoted then .double else .bare

/-- The value of a variable, newest character first, in front of `read`. -/
def putIn (get? : String → Option String) (name read : List Char) : List Char :=
  ((get? (String.ofList name.reverse)).getD "").toList.reverse ++ read

/-- The value of the rest of a line. A blank outside quotes ends it, and only blanks and a
comment may follow. `read` holds the characters already read, newest first. -/
def value? (get? : String → Option String) : Reading → List Char → List Char → Option String
  | .bare, read, [] => some (String.ofList read.reverse)
  | .escaped false, read, [] => some (String.ofList read.reverse)
  | .ended, read, [] => some (String.ofList read.reverse)
  | .name false name, read, [] => some (String.ofList (putIn get? name read).reverse)
  | _, _, [] => none
  | .ended, read, c :: rest =>
    if c = ' ' ∨ c = '\t' then value? get? .ended read rest
    else if c = '#' then some (String.ofList read.reverse)
    else none
  | .escaped quoted, read, c :: rest =>
    match escaped? c with
    | some e => value? get? (.plain quoted) (e :: read) rest
    | none => none
  | .single, read, c :: rest =>
    if c = '\'' then value? get? .bare read rest else value? get? .single (c :: read) rest
  | .name quoted name, read, c :: rest =>
    if isAlphanumeric c then value? get? (.name quoted (c :: name)) read rest
    else if c = '\x7b' ∧ name = [] then value? get? (.bracedName quoted []) read rest
    else if c = '$' then value? get? (.name quoted []) (putIn get? name read) rest
    -- the character after a name stands for itself, whatever it is
    else value? get? (.plain quoted) (c :: putIn get? name read) rest
  | .bracedName quoted name, read, c :: rest =>
    if c = '\x7d' then value? get? (.plain quoted) (putIn get? name read) rest
    else value? get? (.bracedName quoted (c :: name)) read rest
  | .double, read, c :: rest =>
    if c = '$' then value? get? (.name true []) read rest
    else if c = '"' then value? get? .bare read rest
    else if c = '\\' then value? get? (.escaped true) read rest
    else value? get? .double (c :: read) rest
  | .bare, read, c :: rest =>
    if c = '$' then value? get? (.name false []) read rest
    else if c = '\'' then value? get? .single read rest
    else if c = '"' then value? get? .double read rest
    else if c = '\\' then value? get? (.escaped false) read rest
    else if c = ' ' ∨ c = '\t' then value? get? .ended read rest
    else value? get? .bare (c :: read) rest

/-! ### Assignments -/

/-- Whether a character can stand in the name of a variable that is set. -/
def isNameChar (c : Char) : Bool := c.isAlphanum || c == '_' || c == '.'

/-- The name of a variable, and the text after it and the white space that follows. -/
def name? : List Char → Option (List Char × List Char)
  | [] => none
  | c :: rest =>
    if c.isAlpha || c == '_' then
      some (c :: rest.takeWhile isNameChar, trimStart (rest.dropWhile isNameChar))
    else none

/-- The name of a variable, and the text after the equals sign. The word `export` may come
first. -/
def assigned? (s : List Char) : Option (List Char × List Char) :=
  match name? s with
  | some (name, '=' :: rest) => some (name, trimStart rest)
  | some (name, rest) =>
    if name = ['e', 'x', 'p', 'o', 'r', 't'] then
      match name? rest with
      | some (name, '=' :: rest) => some (name, trimStart rest)
      | _ => none
    else none
  | none => none

/-- What a line says: nothing, a variable, or something that cannot be read. -/
def line? (get? : String → Option String) (s : List Char) : Option (Option (String × String)) :=
  let s := trimStart (trimEnd s)
  if s.isEmpty || s.head? = some '#' then some none
  else
    match assigned? s with
    | none => none
    | some (name, rest) =>
      -- a comment in place of a value leaves the variable empty
      if rest.isEmpty || rest.head? = some '#' then some (some (String.ofList name, ""))
      else (value? get? .bare [] rest).map fun v => some (String.ofList name, v)

/-- The environment with the variables of the lines before the first that cannot be read. -/
def loadLines (env : Environment) : List (List Char) → Environment
  | [] => env
  | s :: rest =>
    match line? env.get? s with
    | none => env
    | some none => loadLines env rest
    | some (some (name, value)) => loadLines (env.define name value) rest

/-- The environment with the variables of a settings file. -/
def load (env : Environment) (text : String) : Environment :=
  loadLines env (logicalLines text.toList)

/-- The texts between `${` and the next closing brace. -/
def bracedNames : List Char → List (List Char)
  | [] => []
  | '$' :: '\x7b' :: rest => rest.takeWhile (· != '\x7d') :: bracedNames rest
  | _ :: rest => bracedNames rest

/-- The words of a text, among which are the names of all variables that it mentions. -/
def words (text : String) : List String :=
  let parts := (text.toList.splitBy fun a b => isNameChar a == isNameChar b) ++
    (text.toList.splitBy fun a b => isAlphanumeric a == isAlphanumeric b) ++
    bracedNames text.toList
  (parts.map String.ofList).eraseDups

end GridRobot.SettingsFile
