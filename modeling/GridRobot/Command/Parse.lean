import GridRobot.Command.Section

/-!
# Reading command text

A command is three sections separated by semicolons, one of each kind, in any order. The
sections are read from left to right and the first fault is reported; the contents of a
section are judged before its kind is compared with the sections before it.

* `Draft`: the sections read so far;
* `Command.parse`: the command of a text.
-/

namespace GridRobot

/-- The sections of a command that have been read so far. -/
structure Draft where
  bounds : Option Bounds := none
  start : Option Position := none
  steps : Option (List Step) := none
  deriving DecidableEq

namespace Draft

/-- Puts a section into its place, which must be free. -/
def add (d : Draft) (s : Section) : Except CommandError Draft :=
  match s with
  | .map bounds =>
    if d.bounds.isSome then .error (.duplicateSection .map)
    else .ok { d with bounds := some bounds }
  | .start position =>
    if d.start.isSome then .error (.duplicateSection .start)
    else .ok { d with start := some position }
  | .steps steps =>
    if d.steps.isSome then .error (.duplicateSection .steps)
    else .ok { d with steps := some steps }

/-- Reads a section and puts it into its place. -/
def readSection (d : Draft) (text : List Char) : Except CommandError Draft :=
  (Section.read text).bind d.add

/-- The command, once every place is filled. -/
def finish (d : Draft) : Except CommandError Command :=
  match d.bounds, d.start, d.steps with
  | some bounds, some start, some steps => .ok ⟨bounds, start, steps⟩
  | none, _, _ => .error (.missingSection .map)
  | _, none, _ => .error (.missingSection .start)
  | _, _, none => .error (.missingSection .steps)

end Draft

/-- The command of a text. -/
def Command.parse (text : String) : Except CommandError Command :=
  let sections := text.toList.splitOn ';'
  if sections.length = 3 then
    (sections.foldlM Draft.readSection {}).bind Draft.finish
  else
    .error (.sectionCount sections.length)

end GridRobot
