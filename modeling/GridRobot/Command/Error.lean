import GridRobot.Text.Decimal
import GridRobot.Text.Display

/-!
# Rejected commands

The causes for which command text is rejected, each with the text at fault as it was
given.

* `SectionKind`: the three kinds of section of a command;
* `Field`: the integers of a command;
* `CommandError`, with `CommandError.code` and `CommandError.message`;
* `Severity`: what can be done about an error.
-/

namespace GridRobot

/-- What can be done about an error: carry on, or change the input. -/
inductive Severity
  | recoverable
  | validation
  deriving DecidableEq

namespace Severity

/-- The severities. -/
def all : List Severity := [recoverable, validation]

/-- The severity in messages. -/
def text : Severity → String
  | recoverable => "recoverable"
  | validation => "validation"

/-- The severity in data. -/
def name : Severity → String
  | recoverable => "Recoverable"
  | validation => "Validation"

end Severity

/-- The kinds of section of a command. -/
inductive SectionKind
  | map
  | start
  | steps
  deriving DecidableEq

namespace SectionKind

/-- The kinds of section, in the order in which they are written. -/
def all : List SectionKind := [map, start, steps]

/-- The kind of section in messages. -/
def text : SectionKind → String
  | map => "map"
  | start => "start"
  | steps => "steps"

/-- The kind of section in data. -/
def name : SectionKind → String
  | map => "Map"
  | start => "Start"
  | steps => "Steps"

end SectionKind

/-- The integers of a command. -/
inductive Field
  | minX
  | minY
  | maxX
  | maxY
  | startX
  | startY
  | stepDistance
  deriving DecidableEq

/-- The name of an integer in messages. -/
def Field.text : Field → String
  | minX => "min x"
  | minY => "min y"
  | maxX => "max x"
  | maxY => "max y"
  | startX => "start x"
  | startY => "start y"
  | stepDistance => "step distance"

/-- Why command text is rejected. -/
inductive CommandError
  | sectionCount (found : Nat)
  | mapFormat (found : Nat)
  | startFormat (found : Nat)
  | invalidStep (token : String)
  | nonPositiveDistance (token : String)
  | unknownSection (text : String)
  | invalidInteger (field : Field) (value : String)
  | duplicateSection (kind : SectionKind)
  | missingSection (kind : SectionKind)
  deriving DecidableEq

namespace CommandError

/-- A rejected command must be changed. -/
def severity (_ : CommandError) : Severity := .validation

/-- A stable identifier of the cause. -/
def code : CommandError → String
  | sectionCount _ => "section_count"
  | mapFormat _ => "map_format"
  | startFormat _ => "start_format"
  | invalidStep _ => "invalid_step"
  | nonPositiveDistance _ => "non_positive_distance"
  | unknownSection _ => "unknown_section"
  | invalidInteger _ _ => "invalid_integer"
  | duplicateSection _ => "duplicate_section"
  | missingSection _ => "missing_section"

/-- The cause in words. Text that was given is quoted. -/
def message : CommandError → String
  | sectionCount found =>
    "invalid command format: expected 3 sections but got " ++ Decimal.ofNat found
  | mapFormat found => "invalid map format: expected 4 fields but got " ++ Decimal.ofNat found
  | startFormat found => "invalid start format: expected 2 fields but got " ++ Decimal.ofNat found
  | invalidStep token => "invalid step format: " ++ quoted token
  | nonPositiveDistance token =>
    "step " ++ quoted token ++ " must have a distance greater than zero"
  | unknownSection text => "invalid command format: unknown section " ++ quoted text
  | invalidInteger field value => "invalid integer " ++ quoted value ++ " in " ++ field.text
  | duplicateSection kind => kind.text ++ " section appears more than once"
  | missingSection kind => kind.text ++ " section is missing"

end CommandError

end GridRobot
