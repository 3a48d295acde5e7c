import GridRobot.Command.Basic
import GridRobot.Command.Error

/-!
# Sections of command text

Each of the three sections of a command is recognised by how it begins: `M:` for the map,
`S:` for the start, and brackets around the steps.

* `Section`, `Section.kind`;
* `readCoord`: one integer of a section;
* `readMap`, `readStart`, `readStep`, `readSteps`: the contents of a section;
* `Section.read`: a whole section.
-/

namespace GridRobot

/-- The contents of one section. -/
inductive Section
  | map (bounds : Bounds)
  | start (position : Position)
  | steps (steps : List Step)
  deriving DecidableEq

namespace Section

/-- The kind of a section. -/
def kind : Section → SectionKind
  | map _ => .map
  | start _ => .start
  | steps _ => .steps

/-- One integer of a section, which must be a coordinate. -/
def readCoord (field : Field) (value : List Char) : Except CommandError Coord :=
  match (Decimal.toInt? value).bind Coord.ofInt? with
  | some c => .ok c
  | none => .error (.invalidInteger field (String.ofList value))

/-- The contents of the map section. The least and greatest `x` come first in the text, but
the lower corner is read first. -/
def readMap (body : List Char) : Except CommandError Bounds :=
  match body.splitOn ',' with
  | [minX, maxX, minY, maxY] => do
    let x₀ ← readCoord .minX minX
    let y₀ ← readCoord .minY minY
    let x₁ ← readCoord .maxX maxX
    let y₁ ← readCoord .maxY maxY
    return ⟨⟨x₀, y₀⟩, ⟨x₁, y₁⟩⟩
  | fields => .error (.mapFormat fields.length)

/-- The contents of the start section. -/
def readStart (body : List Char) : Except CommandError Position :=
  match body.splitOn ',' with
  | [x, y] => do
    let x ← readCoord .startX x
    let y ← readCoord .startY y
    return ⟨x, y⟩
  | fields => .error (.startFormat fields.length)

/-- One step: a direction letter and a distance, which is read as a coordinate and must be
positive. -/
def readStep (token : List Char) : Except CommandError Step :=
  match token with
  | [] => .error (.invalidStep "")
  | letter :: digits =>
    match Direction.ofLetter? letter with
    | none => .error (.invalidStep (String.ofList token))
    | some direction =>
      match readCoord .stepDistance digits with
      | .error e => .error e
      | .ok distance =>
        match Step.ofDistance? direction distance.val.toNat with
        | some step => .ok step
        | none => .error (.nonPositiveDistance (String.ofList token))

/-- The text between the brackets of the steps section. -/
def readSteps (body : List Char) : Except CommandError (List Step) :=
  if body = [] then .ok [] else (body.splitOn ',').mapM readStep

/-- The text between the brackets of a section that has them. -/
def stripBrackets? : List Char → Option (List Char)
  | '[' :: rest => if rest.getLast? = some ']' then some rest.dropLast else none
  | _ => none

/-- A section of command text. -/
def read (text : List Char) : Except CommandError Section :=
  match ['M', ':'].isPrefixOf? text with
  | some body => map <$> readMap body
  | none =>
    match ['S', ':'].isPrefixOf? text with
    | some body => start <$> readStart body
    | none =>
      match stripBrackets? text with
      | some body => steps <$> readSteps body
      | none => .error (.unknownSection (String.ofList text))

end Section

end GridRobot
