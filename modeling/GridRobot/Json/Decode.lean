import GridRobot.Json.Record
import GridRobot.Command.Error
import GridRobot.Plan.Traversal

/-!
# Values from JSON

The data of the library read back from JSON text. Coordinates and distances must be integers
of their range.

* `Scan.coord`, `Scan.distance`, `Scan.direction`, `Scan.severity`, `Scan.sectionKind`;
* `Scan.position`, `Scan.bounds`, `Scan.step`, `Scan.command`, `Scan.traversal`, each with the
  layout of its record.
-/

namespace GridRobot.Scan

/-- A value that must exist. -/
def require {α : Type} : Option α → Scan α
  | some a => return a
  | none => fail .mismatch

/-- An integer. -/
def integer : Scan Int := do
  match ← numeral with
  | .integer z => return z
  | .real => fail .mismatch

/-- A coordinate. -/
def coord : Scan Coord := do
  require (Coord.ofInt? (← integer))

/-- The distance of a leg: a positive 32-bit number. -/
def distance : Scan { n : Nat // 0 < n ∧ n ≤ 4294967295 } := do
  let z ← integer
  if h : 0 < z.toNat ∧ z.toNat ≤ 4294967295 then
    return ⟨z.toNat, h⟩
  else
    fail .mismatch

/-- A direction, by name. -/
def direction : Scan Direction := oneOf Direction.all Direction.name

/-- A severity, by name. -/
def severity : Scan Severity := oneOf Severity.all Severity.name

/-- A kind of section, by name. -/
def sectionKind : Scan SectionKind := oneOf SectionKind.all SectionKind.name

/-- The fields of a position. -/
def positionLayout : Layout (Option Coord × Option Coord) Position where
  slots := [
    .of "x" (fun st => st.1) (fun st x => (some x, st.2)) coord,
    .of "y" (fun st => st.2) (fun st y => (st.1, some y)) coord]
  empty := (none, none)
  finish := fun
    | (some x, some y) => some ⟨x, y⟩
    | _ => none

/-- A position. -/
def position : Scan Position := positionLayout.scan

/-- The fields of bounds. -/
def boundsLayout : Layout (Option Position × Option Position) Bounds where
  slots := [
    .of "min" (fun st => st.1) (fun st p => (some p, st.2)) position,
    .of "max" (fun st => st.2) (fun st p => (st.1, some p)) position]
  empty := (none, none)
  finish := fun
    | (some min, some max) => some ⟨min, max⟩
    | _ => none

/-- Bounds. -/
def bounds : Scan Bounds := boundsLayout.scan

/-- The fields of a leg. -/
def stepLayout :
    Layout (Option Direction × Option { n : Nat // 0 < n ∧ n ≤ 4294967295 }) Step where
  slots := [
    .of "direction" (fun st => st.1) (fun st d => (some d, st.2)) direction,
    .of "distance" (fun st => st.2) (fun st n => (st.1, some n)) distance]
  empty := (none, none)
  finish := fun
    | (some d, some n) => some ⟨d, n.1, n.2.1, n.2.2⟩
    | _ => none

/-- A leg. -/
def step : Scan Step := stepLayout.scan

/-- The fields of a command. -/
def commandLayout :
    Layout (Option Bounds × Option Position × Option (List Step)) Command where
  slots := [
    .of "bounds" (fun st => st.1) (fun st b => (some b, st.2)) bounds,
    .of "start" (fun st => st.2.1) (fun st p => (st.1, some p, st.2.2)) position,
    .of "steps" (fun st => st.2.2) (fun st ss => (st.1, st.2.1, some ss)) (list step)]
  empty := (none, none, none)
  finish := fun
    | (some b, some p, some ss) => some ⟨b, p, ss⟩
    | _ => none

/-- A command. -/
def command : Scan Command := commandLayout.scan

/-- The fields of a traversal. -/
def traversalLayout : Layout (Option Bool × Option (List Position)) Traversal where
  slots := [
    .of "in_bounds" (fun st => st.1) (fun st b => (some b, st.2)) boolean,
    .of "path" (fun st => st.2) (fun st ps => (st.1, some ps)) (list position)]
  empty := (none, none)
  finish := fun
    | (some b, some ps) => some ⟨b, ps⟩
    | _ => none

/-- A traversal. -/
def traversal : Scan Traversal := traversalLayout.scan

end GridRobot.Scan
