import GridRobot.Json.Decode
import GridRobot.Json.Encode
import GridRobot.Proofs.Json.Reading

/-!
# Values are read back from their JSON text

* `Scan.fills_position`, ..., `Scan.fills_traversal`: the members of a compact text fill all fields
  of the record;
* `Scan.reads_position`, ..., `Scan.reads_traversal`: the compact text of a value is read as the
  value, whatever comes after it;
* `Scan.decode_compact_toJson`: as a whole text it has the value.
-/

namespace GridRobot.Scan

variable {rest : List Char}

/-! ### Numbers -/

theorem integer_bind {α : Type} {f : Int → Scan α} {z : Int} {a : α} (hf : f z = pure a)
    (hz : z.natAbs < 18446744073709551616) (hr : EndsNumber rest) :
    Reads (integer >>= f) (Json.num z).compact.toList a rest := by
  have h := reads_numeral hz hr
  refine ⟨h.opens, fun {n} hn => ?_⟩
  have hinteger : integer n ((Json.num z).compact.toList ++ rest) = .ok (z, rest) := by
    rw [integer, bind_eq (h.eq hn)]
    rfl
  rw [bind_eq hinteger, hf]
  rfl

theorem reads_coord (c : Coord) (hr : EndsNumber rest) :
    Reads coord (Json.num c.val).compact.toList c rest := by
  refine integer_bind ?_ ?_ hr
  · rw [Coord.ofInt?_val]
    rfl
  · have hlower := c.lower
    have hupper := c.upper
    omega

theorem reads_distance (n : { n : Nat // 0 < n ∧ n ≤ 4294967295 }) (hr : EndsNumber rest) :
    Reads distance (Json.num n.1).compact.toList n rest := by
  have hle := n.2.2
  refine integer_bind ?_ (by omega) hr
  exact dif_pos n.2

/-! ### Names -/

theorem reads_direction (d : Direction) : Reads direction d.toJson.compact.toList d rest :=
  reads_oneOf (by cases d <;> rfl)

theorem reads_severity (s : Severity) : Reads severity s.toJson.compact.toList s rest :=
  reads_oneOf (by cases s <;> rfl)

theorem reads_sectionKind (k : SectionKind) : Reads sectionKind k.toJson.compact.toList k rest :=
  reads_oneOf (by cases k <;> rfl)

/-! ### Records -/

theorem fills_position (p : Position) : positionLayout.Fills positionLayout.empty
    [("x", (Json.num p.x.val).compact.toList), ("y", (Json.num p.y.val).compact.toList)]
    (some p.x, some p.y) := by
  refine .cons (.field rfl rfl ?_) <| .cons (.field rfl rfl ?_) <| .nil _
  · exact fun _ hr => reads_coord p.x hr
  · exact fun _ hr => reads_coord p.y hr

theorem reads_position (p : Position) : Reads position p.toJson.compact.toList p rest :=
  Layout.reads_compact_obj (fills_position p) rfl

theorem fills_bounds (b : Bounds) : boundsLayout.Fills boundsLayout.empty
    [("min", b.min.toJson.compact.toList), ("max", b.max.toJson.compact.toList)]
    (some b.min, some b.max) := by
  refine .cons (.field rfl rfl ?_) <| .cons (.field rfl rfl ?_) <| .nil _
  · exact fun _ _ => reads_position b.min
  · exact fun _ _ => reads_position b.max

theorem reads_bounds (b : Bounds) : Reads bounds b.toJson.compact.toList b rest :=
  Layout.reads_compact_obj (fills_bounds b) rfl

theorem fills_step (s : Step) : stepLayout.Fills stepLayout.empty
    [("direction", s.direction.toJson.compact.toList),
      ("distance", (Json.num s.distance).compact.toList)]
    (some s.direction, some ⟨s.distance, s.pos, s.le⟩) := by
  refine .cons (.field rfl rfl ?_) <| .cons (.field rfl rfl ?_) <| .nil _
  · exact fun _ _ => reads_direction s.direction
  · exact fun _ hr => reads_distance ⟨s.distance, s.pos, s.le⟩ hr

theorem reads_step (s : Step) : Reads step s.toJson.compact.toList s rest :=
  Layout.reads_compact_obj (fills_step s) rfl

theorem fills_command (c : Command) : commandLayout.Fills commandLayout.empty
    [("bounds", c.bounds.toJson.compact.toList), ("start", c.start.toJson.compact.toList),
      ("steps", (Json.arr (c.steps.map Step.toJson)).compact.toList)]
    (some c.bounds, some c.start, some c.steps) := by
  refine .cons (.field rfl rfl ?_) <| .cons (.field rfl rfl ?_) <| .cons (.field rfl rfl ?_) <|
    .nil _
  · exact fun _ _ => reads_bounds c.bounds
  · exact fun _ _ => reads_position c.start
  · exact fun _ _ => reads_compact_arr (fun s _ => reads_step s) c.steps

theorem reads_command (c : Command) : Reads command c.toJson.compact.toList c rest :=
  Layout.reads_compact_obj (fills_command c) rfl

theorem fills_traversal (t : Traversal) : traversalLayout.Fills traversalLayout.empty
    [("in_bounds", (Json.bool t.inBounds).compact.toList),
      ("path", (Position.listToJson t.path).compact.toList)]
    (some t.inBounds, some t.path) := by
  refine .cons (.field rfl rfl ?_) <| .cons (.field rfl rfl ?_) <| .nil _
  · exact fun _ _ => reads_boolean t.inBounds
  · exact fun _ _ => reads_compact_arr (fun p _ => reads_position p) t.path

theorem reads_traversal (t : Traversal) : Reads traversal t.toJson.compact.toList t rest :=
  Layout.reads_compact_obj (fills_traversal t) rfl

/-- Every value is read back from its compact text. -/
theorem decode_compact_toJson :
    (∀ p : Position, decode position p.toJson.compact = .ok p) ∧
      (∀ b : Bounds, decode bounds b.toJson.compact = .ok b) ∧
      (∀ d : Direction, decode direction d.toJson.compact = .ok d) ∧
      (∀ s : Step, decode step s.toJson.compact = .ok s) ∧
      (∀ c : Command, decode command c.toJson.compact = .ok c) ∧
      (∀ s : Severity, decode severity s.toJson.compact = .ok s) ∧
      (∀ k : SectionKind, decode sectionKind k.toJson.compact = .ok k) ∧
      ∀ t : Traversal, decode traversal t.toJson.compact = .ok t :=
  ⟨fun p => decode_of_reads (reads_position p), fun b => decode_of_reads (reads_bounds b),
    fun d => decode_of_reads (reads_direction d), fun s => decode_of_reads (reads_step s),
    fun c => decode_of_reads (reads_command c), fun s => decode_of_reads (reads_severity s),
    fun k => decode_of_reads (reads_sectionKind k), fun t => decode_of_reads (reads_traversal t)⟩

end GridRobot.Scan
