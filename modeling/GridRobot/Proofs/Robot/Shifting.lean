import GridRobot.Proofs.Grid.Tiles
import GridRobot.Proofs.Robot.Invariant

/-!
# Shifted commands

A map and a start that are shifted together give the same walk and the same run at another place.
The coordinate range has no part in it: a move that is refused because it leads beyond the range
at one place is refused because it leads off the map at the other.

* `Position.ofPoint?`: the position of a point of the plane;
* `Command.shift?`: a command at another place;
* `Robot.OnPlan.inPlane`: a run that is over, in terms of the points of its plan on a grid without
  limits; `run_of_staysInside`, `run_of_isLeast` say the same of whole runs;
* `Command.LeavesAt`: what a traversal and a run tell of the point where the plan leaves the map;
* `Command.RunsShifted v c c'`: traversal and run of `c'` are those of `c`, shifted by `v`;
* `Command.place_is_irrelevant`: this is so for every shift that the corners of the map and the
  start allow.
-/

namespace GridRobot

/-! ### Points with a position -/

namespace Position

/-- The position of a point of the plane, if the point lies in the coordinate range. -/
def ofPoint? (z : Int × Int) : Option Position := ofInts? z.1 z.2

theorem ofPoint?_eq_some_iff {z : Int × Int} {p : Position} :
    ofPoint? z = some p ↔ p.toInts = z := by
  rw [ofPoint?, ofInts?_eq_some_iff, Prod.ext_iff]
  rfl

theorem ofPoint?_eq_none_iff {z : Int × Int} : ofPoint? z = none ↔ ¬ Representable z :=
  ofInts?_eq_none_iff

@[simp] theorem ofPoint?_toInts (p : Position) : ofPoint? p.toInts = some p :=
  ofPoint?_eq_some_iff.2 rfl

/-- The position that lies `v` away, if there is one. -/
def shift? (p : Position) (v : Int × Int) : Option Position := ofPoint? (p.toInts + v)

theorem shift?_eq_some_iff {p q : Position} {v : Int × Int} :
    p.shift? v = some q ↔ q.toInts = p.toInts + v := ofPoint?_eq_some_iff

end Position

/-! ### Runs on the unbounded grid -/

/-- What a whole run of a fresh robot comes to. -/
def Command.run (c : Command) : RunSummary := (Robot.activate c).runToEnd.1

theorem Command.exists_onPlan_run (c : Command) :
    ∃ (r : Robot) (o : RunOutcome), r.OnPlan c ∧ r.status.outcome? = some o ∧
      c.run = r.summary o :=
  Robot.exists_onPlan_runToEnd c

section Exits

variable {c : Command} {t : Trail} {made rest : List Direction} {d : Direction}

/-- The move after those of a trail leads to the next point of the plan. -/
theorem Command.point_of_follows (hf : t.Follows c.bounds c.start made)
    (hmoves : c.moves = made ++ d :: rest) :
    c.point (made.length + 1) = t.last.toInts + (d.dx, d.dy) := by
  have htake : c.moves.take (made.length + 1) = made ++ [d] := by
    rw [hmoves, List.take_length_add_append]
    rfl
  rw [point, htake, displacement_append_singleton, ← add_assoc, ← hf.last_toInts]

theorem Command.covers_of_follows (hf : t.Follows c.bounds c.start made)
    (hmoves : c.moves = made ++ rest) {k : Nat} (hk : 1 ≤ k) (hk' : k ≤ made.length) :
    c.bounds.Covers (c.point k) := by
  rw [point, hmoves, List.take_append_of_le_length hk']
  exact hf.covers hk hk'

/-- The first move that is not made leads to the first point outside. -/
theorem Command.isLeast_exits_of_follows (hf : t.Follows c.bounds c.start made)
    (hmoves : c.moves = made ++ d :: rest)
    (hout : ¬ c.bounds.Covers (c.point (made.length + 1))) :
    IsLeast c.exits (made.length + 1) := by
  have htotal : made.length + 1 ≤ c.totalDistance := by
    rw [← length_moves, hmoves, List.length_append, List.length_cons]
    omega
  refine ⟨⟨Nat.le_add_left _ _, htotal, hout⟩, ?_⟩
  rintro k ⟨hk, -, hkout⟩
  by_contra hlt
  exact hkout (covers_of_follows hf hmoves hk (by omega))

end Exits

namespace Robot

variable {c : Command} {r : Robot} {o : RunOutcome}

/-- When its run is over, a robot has stood on the points of its plan up to the first one outside
the map, and the outcome tells the position of that point. -/
theorem OnPlan.inPlane (h : r.OnPlan c) (ho : r.status.outcome? = some o) :
    (c.StaysInside ∧ o = .completed ∧
        r.trail.toList.map Position.toInts = (List.range (c.totalDistance + 1)).map c.point) ∨
      ∃ m, IsLeast c.exits m ∧ o = .aborted (Position.ofPoint? (c.point m)) ∧
        r.trail.toList.map Position.toInts = (List.range m).map c.point := by
  obtain ⟨made, rest, hf, hu, hmoves⟩ := h.plan
  have htotal : c.totalDistance = made.length + rest.length := by
    rw [← Command.length_moves, hmoves, List.length_append]
  have hmade : c.moves.take made.length = made := by rw [hmoves, List.take_left]
  have htrail : r.trail.toList.map Position.toInts = (List.range (made.length + 1)).map c.point :=
    Command.map_toInts_of_follows (hmade.symm ▸ hf) (by omega)
  cases hu with
  | running hr => rw [hr] at ho; cases ho
  | finished hr hup =>
    rw [hr] at ho
    cases ho
    rw [List.length_nil, Nat.add_zero] at htotal
    exact .inl ⟨fun k hk hk' => Command.covers_of_follows hf hmoves hk (htotal ▸ hk'), rfl,
      htotal ▸ htrail⟩
  | beyondGrid hr hs =>
    rw [hr] at ho
    cases ho
    rw [h.position_eq, Position.step?_eq_none_iff_toInts,
      ← Command.point_of_follows hf hmoves] at hs
    refine .inr ⟨_, Command.isLeast_exits_of_follows hf hmoves fun hc => hs hc.representable, ?_,
      htrail⟩
    rw [Position.ofPoint?_eq_none_iff.2 hs]
    rfl
  | outOfBounds hr hs hq =>
    rw [hr] at ho
    cases ho
    rw [h.position_eq, Position.step?_eq_some_iff_toInts,
      ← Command.point_of_follows hf hmoves] at hs
    rw [onMap, h.command_eq] at hq
    refine .inr ⟨_, Command.isLeast_exits_of_follows hf hmoves fun hc => ?_, ?_, htrail⟩
    · rw [← hs, ← Bounds.contains_iff_covers, hq] at hc
      cases hc
    · rw [← hs, Position.ofPoint?_toInts]
      rfl

end Robot

namespace Command

variable {c c' : Command} {m : Nat} {v z : Int × Int}

/-! ### What a run tells -/

theorem getLast?_trail_run (c : Command) : c.run.trail.getLast? = some c.run.finalPosition := by
  obtain ⟨r, o, hplan, -, hs⟩ := exists_onPlan_run c
  rw [hs]
  exact hplan.consistent.getLast?_eq

theorem moves_run (c : Command) : c.run.moves = c.run.trail.length - 1 := by
  obtain ⟨r, o, -, -, hs⟩ := exists_onPlan_run c
  rw [hs]
  simp [Robot.summary]

theorem totalTiles_run (c : Command) : c.run.totalTiles = c.bounds.area := by
  obtain ⟨r, o, hplan, -, hs⟩ := exists_onPlan_run c
  rw [hs, ← hplan.command_eq]
  rfl

/-- The tiles that a run cleans are the points of its trail that lie in the rectangle. -/
theorem encard_cleaned_run (c : Command) :
    {z | z ∈ c.run.trail.map Position.toInts ∧ c.bounds.Covers z}.encard = c.run.cleanedTiles := by
  obtain ⟨r, o, hplan, -, hs⟩ := exists_onPlan_run c
  have himage : {z | z ∈ r.trail.toList.map Position.toInts ∧ c.bounds.Covers z} =
      Position.toInts '' {p | p ∈ r.cleaned} := by
    ext z
    simp only [Set.mem_ofPred_eq, Set.mem_image, List.mem_map, hplan.cleaned_iff,
      Bounds.contains_iff_covers]
    constructor
    · rintro ⟨⟨p, hp, rfl⟩, hz⟩
      exact ⟨p, ⟨hp, hz⟩, rfl⟩
    · rintro ⟨p, ⟨hp, hz⟩, rfl⟩
      exact ⟨⟨p, hp, rfl⟩, hz⟩
  rw [hs]
  change {z | z ∈ r.trail.toList.map Position.toInts ∧ c.bounds.Covers z}.encard = r.cleaned.size
  rw [himage, Position.toInts_injective.encard_image, PositionSet.encard_mem]

/-- The plan leaves the map at the point `z`, which is refused to the robot. The traversal lists
the position of that point and the outcome tells it, if it has one. -/
structure LeavesAt (c : Command) (z : Int × Int) : Prop where
  point_eq : c.point c.run.trail.length = z
  outside : ¬ c.bounds.Covers z
  inBounds_eq : c.traverse.inBounds = false
  path_eq : c.traverse.path = c.run.trail ++ (Position.ofPoint? z).toList
  outcome_eq : c.run.outcome = .aborted (Position.ofPoint? z)

theorem run_of_staysInside (h : c.StaysInside) :
    c.run.outcome = .completed ∧ c.traverse.path = c.run.trail ∧
      c.run.trail.map Position.toInts = (List.range (c.totalDistance + 1)).map c.point := by
  obtain ⟨r, o, hplan, ho, hs⟩ := exists_onPlan_run c
  rw [hs]
  rcases hplan.inPlane ho with ⟨-, hout, htrail⟩ | ⟨m, ⟨⟨hm, hm', hexit⟩, -⟩, -, -⟩
  · refine ⟨hout, ?_, htrail⟩
    exact List.map_injective_iff.2 Position.toInts_injective (h.traverse_eq.2.trans htrail.symm)
  · exact absurd (h m hm hm') hexit

theorem run_of_isLeast (h : IsLeast c.exits m) :
    c.LeavesAt (c.point m) ∧
      c.run.trail.map Position.toInts = (List.range m).map c.point := by
  obtain ⟨r, o, hplan, ho, hs⟩ := exists_onPlan_run c
  obtain ⟨hin, hpath⟩ := traverse_eq_of_isLeast h
  rcases hplan.inPlane ho with ⟨hinside, -, -⟩ | ⟨m', hm', hout, htrail⟩
  · exact absurd (hinside m h.1.1 h.1.2.1) h.1.2.2
  · obtain rfl := h.unique hm'
    have htrail' : c.run.trail.map Position.toInts = (List.range m).map c.point := by
      rw [hs]
      exact htrail
    have hlength : c.run.trail.length = m := by simpa using congrArg List.length htrail'
    refine ⟨⟨by rw [hlength], h.1.2.2, hin, ?_, by rw [hs]; exact hout⟩, htrail'⟩
    apply List.map_injective_iff.2 Position.toInts_injective
    rw [hpath, List.map_append, htrail']
    split
    · next hrep =>
      obtain ⟨p, hp⟩ := hrep.exists_position
      rw [← hp, Position.ofPoint?_toInts, List.range_succ, List.map_append]
      simp [hp]
    · next hrep =>
      rw [Position.ofPoint?_eq_none_iff.2 hrep]
      simp

/-! ### Shifted commands -/

/-- The command with its map and its start moved by `v`, if the coordinate range allows it. -/
def shift? (c : Command) (v : Int × Int) : Option Command := do
  let min ← c.bounds.min.shift? v
  let max ← c.bounds.max.shift? v
  let start ← c.start.shift? v
  return ⟨⟨min, max⟩, start, c.steps⟩

theorem shift?_eq_some_iff :
    c.shift? v = some c' ↔
      c'.bounds.min.toInts = c.bounds.min.toInts + v ∧
        c'.bounds.max.toInts = c.bounds.max.toInts + v ∧
        c'.start.toInts = c.start.toInts + v ∧ c'.steps = c.steps := by
  obtain ⟨⟨min, max⟩, start, steps⟩ := c'
  simp only [shift?, Option.bind_eq_bind, Option.bind_eq_some_iff, Position.shift?_eq_some_iff,
    Option.pure_def, Option.some.injEq]
  constructor
  · rintro ⟨_, hmin, _, hmax, _, hstart, h⟩
    cases h
    exact ⟨hmin, hmax, hstart, rfl⟩
  · rintro ⟨hmin, hmax, hstart, rfl⟩
    exact ⟨min, hmin, max, hmax, start, hstart, rfl⟩

section Shift

variable (h : c.shift? v = some c')
include h

theorem moves_shift : c'.moves = c.moves := by
  rw [moves, moves, (shift?_eq_some_iff.1 h).2.2.2]

theorem totalDistance_shift : c'.totalDistance = c.totalDistance := by
  rw [← length_moves, ← length_moves, moves_shift h]

theorem point_shift (k : Nat) : c'.point k = c.point k + v := by
  rw [point, point, (shift?_eq_some_iff.1 h).2.2.1, moves_shift h, add_right_comm]

theorem covers_shift (z : Int × Int) : c'.bounds.Covers (z + v) ↔ c.bounds.Covers z := by
  obtain ⟨hmin, hmax, -, -⟩ := shift?_eq_some_iff.1 h
  obtain ⟨hminx, hminy⟩ := Prod.ext_iff.1 hmin
  obtain ⟨hmaxx, hmaxy⟩ := Prod.ext_iff.1 hmax
  simp only [Position.toInts, Prod.fst_add, Prod.snd_add] at hminx hminy hmaxx hmaxy
  simp only [Bounds.Covers, Prod.fst_add, Prod.snd_add, hminx, hminy, hmaxx, hmaxy]
  omega

theorem area_shift : c'.bounds.area = c.bounds.area := by
  obtain ⟨hmin, hmax, -, -⟩ := shift?_eq_some_iff.1 h
  obtain ⟨hminx, hminy⟩ := Prod.ext_iff.1 hmin
  obtain ⟨hmaxx, hmaxy⟩ := Prod.ext_iff.1 hmax
  simp only [Position.toInts, Prod.fst_add, Prod.snd_add] at hminx hminy hmaxx hmaxy
  simp only [Bounds.area, Bounds.width, Bounds.height, hminx, hminy, hmaxx, hmaxy,
    add_sub_add_right_eq_sub]

theorem staysInside_shift : c'.StaysInside ↔ c.StaysInside := by
  simp only [StaysInside, totalDistance_shift h, point_shift h, covers_shift h]

theorem exits_shift : c'.exits = c.exits := by
  simp only [exits, totalDistance_shift h, point_shift h, covers_shift h]

end Shift

/-- Traversal and run of `c'` are those of `c`, shifted by `v`. Only the point where the plan leaves
the map may have a position in one of the two places and none in the other. -/
structure RunsShifted (v : Int × Int) (c c' : Command) : Prop where
  inBounds_eq : c'.traverse.inBounds = c.traverse.inBounds
  trail_eq : c'.run.trail.map Position.toInts = c.run.trail.map fun p => p.toInts + v
  finalPosition_eq : c'.run.finalPosition.toInts = c.run.finalPosition.toInts + v
  moves_eq : c'.run.moves = c.run.moves
  cleanedTiles_eq : c'.run.cleanedTiles = c.run.cleanedTiles
  totalTiles_eq : c'.run.totalTiles = c.run.totalTiles
  completed_iff : c'.run.outcome = .completed ↔ c.run.outcome = .completed
  ending : (c.run.outcome = .completed ∧ c.traverse.path = c.run.trail ∧
      c'.traverse.path = c'.run.trail) ∨
    ∃ z, c.LeavesAt z ∧ c'.LeavesAt (z + v)

theorem map_point_shift (h : c.shift? v = some c') {n : Nat} {ps ps' : List Position}
    (hps : ps.map Position.toInts = (List.range n).map c.point)
    (hps' : ps'.map Position.toInts = (List.range n).map c'.point) :
    ps'.map Position.toInts = ps.map fun p => p.toInts + v := by
  calc ps'.map Position.toInts
      = (List.range n).map fun k => c.point k + v := by
        rw [hps']
        exact List.map_congr_left fun k _ => point_shift h k
    _ = (ps.map Position.toInts).map (· + v) := by rw [hps, List.map_map]; rfl
    _ = ps.map fun p => p.toInts + v := List.map_map

section Trails

variable (htrail : c'.run.trail.map Position.toInts = c.run.trail.map fun p => p.toInts + v)
include htrail

theorem finalPosition_of_trail :
    c'.run.finalPosition.toInts = c.run.finalPosition.toInts + v := by
  have hlast := congrArg List.getLast? htrail
  rw [List.getLast?_map, List.getLast?_map, getLast?_trail_run, getLast?_trail_run] at hlast
  exact Option.some.inj hlast

theorem moves_of_trail : c'.run.moves = c.run.moves := by
  have hlength := congrArg List.length htrail
  rw [List.length_map, List.length_map] at hlength
  rw [moves_run, moves_run, hlength]

/-- Both rectangles cover the same part of the trails. -/
theorem cleanedTiles_of_trail (h : c.shift? v = some c') :
    c'.run.cleanedTiles = c.run.cleanedTiles := by
  have himage : {z | z ∈ c'.run.trail.map Position.toInts ∧ c'.bounds.Covers z} =
      (· + v) '' {z | z ∈ c.run.trail.map Position.toInts ∧ c.bounds.Covers z} := by
    rw [htrail]
    ext z
    simp only [Set.mem_ofPred_eq, Set.mem_image, List.mem_map]
    constructor
    · rintro ⟨⟨p, hp, rfl⟩, hz⟩
      exact ⟨p.toInts, ⟨⟨p, hp, rfl⟩, (covers_shift h _).1 hz⟩, rfl⟩
    · rintro ⟨_, ⟨⟨p, hp, rfl⟩, hz⟩, rfl⟩
      exact ⟨⟨p, hp, rfl⟩, (covers_shift h _).2 hz⟩
  have hcard := congrArg Set.encard himage
  rw [(add_left_injective v).encard_image, encard_cleaned_run, encard_cleaned_run] at hcard
  exact_mod_cast hcard

end Trails

theorem runsShifted_of_shift (h : c.shift? v = some c') : RunsShifted v c c' := by
  have htotal : c'.run.totalTiles = c.run.totalTiles := by
    rw [totalTiles_run, totalTiles_run, area_shift h]
  obtain ⟨r, o, hplan, ho, -⟩ := exists_onPlan_run c
  rcases hplan.inPlane ho with ⟨hin, -⟩ | ⟨m, hm, -⟩
  · have hin' : c'.StaysInside := (staysInside_shift h).2 hin
    obtain ⟨hout, hpath, hpoints⟩ := run_of_staysInside hin
    obtain ⟨hout', hpath', hpoints'⟩ := run_of_staysInside hin'
    have htrail := map_point_shift h hpoints (totalDistance_shift h ▸ hpoints')
    exact ⟨by rw [hin.traverse_eq.1, hin'.traverse_eq.1], htrail, finalPosition_of_trail htrail,
      moves_of_trail htrail, cleanedTiles_of_trail htrail h, htotal, iff_of_true hout' hout,
      .inl ⟨hout, hpath, hpath'⟩⟩
  · obtain ⟨hleaves, hpoints⟩ := run_of_isLeast hm
    obtain ⟨hleaves', hpoints'⟩ := run_of_isLeast (exits_shift h ▸ hm)
    have htrail := map_point_shift h hpoints hpoints'
    rw [point_shift h] at hleaves'
    refine ⟨by rw [hleaves.inBounds_eq, hleaves'.inBounds_eq], htrail,
      finalPosition_of_trail htrail, moves_of_trail htrail, cleanedTiles_of_trail htrail h, htotal,
      ?_, .inr ⟨_, hleaves, hleaves'⟩⟩
    rw [hleaves.outcome_eq, hleaves'.outcome_eq]
    exact iff_of_false nofun nofun

/-- **The place on the grid does not matter.** A command whose map and start are shifted within the
coordinate range is traversed and run in the same way at the new place. -/
theorem place_is_irrelevant (hmin : Representable (c.bounds.min.toInts + v))
    (hmax : Representable (c.bounds.max.toInts + v))
    (hstart : Representable (c.start.toInts + v)) :
    ∃ c', c.shift? v = some c' ∧ RunsShifted v c c' := by
  obtain ⟨min, hmin⟩ := hmin.exists_position
  obtain ⟨max, hmax⟩ := hmax.exists_position
  obtain ⟨start, hstart⟩ := hstart.exists_position
  have hshift : c.shift? v = some ⟨⟨min, max⟩, start, c.steps⟩ :=
    shift?_eq_some_iff.2 ⟨hmin, hmax, hstart, rfl⟩
  exact ⟨_, hshift, runsShifted_of_shift hshift⟩

/-- Along the south side of a map of twelve by twelve tiles, and then off the map. -/
def southPlan : Command where
  bounds := ⟨.origin, ⟨12, by decide, by decide⟩, ⟨12, by decide, by decide⟩⟩
  start := .origin
  steps := [⟨.east, 11, by decide, by decide⟩, ⟨.south, 13, by decide, by decide⟩]

/-- At the south end of the grid the point where the plan leaves the map has no position. -/
theorem place_is_irrelevant_southPlan :
    Representable (southPlan.bounds.min.toInts + (0, -2147483648)) ∧
      Representable (southPlan.bounds.max.toInts + (0, -2147483648)) ∧
      Representable (southPlan.start.toInts + (0, -2147483648)) ∧
      ∃ c', southPlan.shift? (0, -2147483648) = some c' ∧
        RunsShifted (0, -2147483648) southPlan c' ∧ southPlan.traverse.path.length = 13 ∧
        c'.traverse.path.length = 12 := by
  have hmin : Representable (southPlan.bounds.min.toInts + (0, -2147483648)) := by decide
  have hmax : Representable (southPlan.bounds.max.toInts + (0, -2147483648)) := by decide
  have hstart : Representable (southPlan.start.toInts + (0, -2147483648)) := by decide
  obtain ⟨c', hshift, hruns⟩ := place_is_irrelevant hmin hmax hstart
  refine ⟨hmin, hmax, hstart, c', hshift, hruns, by decide, ?_⟩
  have hlength : (southPlan.shift? (0, -2147483648)).map (fun c => c.traverse.path.length) =
      some 12 := by decide
  rw [hshift] at hlength
  exact Option.some.inj hlength

end Command

end GridRobot
