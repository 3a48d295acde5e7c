import GridRobot.Plan.Traversal

/-!
# Walks move by move

A walk is described leg by leg, but only the unit moves of the legs matter.

* `walkMoves`: a walk along unit moves; `walk_eq_walkMoves` says that the walk of a command is
  the walk along all its moves;
* `Trail.Follows b p t ds`: the trail `t` starts at `p` and makes the moves `ds` inside `b`;
* `walkMoves_of_follows`: once some moves are made, the walk goes on from where they lead;
  `follows_of_complete`: a walk that makes all its moves makes them inside the map.
-/

namespace GridRobot

/-- Extends a trail along unit moves. -/
def walkMoves (b : Bounds) : List Direction → Trail → Walk
  | [], t => ⟨t, .complete⟩
  | d :: ds, t =>
    match t.last.step? d with
    | none => ⟨t, .offGrid d⟩
    | some p => if b.contains p then walkMoves b ds (t.push p) else ⟨t.push p, .offMap⟩

/-- Goes on from a walk that is complete. -/
def Walk.andThen (w : Walk) (next : Trail → Walk) : Walk :=
  match w with
  | ⟨t, .complete⟩ => next t
  | stopped => stopped

theorem Walk.andThen_of_complete {w : Walk} (h : w.ending = .complete) (next : Trail → Walk) :
    w.andThen next = next w.trail := by
  rcases w with ⟨t, _ | _ | _⟩
  · rfl
  · cases h
  · cases h

theorem Walk.andThen_of_stopped {w : Walk} (h : w.ending ≠ .complete) (next : Trail → Walk) :
    w.andThen next = w := by
  rcases w with ⟨t, _ | _ | _⟩
  · exact absurd rfl h
  · rfl
  · rfl

section OneMove

variable {b : Bounds} {p : Position} {d : Direction} {ds : List Direction} {t : Trail}

@[simp] theorem walkMoves_nil (b : Bounds) (t : Trail) : walkMoves b [] t = ⟨t, .complete⟩ := rfl

theorem walkMoves_offGrid (h : t.last.step? d = none) :
    walkMoves b (d :: ds) t = ⟨t, .offGrid d⟩ := by
  simp only [walkMoves, h]

theorem walkMoves_offMap (h : t.last.step? d = some p) (hp : b.contains p = false) :
    walkMoves b (d :: ds) t = ⟨t.push p, .offMap⟩ := by
  simp [walkMoves, h, hp]

theorem walkMoves_onMap (h : t.last.step? d = some p) (hp : b.contains p = true) :
    walkMoves b (d :: ds) t = walkMoves b ds (t.push p) := by
  simp [walkMoves, h, hp]

end OneMove

/-! ### Legs and moves -/

theorem walkMoves_append (b : Bounds) (ds es : List Direction) (t : Trail) :
    walkMoves b (ds ++ es) t = (walkMoves b ds t).andThen (walkMoves b es) := by
  induction ds generalizing t with
  | nil => rfl
  | cons d ds ih =>
    rw [List.cons_append]
    cases hs : t.last.step? d with
    | none => rw [walkMoves_offGrid hs, walkMoves_offGrid hs]; rfl
    | some p =>
      cases hp : b.contains p with
      | false => rw [walkMoves_offMap hs hp, walkMoves_offMap hs hp]; rfl
      | true => rw [walkMoves_onMap hs hp, walkMoves_onMap hs hp, ih]

theorem walkLeg_eq_walkMoves (b : Bounds) (d : Direction) (n : Nat) (t : Trail) :
    walkLeg b d n t = walkMoves b (List.replicate n d) t := by
  induction n generalizing t with
  | zero => rfl
  | succ n ih =>
    rw [List.replicate_succ]
    cases hs : t.last.step? d with
    | none => rw [walkMoves_offGrid hs]; simp [walkLeg, hs]
    | some p =>
      cases hp : b.contains p with
      | false => rw [walkMoves_offMap hs hp]; simp [walkLeg, hs, hp]
      | true => rw [walkMoves_onMap hs hp, ← ih]; simp [walkLeg, hs, hp]

theorem walkSteps_eq_walkMoves (b : Bounds) (steps : List Step) (t : Trail) :
    walkSteps b steps t = walkMoves b (steps.flatMap Step.moves) t := by
  induction steps generalizing t with
  | nil => rfl
  | cons s rest ih =>
    rw [List.flatMap_cons, walkMoves_append, walkSteps, walkLeg_eq_walkMoves, Step.moves]
    rcases walkMoves b (List.replicate s.distance s.direction) t with ⟨t', _ | _ | _⟩
    · exact ih t'
    · rfl
    · rfl

theorem Command.walk_eq_walkMoves (c : Command) :
    c.walk = walkMoves c.bounds c.moves (.single c.start) :=
  walkSteps_eq_walkMoves c.bounds c.steps (.single c.start)

/-- A walk only adds to the trail. -/
theorem prefix_walkMoves (b : Bounds) (ds : List Direction) (t : Trail) :
    t.toList <+: (walkMoves b ds t).trail.toList := by
  induction ds generalizing t with
  | nil => exact List.prefix_rfl
  | cons d ds ih =>
    cases hs : t.last.step? d with
    | none => exact (walkMoves_offGrid hs).symm ▸ List.prefix_rfl
    | some p =>
      have hpush : t.toList <+: (t.push p).toList := by simp
      cases hp : b.contains p with
      | false => rwa [walkMoves_offMap hs hp]
      | true => rw [walkMoves_onMap hs hp]; exact hpush.trans (ih _)

/-! ### Trails inside the map -/

/-- The trail starts at `p` and makes the given moves, all of them inside `b`. The start
itself may be outside. -/
inductive Trail.Follows (b : Bounds) (p : Position) : Trail → List Direction → Prop
  | single : Follows b p (.single p) []
  | push {t : Trail} {ds : List Direction} {d : Direction} {q : Position} :
      Follows b p t ds → t.last.step? d = some q → b.contains q = true →
      Follows b p (t.push q) (ds ++ [d])

variable {b : Bounds} {p : Position} {ds : List Direction} {t : Trail}

/-- Once the moves `ds` are made, the walk goes on from where they lead. -/
theorem walkMoves_of_follows (h : t.Follows b p ds) (es : List Direction) :
    walkMoves b (ds ++ es) (.single p) = walkMoves b es t := by
  induction h generalizing es with
  | single => rfl
  | push _ hs hq ih => rw [List.append_assoc, ih, List.singleton_append, walkMoves_onMap hs hq]

/-- A walk that makes all its moves makes them inside the map. -/
theorem follows_of_complete (h : t.Follows b p ds) {es : List Direction}
    (hw : (walkMoves b es t).ending = .complete) :
    (walkMoves b es t).trail.Follows b p (ds ++ es) := by
  induction es generalizing t ds with
  | nil => rwa [List.append_nil]
  | cons d es ih =>
    cases hs : t.last.step? d with
    | none => rw [walkMoves_offGrid hs] at hw; cases hw
    | some q =>
      cases hq : b.contains q with
      | false => rw [walkMoves_offMap hs hq] at hw; cases hw
      | true =>
        rw [walkMoves_onMap hs hq] at hw ⊢
        rw [← List.singleton_append, ← List.append_assoc]
        exact ih (h.push hs hq) hw

theorem Command.inBounds_iff_complete {c : Command} :
    c.traverse.inBounds = true ↔ c.walk.ending = .complete := by
  simp [traverse, Walk.traversal]

theorem Command.follows_of_inBounds {c : Command} (h : c.traverse.inBounds = true) :
    c.walk.trail.Follows c.bounds c.start c.moves := by
  have hw : c.walk.ending = .complete := inBounds_iff_complete.1 h
  rw [walk_eq_walkMoves] at hw ⊢
  exact follows_of_complete .single hw

namespace Trail.Follows

theorem moves_eq (h : t.Follows b p ds) : t.moves = ds.length := by
  induction h with
  | single => rfl
  | push _ _ _ ih => simp [ih]

theorem head?_eq (h : t.Follows b p ds) : t.toList.head? = some p := by
  induction h with
  | single => rfl
  | push _ _ _ ih => rw [toList_push, List.head?_append, ih]; rfl

/-- Only the start may be outside. -/
theorem contains_of_mem_tail (h : t.Follows b p ds) :
    ∀ q ∈ t.toList.tail, b.contains q = true := by
  induction h with
  | single => simp
  | @push t _ _ q _ _ hq ih =>
    rw [toList_push, List.tail_append_of_ne_nil t.toList_ne_nil]
    simpa [or_imp, forall_and] using ⟨ih, hq⟩

/-- The `k`-th move of the trail is the `k`-th of the moves. -/
theorem step?_getElem (h : t.Follows b p ds) {k : Nat} {q q' : Position}
    (hq : t.toList[k]? = some q) (hq' : t.toList[k + 1]? = some q') :
    ∃ d, ds[k]? = some d ∧ q.step? d = some q' := by
  induction h generalizing q q' with
  | single => simp at hq'
  | @push t ds d p' hf hs _ ih =>
    have hlen := hf.moves_eq
    rw [toList_push] at hq hq'
    by_cases hk : k + 1 < t.toList.length
    · rw [List.getElem?_append_left (by omega)] at hq
      rw [List.getElem?_append_left hk] at hq'
      obtain ⟨d', hd', hs'⟩ := ih hq hq'
      exact ⟨d', by rw [List.getElem?_append_left (List.getElem?_eq_some_iff.1 hd').1, hd'], hs'⟩
    · -- the new last move
      have hk' : k = t.moves := by
        have := (List.getElem?_eq_some_iff.1 hq').1
        simp at this hk
        omega
      subst hk'
      have hlast : t.toList[t.moves]? = some t.last := by
        simp [← getLast?_toList, List.getLast?_eq_getElem?]
      rw [List.getElem?_append_left (by simp), hlast] at hq
      rw [← length_toList t, List.getElem?_concat_length] at hq'
      cases hq
      cases hq'
      exact ⟨d, by rw [hlen, List.getElem?_concat_length], hs⟩

end Trail.Follows

end GridRobot
