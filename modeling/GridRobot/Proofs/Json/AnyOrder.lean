import GridRobot.Proofs.Json.Records
import GridRobot.Proofs.Json.Unambiguity

/-!
# The data are read from their members in any order

Positions, bounds, legs, commands and traversals are read from exactly the texts that stand for
them. In an object the members may come in any order, and members of other names are skipped.

* `Position.InRange`, ..., `Traversal.InRange`: the bounds on coordinates and distances;
* `Scan.ReadsRecords`: what it means to read records of given fields;
* `Layout.HasColumns.readsRecords`: a layout with given columns does;
* `Position.hasColumns`, ..., `Traversal.hasColumns`: the columns of the data;
* `Scan.records_in_any_order`: all five are read.
-/

namespace GridRobot

open Scan (Recognizes decode)

/-! ### Bounds on numbers -/

/-- The coordinates of a position are signed 32-bit integers. -/
def Position.InRange (p : Position) : Prop := Coord.InRange p.x.val ∧ Coord.InRange p.y.val

/-- All coordinates of bounds are signed 32-bit integers. -/
def Bounds.InRange (b : Bounds) : Prop := b.min.InRange ∧ b.max.InRange

/-- The distance of a leg is a positive 32-bit number. -/
def Step.InRange (s : Step) : Prop := 1 ≤ s.distance ∧ s.distance ≤ 4294967295

/-- All coordinates and distances of a command are in their ranges. -/
def Command.InRange (c : Command) : Prop :=
  c.bounds.InRange ∧ c.start.InRange ∧ ∀ s ∈ c.steps, s.InRange

/-- All coordinates of a traversal are signed 32-bit integers. -/
def Traversal.InRange (t : Traversal) : Prop := ∀ p ∈ t.path, p.InRange

theorem Position.inRange (p : Position) : p.InRange := ⟨p.x.inRange_val, p.y.inRange_val⟩

theorem Bounds.inRange (b : Bounds) : b.InRange := ⟨b.min.inRange, b.max.inRange⟩

theorem Step.inRange (s : Step) : s.InRange := ⟨s.pos, s.le⟩

theorem Command.inRange (c : Command) : c.InRange :=
  ⟨c.bounds.inRange, c.start.inRange, fun s _ => s.inRange⟩

theorem Traversal.inRange (t : Traversal) : t.InRange := fun p _ => p.inRange

/-! ### Reading records -/

variable {α σ : Type}

/-- The scan reads records of the given fields. A text is read as a record exactly if it stands for
it, and what is read is in range. An object is read as a record exactly if its members give each
field once, an array exactly if its elements stand for the fields in order, and an object in which
a field is missing or repeated is rejected. -/
structure Scan.ReadsRecords (scan : Scan α) (fields : List (FieldForm α)) (InRange : α → Prop) :
    Prop where
  decode_eq_ok_iff : ∀ {text : String} {a : α},
    decode scan text = .ok a ↔ Padded (IsRecord fields a) text.toList
  inRange : ∀ {text : String} {a : α}, decode scan text = .ok a → InRange a
  decode_objectOf_iff : ∀ {text : String} {members : List Member} {a : α},
    (∀ m ∈ members, IsJson m.value) → Padded (fun t => t = objectOf members) text.toList →
      (decode scan text = .ok a ↔ Gives fields a members)
  decode_arrayOf_iff : ∀ {text : String} {parts : List (List Char)} {a : α},
    (∀ part ∈ parts, IsJson part) → Padded (fun t => t = enclosed .array parts) text.toList →
      (decode scan text = .ok a ↔
        List.Forall₂ (fun field part => Padded (field.IsText a) part) fields parts)
  rejects : ∀ {text : String} {members : List Member} {field : FieldForm α},
    (∀ m ∈ members, IsJson m.value) → Padded (fun t => t = objectOf members) text.toList →
      field ∈ fields → (members.map Member.name).count field.name ≠ 1 →
        ∃ f, decode scan text = .error f

theorem Member.length_valuesOf (name : String) (members : List Member) :
    (valuesOf name members).length = (members.map Member.name).count name := by
  rw [valuesOf, List.length_map, List.count_eq_countP, List.countP_map,
    List.countP_eq_length_filter]
  rfl

theorem Gives.count_eq_one {fields : List (FieldForm α)} {a : α} {members : List Member}
    {field : FieldForm α} (h : Gives fields a members) (hfield : field ∈ fields) :
    (members.map Member.name).count field.name = 1 := by
  obtain ⟨value, hvalue, -⟩ := h.once field hfield
  rw [← Member.length_valuesOf, hvalue]
  rfl

variable {fields : List (FieldForm α)} {a : α} {members : List Member}
  {parts : List (List Char)} {text : List Char}

/-- A text of a record begins where any other reading of the same text begins. -/
theorem exists_isRecord_append {o : Scan.Open}
    (henclosed : Padded (fun t => t = enclosed o parts) text)
    (hrecord : Padded (IsRecord fields a) text) :
    ∃ t v v', IsRecord fields a t ∧ enclosed o parts ++ v = t ++ v' := by
  obtain ⟨w, -, v, hw, rfl, -, rfl⟩ := henclosed
  obtain ⟨w', t, v', hw', ht, -, heq⟩ := hrecord
  have hopens : ∃ o' parts', t = enclosed o' parts' := by
    cases ht with
    | object => exact ⟨_, _, rfl⟩
    | array => exact ⟨_, _, rfl⟩
  obtain ⟨o', parts', rfl⟩ := hopens
  have hbegin := heq
  rw [enclosed_append, enclosed_append] at hbegin
  obtain ⟨rfl, -, -⟩ := hw.append_cons_inj hw' o.isBlank_opening o'.isBlank_opening hbegin
  exact ⟨_, v, v', ht, List.append_cancel_left heq⟩

/-- The members of an object that stands for a record give its fields. -/
theorem gives_of_isRecord (hfields : ∀ field ∈ fields, ∀ t, field.IsText a t → IsJson t)
    (h : ∀ m ∈ members, IsJson m.value) (hobject : Padded (fun t => t = objectOf members) text)
    (hrecord : Padded (IsRecord fields a) text) : Gives fields a members := by
  obtain ⟨t, v, v', ht, heq⟩ := exists_isRecord_append hobject hrecord
  cases ht with
  | object hgives =>
    rw [objectOf_inj h (hgives.isJson_value hfields) heq]
    exact hgives
  | array =>
    rw [enclosed_append, enclosed_append] at heq
    cases (List.cons.inj heq).1

/-- The elements of an array that stands for a record stand for its fields in order. -/
theorem forall₂_of_isRecord (hfields : ∀ field ∈ fields, ∀ t, field.IsText a t → IsJson t)
    (h : ∀ part ∈ parts, IsJson part) (harray : Padded (fun t => t = enclosed .array parts) text)
    (hrecord : Padded (IsRecord fields a) text) :
    List.Forall₂ (fun field part => Padded (field.IsText a) part) fields parts := by
  obtain ⟨t, v, v', ht, heq⟩ := exists_isRecord_append harray hrecord
  cases ht with
  | object =>
    rw [objectOf, enclosed_append, enclosed_append] at heq
    cases (List.cons.inj heq).1
  | array hparts =>
    rw [arrayOf_inj h (isJson_of_forall₂ hfields hparts) heq]
    exact hparts

namespace Layout.HasColumns

variable {l : Layout σ α} {cols : List (Column σ α)} {a : α} {text : String}

/-- An object with given members is read as a record exactly if they give its fields. -/
theorem decode_objectOf_iff (h : l.HasColumns cols) (hne : cols ≠ []) {members : List Member}
    (hjson : ∀ m ∈ members, IsJson m.value)
    (hobject : Padded (fun t => t = objectOf members) text.toList) :
    decode l.scan text = .ok a ↔ Gives (cols.map Column.form) a members := by
  rw [(h.recognizes_scan hne).decode_eq_ok_iff]
  constructor
  · exact gives_of_isRecord (h.isJson_form a) hjson hobject
  · exact fun hgives => hobject.mono fun t ht => ht ▸ .object hgives

/-- An array with given elements is read as a record exactly if they stand for its fields in
order. -/
theorem decode_arrayOf_iff (h : l.HasColumns cols) (hne : cols ≠ []) {parts : List (List Char)}
    (hjson : ∀ part ∈ parts, IsJson part)
    (harray : Padded (fun t => t = enclosed .array parts) text.toList) :
    decode l.scan text = .ok a ↔ List.Forall₂
      (fun field part => Padded (field.IsText a) part) (cols.map Column.form) parts := by
  rw [(h.recognizes_scan hne).decode_eq_ok_iff]
  constructor
  · exact forall₂_of_isRecord (h.isJson_form a) hjson harray
  · exact fun hparts => harray.mono fun t ht => ht ▸ .array hparts

/-- A layout with the given columns reads records of their fields. -/
theorem readsRecords (h : l.HasColumns cols) (hne : cols ≠ []) {InRange : α → Prop}
    (hrange : ∀ a, InRange a) : l.scan.ReadsRecords (cols.map Column.form) InRange where
  decode_eq_ok_iff := (h.recognizes_scan hne).decode_eq_ok_iff
  inRange _ := hrange _
  decode_objectOf_iff hjson hobject := h.decode_objectOf_iff hne hjson hobject
  decode_arrayOf_iff hjson harray := h.decode_arrayOf_iff hne hjson harray
  rejects := by
    intro text members field hjson hobject hfield hcount
    refine exists_eq_error_iff.2 fun a hdecode => hcount ?_
    exact ((h.decode_objectOf_iff hne hjson hobject).1 hdecode).count_eq_one hfield

end Layout.HasColumns

/-! ### The columns of the data -/

section Pair

variable {β γ : Type}

/-- The columns of a record of two fields. -/
def pairColumns (name₁ name₂ : String) (scan₁ : Scan β) (scan₂ : Scan γ) (part₁ : α → β)
    (part₂ : α → γ) (IsText₁ : β → List Char → Prop) (IsText₂ : γ → List Char → Prop) :
    List (Column (Option β × Option γ) α) := [
  ⟨name₁, β, fun st => st.1, fun st b => (some b, st.2), scan₁, part₁, IsText₁⟩,
  ⟨name₂, γ, fun st => st.2, fun st c => (st.1, some c), scan₂, part₂, IsText₂⟩]

theorem hasColumns_pair {l : Layout (Option β × Option γ) α} {name₁ name₂ : String} {scan₁ : Scan β}
    {scan₂ : Scan γ} {part₁ : α → β} {part₂ : α → γ} {IsText₁ : β → List Char → Prop}
    {IsText₂ : γ → List Char → Prop} (hslots : l.slots = [
      .of name₁ (fun st => st.1) (fun st b => (some b, st.2)) scan₁,
      .of name₂ (fun st => st.2) (fun st c => (st.1, some c)) scan₂])
    (hname : name₁ ≠ name₂) (hempty : l.empty = (none, none))
    (hfinish : ∀ st a, l.finish st = some a ↔ st = (some (part₁ a), some (part₂ a)))
    (h₁ : Recognizes scan₁ IsText₁) (h₂ : Recognizes scan₂ IsText₂) :
    l.HasColumns (pairColumns name₁ name₂ scan₁ scan₂ part₁ part₂ IsText₁ IsText₂) where
  slots_eq := hslots
  nodup := by simp [pairColumns, hname]
  recognizes := by simp [pairColumns, h₁, h₂]
  get_empty := by simp [pairColumns, hempty]
  get_set := by simp [pairColumns]
  get_set_ne := by simp [pairColumns]
  finish_iff := by simp [pairColumns, hfinish, Prod.ext_iff]

end Pair

/-- The columns of a position. -/
def Position.columns : List (Column (Option Coord × Option Coord) Position) :=
  pairColumns "x" "y" Scan.coord Scan.coord Position.x Position.y (fun c => IsInteger c.val)
    fun c => IsInteger c.val

theorem Position.hasColumns : Scan.positionLayout.HasColumns columns :=
  hasColumns_pair rfl (by decide) rfl
    (by rintro ⟨_ | x, _ | y⟩ ⟨x', y'⟩ <;> simp [Scan.positionLayout])
    Scan.recognizes_coord Scan.recognizes_coord

theorem Scan.recognizes_position : Recognizes position (IsRecord Position.fields) :=
  Position.hasColumns.recognizes_scan (List.cons_ne_nil _ _)

/-- The columns of bounds. -/
def Bounds.columns : List (Column (Option Position × Option Position) Bounds) :=
  pairColumns "min" "max" Scan.position Scan.position Bounds.min Bounds.max
    (IsRecord Position.fields) (IsRecord Position.fields)

theorem Bounds.hasColumns : Scan.boundsLayout.HasColumns columns :=
  hasColumns_pair rfl (by decide) rfl
    (by rintro ⟨_ | p, _ | q⟩ ⟨p', q'⟩ <;> simp [Scan.boundsLayout])
    Scan.recognizes_position Scan.recognizes_position

theorem Scan.recognizes_bounds : Recognizes bounds (IsRecord Bounds.fields) :=
  Bounds.hasColumns.recognizes_scan (List.cons_ne_nil _ _)

/-- The columns of a leg. -/
def Step.columns :
    List (Column (Option Direction × Option { n : Nat // 0 < n ∧ n ≤ 4294967295 }) Step) :=
  pairColumns "direction" "distance" Scan.direction Scan.distance Step.direction
    (fun s => ⟨s.distance, s.pos, s.le⟩) (fun d => IsName d.name) fun n => IsInteger n.1

theorem Step.hasColumns : Scan.stepLayout.HasColumns columns :=
  hasColumns_pair rfl (by decide) rfl
    (by rintro ⟨_ | d, _ | n⟩ ⟨d', n', hpos, hle⟩ <;> simp [Scan.stepLayout, Subtype.ext_iff])
    (Scan.recognizes_oneOf fun d => by cases d <;> rfl) Scan.recognizes_distance

theorem Scan.recognizes_step : Recognizes step (IsRecord Step.fields) :=
  Step.hasColumns.recognizes_scan (List.cons_ne_nil _ _)

/-- The columns of a command. -/
def Command.columns :
    List (Column (Option Bounds × Option Position × Option (List Step)) Command) := [
  ⟨"bounds", Bounds, fun st => st.1, fun st b => (some b, st.2), Scan.bounds, Command.bounds,
    IsRecord Bounds.fields⟩,
  ⟨"start", Position, fun st => st.2.1, fun st p => (st.1, some p, st.2.2), Scan.position,
    Command.start, IsRecord Position.fields⟩,
  ⟨"steps", List Step, fun st => st.2.2, fun st ss => (st.1, st.2.1, some ss),
    Scan.list Scan.step, Command.steps, IsList (IsRecord Step.fields)⟩]

theorem Command.hasColumns : Scan.commandLayout.HasColumns columns where
  slots_eq := rfl
  nodup := by decide
  recognizes := by
    simp [columns, Scan.recognizes_bounds, Scan.recognizes_position, Scan.recognizes_step.list]
  get_empty := by simp [columns, Scan.commandLayout]
  get_set := by simp [columns]
  get_set_ne := by simp [columns]
  finish_iff := by
    rintro ⟨_ | b, _ | p, _ | ss⟩ ⟨b', p', ss'⟩ <;> simp [columns, Scan.commandLayout]

/-- The columns of a traversal. -/
def Traversal.columns : List (Column (Option Bool × Option (List Position)) Traversal) :=
  pairColumns "in_bounds" "path" Scan.boolean (Scan.list Scan.position) Traversal.inBounds
    Traversal.path IsBool (IsList (IsRecord Position.fields))

theorem Traversal.hasColumns : Scan.traversalLayout.HasColumns columns :=
  hasColumns_pair rfl (by decide) rfl
    (by rintro ⟨_ | b, _ | ps⟩ ⟨b', ps'⟩ <;> simp [Scan.traversalLayout])
    Scan.recognizes_boolean Scan.recognizes_position.list

/-- Positions, bounds, legs, commands and traversals are read from exactly the texts that stand for
them, with their members in any order, and what is read is in range. -/
theorem Scan.records_in_any_order :
    ReadsRecords position Position.fields Position.InRange ∧
      ReadsRecords bounds Bounds.fields Bounds.InRange ∧
      ReadsRecords step Step.fields Step.InRange ∧
      ReadsRecords command Command.fields Command.InRange ∧
      ReadsRecords traversal Traversal.fields Traversal.InRange :=
  ⟨Position.hasColumns.readsRecords (List.cons_ne_nil _ _) Position.inRange,
    Bounds.hasColumns.readsRecords (List.cons_ne_nil _ _) Bounds.inRange,
    Step.hasColumns.readsRecords (List.cons_ne_nil _ _) Step.inRange,
    Command.hasColumns.readsRecords (List.cons_ne_nil _ _) Command.inRange,
    Traversal.hasColumns.readsRecords (List.cons_ne_nil _ _) Traversal.inRange⟩

end GridRobot
