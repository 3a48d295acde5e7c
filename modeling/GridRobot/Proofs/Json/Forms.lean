import GridRobot.Plan.Traversal
import GridRobot.Proofs.Json.Grammar

/-!
# The JSON texts of the data

The texts that stand for a value of the library, at every level of nesting. The members of an
object may come in any order and with members of other names among them, and white space may
stand anywhere between the parts.

* `IsInteger`, `IsBool`, `IsName`: values that hold no other;
* `IsList`: arrays of any length;
* `Member`, `objectOf`: the members of an object, with their names;
* `FieldForm`, `Gives`, `IsRecord`: records, as objects that give each field once, or as arrays of
  the values of the fields in order;
* `Position.fields`, `Bounds.fields`, `Step.fields`, `Command.fields`, `Traversal.fields`.
-/

namespace GridRobot

variable {α : Type}

/-! ### Values that hold no other -/

/-- The text of an integer. -/
def IsInteger (z : Int) (text : List Char) : Prop := text = (Decimal.ofInt z).toList

/-- The text of a truth value. -/
def IsBool (b : Bool) (text : List Char) : Prop := text = (if b then "true" else "false").toList

/-- The texts of a name: a string, or an object with this name only, whose value is null. -/
inductive IsName (name : String) : List Char → Prop
  | string {text : List Char} : Names name text → IsName name text
  | object {key value : List Char} :
      Padded (Names name) key → Padded (fun text => text = "null".toList) value →
      IsName name (enclosed .object [memberOf key value])

/-! ### Arrays -/

/-- The texts of a list, given the texts of its elements. -/
inductive IsList (P : α → List Char → Prop) : List α → List Char → Prop
  | empty {w : List Char} : Blank w → IsList P [] (enclosed .array [w])
  | elements {parts : List (List Char)} {as : List α} :
      parts ≠ [] → List.Forall₂ (fun a part => Padded (P a) part) as parts →
      IsList P as (enclosed .array parts)

/-! ### Objects -/

/-- A member of an object, with the name that its key stands for. -/
structure Member where
  name : String
  key : List Char
  value : List Char
  isKey : Padded (Names name) key

namespace Member

/-- The text of a member. -/
def text (m : Member) : List Char := memberOf m.key m.value

/-- The values that the members give to a name. -/
def valuesOf (name : String) (members : List Member) : List (List Char) :=
  (members.filter fun m => m.name = name).map value

end Member

/-- The object with the given members. -/
def objectOf (members : List Member) : List Char := enclosed .object (members.map Member.text)

/-! ### Records -/

/-- A field of a record: its name, and the texts that stand for it in a given record. -/
structure FieldForm (α : Type) where
  name : String
  IsText : α → List Char → Prop

/-- The members of an object give each field of a record once, and values to other names. -/
structure Gives (fields : List (FieldForm α)) (a : α) (members : List Member) : Prop where
  once : ∀ field ∈ fields, ∃ value,
    Member.valuesOf field.name members = [value] ∧ Padded (field.IsText a) value
  others : ∀ m ∈ members, m.name ∉ fields.map FieldForm.name → IsJson m.value

/-- The texts of a record. -/
inductive IsRecord (fields : List (FieldForm α)) (a : α) : List Char → Prop
  | object {members : List Member} :
      Gives fields a members → IsRecord fields a (objectOf members)
  | array {parts : List (List Char)} :
      List.Forall₂ (fun field part => Padded (field.IsText a) part) fields parts →
      IsRecord fields a (enclosed .array parts)

/-- The fields of a position. -/
def Position.fields : List (FieldForm Position) := [
  ⟨"x", fun p => IsInteger p.x.val⟩,
  ⟨"y", fun p => IsInteger p.y.val⟩]

/-- The fields of bounds. -/
def Bounds.fields : List (FieldForm Bounds) := [
  ⟨"min", fun b => IsRecord Position.fields b.min⟩,
  ⟨"max", fun b => IsRecord Position.fields b.max⟩]

/-- The fields of a leg. -/
def Step.fields : List (FieldForm Step) := [
  ⟨"direction", fun s => IsName s.direction.name⟩,
  ⟨"distance", fun s => IsInteger s.distance⟩]

/-- The fields of a command. -/
def Command.fields : List (FieldForm Command) := [
  ⟨"bounds", fun c => IsRecord Bounds.fields c.bounds⟩,
  ⟨"start", fun c => IsRecord Position.fields c.start⟩,
  ⟨"steps", fun c => IsList (IsRecord Step.fields) c.steps⟩]

/-- The fields of a traversal. -/
def Traversal.fields : List (FieldForm Traversal) := [
  ⟨"in_bounds", fun t => IsBool t.inBounds⟩,
  ⟨"path", fun t => IsList (IsRecord Position.fields) t.path⟩]

/-! ### Texts of records are values -/

theorem isWhole_toDigits (n : Nat) : IsWhole (Nat.toDigits 10 n) := by
  refine ⟨⟨Nat.toDigits_ne_nil, fun c hc => Nat.isDigit_of_mem_toDigits (by decide) (by decide) hc⟩,
    fun hhead => ?_⟩
  rw [head?_toDigits hhead]
  rfl

theorem IsInteger.isJson {z : Int} {text : List Char} (h : IsInteger z text) : IsJson text := by
  have hunsigned : ∀ n, IsUnsigned (Nat.toDigits 10 n) := fun n =>
    ⟨_, [], [], isWhole_toDigits n, .inl rfl, .inl rfl, by simp⟩
  subst h
  cases z with
  | ofNat n =>
    rw [Decimal.ofInt, Decimal.toList_ofNat]
    exact .number (.inl (hunsigned n))
  | negSucc n =>
    rw [Decimal.ofInt, String.toList_append, Decimal.toList_ofNat]
    exact .number (.inr ⟨_, hunsigned (n + 1), rfl⟩)

theorem IsBool.isJson {b : Bool} {text : List Char} (h : IsBool b text) : IsJson text := by
  subst h
  cases b
  · exact .word (by simp)
  · exact .word (by simp)

theorem IsName.isJson {name : String} {text : List Char} (h : IsName name text) :
    IsJson text := by
  cases h with
  | string h => exact .string h.isString
  | @object key value hkey hvalue =>
    have hnull : IsJson value := hvalue.isJson fun _ ht => .word (by simp [ht])
    have hname : Padded IsString key := hkey.mono fun _ => Names.isString
    exact @IsJson.object [(key, value)] (by simpa using hname) (by simpa using hnull)

/-- The texts of the parts of an array are values if those they stand for are. -/
theorem isJson_of_forall₂ {R : α → List Char → Prop} {as : List α} {parts : List (List Char)}
    (hR : ∀ a ∈ as, ∀ text, R a text → IsJson text)
    (h : List.Forall₂ (fun a part => Padded (R a) part) as parts) :
    ∀ part ∈ parts, IsJson part := by
  induction h with
  | nil => simp
  | cons hpart _ ih =>
    rw [List.forall_mem_cons] at hR ⊢
    exact ⟨hpart.isJson hR.1, ih hR.2⟩

theorem IsList.isJson {P : α → List Char → Prop} {as : List α} {text : List Char}
    (h : IsList P as text) (hP : ∀ a text, P a text → IsJson text) : IsJson text := by
  cases h with
  | empty hw => exact .empty hw
  | elements _ h => exact .array (isJson_of_forall₂ (fun a _ => hP a) h)

theorem Member.mem_valuesOf {m : Member} {members : List Member} (hm : m ∈ members) :
    m.value ∈ valuesOf m.name members :=
  List.mem_map.2 ⟨m, List.mem_filter.2 ⟨hm, by simp⟩, rfl⟩

theorem isJson_objectOf {members : List Member} (h : ∀ m ∈ members, IsJson m.value) :
    IsJson (objectOf members) := by
  have hjson := @IsJson.object (members.map fun m => (m.key, m.value))
    (List.forall_mem_map.2 fun m _ => m.isKey.mono fun _ => Names.isString)
    (List.forall_mem_map.2 h)
  rw [List.map_map] at hjson
  exact hjson

variable {fields : List (FieldForm α)} {a : α} {members : List Member} {text : List Char}

theorem Gives.isJson_value (h : Gives fields a members)
    (hfields : ∀ field ∈ fields, ∀ text, field.IsText a text → IsJson text) :
    ∀ m ∈ members, IsJson m.value := by
  intro m hm
  by_cases hname : m.name ∈ fields.map FieldForm.name
  · obtain ⟨field, hfield, heq⟩ := List.mem_map.1 hname
    obtain ⟨value, hvalues, hvalue⟩ := h.once field hfield
    have hmem := Member.mem_valuesOf hm
    rw [← heq, hvalues, List.mem_singleton] at hmem
    rw [hmem]
    exact hvalue.isJson (hfields field hfield)
  · exact h.others m hm hname

theorem IsRecord.isJson (h : IsRecord fields a text)
    (hfields : ∀ field ∈ fields, ∀ text, field.IsText a text → IsJson text) : IsJson text := by
  cases h with
  | object h => exact isJson_objectOf (h.isJson_value hfields)
  | array h => exact .array (isJson_of_forall₂ hfields h)

end GridRobot
