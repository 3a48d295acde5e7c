import GridRobot.Proofs.Json.Reading

/-!
# The grammar of JSON text

JSON text with white space between its parts, as a grammar: which texts are values, and which of
them stand for a given name.

* `Blank`, `Padded`: white space, and a text with white space around it;
* `Spells body cs`: between quotes, `body` stands for the characters `cs`, of which each may be
  written as itself or in one of several escaped forms; `IsBody` leaves out what it stands for;
* `IsNumber`: numbers with their sign, fraction and exponent;
* `enclosed`: the parts of an array or an object between their brackets;
* `IsJson`: the texts of values of any nesting, with `IsJson.array` and `IsJson.object`.
-/

namespace GridRobot

/-! ### White space -/

/-- White space only. -/
def Blank (w : List Char) : Prop := ∀ c ∈ w, Scan.isBlank c = true

@[simp] theorem blank_nil : Blank [] := by
  simp [Blank]

theorem Blank.append {w w' : List Char} (h : Blank w) (h' : Blank w') : Blank (w ++ w') := by
  intro c hc
  rcases List.mem_append.1 hc with hc | hc
  · exact h c hc
  · exact h' c hc

/-- A text with white space around it. -/
def Padded (P : List Char → Prop) (text : List Char) : Prop :=
  ∃ w t w', Blank w ∧ P t ∧ Blank w' ∧ text = w ++ (t ++ w')

/-! ### Strings -/

/-- Between quotes, the text stands for the given characters. -/
inductive Spells : List Char → List Char → Prop
  | nil : Spells [] []
  | plain {c : Char} {body cs : List Char} :
      c ≠ '"' → c ≠ '\\' → 0x20 ≤ c.toNat → Spells body cs → Spells (c :: body) (c :: cs)
  | letter {c e : Char} {body cs : List Char} :
      letterEscape? c = some e → Spells body cs → Spells ('\\' :: c :: body) (e :: cs)
  | unit {a b c d : Char} {n : Nat} {body cs : List Char} :
      hexUnit? a b c d = some n → isLeading n = false → isTrailing n = false → Spells body cs →
      Spells ('\\' :: 'u' :: a :: b :: c :: d :: body) (Char.ofNat n :: cs)
  | pair {a b c d a' b' c' d' : Char} {n m : Nat} {body cs : List Char} :
      hexUnit? a b c d = some n → isLeading n = true →
      hexUnit? a' b' c' d' = some m → isTrailing m = true → Spells body cs →
      Spells ('\\' :: 'u' :: a :: b :: c :: d :: '\\' :: 'u' :: a' :: b' :: c' :: d' :: body)
        (pairChar n m :: cs)

/-- The text of a string between its quotes. The units of a pair may also stand alone. -/
inductive IsBody : List Char → Prop
  | nil : IsBody []
  | plain {c : Char} {body : List Char} :
      c ≠ '"' → c ≠ '\\' → 0x20 ≤ c.toNat → IsBody body → IsBody (c :: body)
  | letter {c : Char} {body : List Char} :
      (letterEscape? c).isSome = true → IsBody body → IsBody ('\\' :: c :: body)
  | unit {a b c d : Char} {body : List Char} :
      (hexUnit? a b c d).isSome = true → IsBody body →
      IsBody ('\\' :: 'u' :: a :: b :: c :: d :: body)

theorem Spells.isBody {body cs : List Char} (h : Spells body cs) : IsBody body := by
  induction h with
  | nil => exact .nil
  | plain hquote hback hlow _ ih => exact .plain hquote hback hlow ih
  | letter he _ ih => exact .letter (by rw [he]; rfl) ih
  | unit hn _ _ _ ih => exact .unit (by rw [hn]; rfl) ih
  | pair hn _ hm _ _ ih => exact .unit (by rw [hn]; rfl) (.unit (by rw [hm]; rfl) ih)

/-- A text between quotes. -/
def inQuotes (body : List Char) : List Char := '"' :: (body ++ ['"'])

/-- A string. -/
def IsString (text : List Char) : Prop := ∃ body, IsBody body ∧ text = inQuotes body

/-- A string that stands for the given name. -/
def Names (name : String) (text : List Char) : Prop :=
  ∃ body, Spells body name.toList ∧ text = inQuotes body

theorem Names.isString {name : String} {text : List Char} (h : Names name text) :
    IsString text := by
  obtain ⟨body, hbody, rfl⟩ := h
  exact ⟨body, hbody.isBody, rfl⟩

/-! ### Numbers -/

/-- One or more digits. -/
def IsDigits (ds : List Char) : Prop := ds ≠ [] ∧ ∀ c ∈ ds, c.isDigit = true

/-- The digits before the point. A zero has no other digits after it. -/
def IsWhole (ds : List Char) : Prop := IsDigits ds ∧ (ds.head? = some '0' → ds.length = 1)

/-- The point and the digits after it, if there are any. -/
def IsFraction (text : List Char) : Prop := text = [] ∨ ∃ ds, IsDigits ds ∧ text = '.' :: ds

/-- A power of ten, if there is one. -/
def IsExponent (text : List Char) : Prop :=
  text = [] ∨ ∃ e sign ds, e ∈ ['e', 'E'] ∧ sign ∈ [[], ['+'], ['-']] ∧ IsDigits ds ∧
    text = e :: (sign ++ ds)

/-- A number without its sign. -/
def IsUnsigned (text : List Char) : Prop :=
  ∃ whole fraction exponent, IsWhole whole ∧ IsFraction fraction ∧ IsExponent exponent ∧
    text = whole ++ (fraction ++ exponent)

/-- A number. -/
def IsNumber (text : List Char) : Prop :=
  IsUnsigned text ∨ ∃ unsigned, IsUnsigned unsigned ∧ text = '-' :: unsigned

/-! ### Values -/

/-- The bracket at the beginning of a container. -/
@[simp] def Scan.Open.opening : Open → Char
  | array => '['
  | object => '\x7b'

/-- The bracket at the end of a container. -/
@[simp] def Scan.Open.closing : Open → Char
  | array => ']'
  | object => '\x7d'

theorem Scan.Open.isBlank_opening (o : Open) : isBlank o.opening = false := by
  cases o with
  | array => rfl
  | object => rfl

theorem Scan.Open.isBlank_closing (o : Open) : isBlank o.closing = false := by
  cases o with
  | array => rfl
  | object => rfl

/-- Parts between the brackets of a container, with a comma between them. -/
def enclosed (o : Scan.Open) (parts : List (List Char)) : List Char :=
  o.opening :: (separated true parts ++ [o.closing])

theorem enclosed_append (o : Scan.Open) (parts : List (List Char)) (rest : List Char) :
    enclosed o parts ++ rest = o.opening :: (separated true parts ++ o.closing :: rest) := by
  simp [enclosed]

theorem length_separated_lt (o : Scan.Open) (parts : List (List Char)) :
    (separated true parts).length < (enclosed o parts).length := by
  rw [enclosed, List.length_cons, List.length_append]
  omega

/-- What stands before a value in a container: nothing in an array, and a name with a colon in an
object. -/
inductive IsFront : Scan.Open → List Char → Prop
  | array : IsFront .array []
  | object {key : List Char} : Padded IsString key → IsFront .object (key ++ [':'])

/-- The texts of values. White space may stand around any value and any name. -/
inductive IsJson : List Char → Prop
  | word {text : List Char} :
      text ∈ ["null".toList, "true".toList, "false".toList] → IsJson text
  | number {text : List Char} : IsNumber text → IsJson text
  | string {text : List Char} : IsString text → IsJson text
  | empty {o : Scan.Open} {w : List Char} : Blank w → IsJson (enclosed o [w])
  | container {o : Scan.Open} {parts : List (List Char × List Char)} :
      parts ≠ [] → (∀ part ∈ parts, IsFront o part.1) → (∀ part ∈ parts, IsJson part.2) →
      IsJson (enclosed o (parts.map fun part => part.1 ++ part.2))
  | padded {w text w' : List Char} :
      Blank w → IsJson text → Blank w' → IsJson (w ++ (text ++ w'))

theorem IsJson.append_blank {text w : List Char} (h : IsJson text) (hw : Blank w) :
    IsJson (text ++ w) :=
  .padded blank_nil h hw

/-- A member of an object: the text of its name, a colon and the text of its value. -/
def memberOf (key value : List Char) : List Char := key ++ ':' :: value

theorem IsJson.of_parts {o : Scan.Open} {parts : List (List Char × List Char)}
    (hfront : ∀ part ∈ parts, IsFront o part.1) (h : ∀ part ∈ parts, IsJson part.2) :
    IsJson (enclosed o (parts.map fun part => part.1 ++ part.2)) := by
  cases parts with
  | nil => exact .empty (w := []) blank_nil
  | cons part parts => exact .container (List.cons_ne_nil _ _) hfront h

theorem IsJson.array {parts : List (List Char)} (h : ∀ part ∈ parts, IsJson part) :
    IsJson (enclosed .array parts) := by
  have hjson := @IsJson.of_parts .array (parts.map fun part => ([], part))
    (List.forall_mem_map.2 fun _ _ => .array) (List.forall_mem_map.2 h)
  simpa [Function.comp_def] using hjson

theorem IsJson.object {members : List (List Char × List Char)}
    (hkey : ∀ m ∈ members, Padded IsString m.1) (hvalue : ∀ m ∈ members, IsJson m.2) :
    IsJson (enclosed .object (members.map fun m => memberOf m.1 m.2)) := by
  have hjson := @IsJson.of_parts .object (members.map fun m => (m.1 ++ [':'], m.2))
    (List.forall_mem_map.2 fun m hm => .object (hkey m hm)) (List.forall_mem_map.2 hvalue)
  simpa [Function.comp_def, memberOf] using hjson

theorem Padded.blank_append {P : List Char → Prop} {text w : List Char} (h : Padded P text)
    (hw : Blank w) : Padded P (w ++ text) := by
  obtain ⟨v, t, v', hv, ht, hv', rfl⟩ := h
  exact ⟨w ++ v, t, v', hw.append hv, ht, hv', (List.append_assoc w v _).symm⟩

theorem Padded.mono {P Q : List Char → Prop} {text : List Char} (h : Padded P text)
    (hPQ : ∀ t, P t → Q t) : Padded Q text := by
  obtain ⟨w, t, w', hw, ht, hw', rfl⟩ := h
  exact ⟨w, t, w', hw, hPQ t ht, hw', rfl⟩

theorem Padded.isJson {P : List Char → Prop} {text : List Char} (h : Padded P text)
    (hP : ∀ t, P t → IsJson t) : IsJson text := by
  obtain ⟨w, t, w', hw, ht, hw', rfl⟩ := h
  exact .padded hw (hP t ht) hw'

end GridRobot
