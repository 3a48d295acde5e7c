/-!
# The lexemes of JSON

The words, strings and numbers of JSON text. Each function reads from the front of a text and
returns what is left of it. The first fault decides, and there are three kinds of faults.

* `Fault`, with its name `Fault.category`; `Fault.missing`: the fault of a text that lacks something
  where it goes on with `rest`;
* `literal`: the rest of a word;
* `unquote`, `skipString`: a string after its opening quote, with or without its value. Only a
  string whose value is wanted must pair its surrogates;
* `NumberText.scan`: the parts of a number after its sign;
* `Numeral`, `readNumber`, `skipNumber`: a number after its sign, with or without its value.
  Only a number whose value is wanted must fit in a double-precision float;
* `misfit`: the fault of a value that has another type than asked for.
-/

namespace GridRobot

/-! ### Faults -/

/-- What is wrong with JSON text: it ends early, it is not JSON, or it is JSON of another type,
range, length or name than asked for. -/
inductive Fault
  | ended
  | malformed
  | mismatch
  deriving DecidableEq

namespace Fault

/-- The name of the kind of fault. -/
def category : Fault → String
  | ended => "eof"
  | malformed => "syntax"
  | mismatch => "data"

/-- The fault when something is missing: the text has ended, or has something else there. -/
def missing (rest : List Char) : Fault := if rest.isEmpty then ended else malformed

end Fault

/-! ### Words -/

/-- The text after the given word. -/
def literal : List Char → List Char → Except Fault (List Char)
  | [], s => .ok s
  | _ :: _, [] => .error .ended
  | w :: word, c :: s => if c = w then literal word s else .error .malformed

/-! ### Strings -/

/-- The value of a hexadecimal digit. -/
def hexDigit? (c : Char) : Option Nat :=
  if '0' ≤ c ∧ c ≤ '9' then some (c.toNat - 48)
  else if 'a' ≤ c ∧ c ≤ 'f' then some (c.toNat - 87)
  else if 'A' ≤ c ∧ c ≤ 'F' then some (c.toNat - 55)
  else none

/-- The value of four hexadecimal digits. -/
def hexUnit? (a b c d : Char) : Option Nat :=
  match hexDigit? a, hexDigit? b, hexDigit? c, hexDigit? d with
  | some a, some b, some c, some d => some (((a * 16 + b) * 16 + c) * 16 + d)
  | _, _, _, _ => none

/-- The fault where fewer than four characters follow `\u`. Four bytes are needed for the text
not to count as ended. -/
def cutUnit (rest : List Char) : Fault :=
  if rest.foldr (fun c n => c.utf8Size + n) 0 < 4 then .ended else .malformed

/-- The character of a one-letter escape. -/
def letterEscape? (c : Char) : Option Char :=
  match c with
  | '"' => some '"'
  | '\\' => some '\\'
  | '/' => some '/'
  | 'b' => some '\x08'
  | 'f' => some '\x0c'
  | 'n' => some '\n'
  | 'r' => some '\r'
  | 't' => some '\t'
  | _ => none

/-- Whether a UTF-16 unit is the first of a pair. -/
def isLeading (n : Nat) : Bool := 0xd800 ≤ n && n ≤ 0xdbff

/-- Whether a UTF-16 unit is the second of a pair. -/
def isTrailing (n : Nat) : Bool := 0xdc00 ≤ n && n ≤ 0xdfff

/-- The character of a pair of UTF-16 units. -/
def pairChar (n m : Nat) : Char := Char.ofNat ((n - 0xd800) * 0x400 + (m - 0xdc00) + 0x10000)

/-- The fault where the second unit of a pair does not follow. -/
def unpaired : List Char → Fault
  | [] => .ended
  | ['\\'] => .ended
  | '\\' :: 'u' :: rest => cutUnit rest
  | _ => .malformed

/-- The value of a string, after the opening quote; `read` holds the characters already read,
newest first. -/
def unquote (read : List Char) : List Char → Except Fault (String × List Char)
  | [] => .error .ended
  | '"' :: rest => .ok (String.ofList read.reverse, rest)
  | '\\' :: 'u' :: a :: b :: c :: d :: rest =>
    match hexUnit? a b c d with
    | none => .error .malformed
    | some n =>
      if isTrailing n then .error .malformed
      else if isLeading n then
        -- the second unit of the pair must follow at once
        match rest with
        | '\\' :: 'u' :: a :: b :: c :: d :: rest =>
          match hexUnit? a b c d with
          | none => .error .malformed
          | some m =>
            if isTrailing m then unquote (pairChar n m :: read) rest else .error .malformed
        | rest => .error (unpaired rest)
      else unquote (Char.ofNat n :: read) rest
  | '\\' :: 'u' :: rest => .error (cutUnit rest)
  | '\\' :: c :: rest =>
    match letterEscape? c with
    | some e => unquote (e :: read) rest
    | none => .error .malformed
  | ['\\'] => .error .ended
  | c :: rest => if c.toNat < 0x20 then .error .malformed else unquote (c :: read) rest

/-- The text after a string, after the opening quote. -/
def skipString : List Char → Except Fault (List Char)
  | [] => .error .ended
  | '"' :: rest => .ok rest
  | '\\' :: 'u' :: a :: b :: c :: d :: rest =>
    if (hexUnit? a b c d).isSome then skipString rest else .error .malformed
  | '\\' :: 'u' :: rest => .error (cutUnit rest)
  | '\\' :: c :: rest =>
    if (letterEscape? c).isSome then skipString rest else .error .malformed
  | ['\\'] => .error .ended
  | c :: rest => if c.toNat < 0x20 then .error .malformed else skipString rest

/-! ### Numbers -/

/-- The parts of a number after its sign. -/
structure NumberText where
  whole : List Char
  fraction : List Char
  exponent : Option Int
  deriving DecidableEq

namespace NumberText

/-- A run of digits, which must not be empty. -/
def scanDigits (s : List Char) : Except Fault (List Char × List Char) :=
  let digits := s.takeWhile Char.isDigit
  if digits.isEmpty then .error (.missing s) else .ok (digits, s.dropWhile Char.isDigit)

/-- An exponent, if there is one. -/
def scanExponent : List Char → Except Fault (Option Int × List Char)
  | c :: s =>
    if c = 'e' ∨ c = 'E' then
      let unsigned :=
        match s with
        | '+' :: r => r
        | '-' :: r => r
        | r => r
      (scanDigits unsigned).map fun (digits, rest) =>
        let n : Int := Nat.ofDigitChars 10 digits 0
        (some (if s.head? = some '-' then -n else n), rest)
    else .ok (none, c :: s)
  | [] => .ok (none, [])

/-- The parts of a number. The whole part has no leading zeros. -/
def scan (s : List Char) : Except Fault (NumberText × List Char) := do
  let (whole, rest) ← scanDigits s
  if whole.head? = some '0' ∧ whole.length ≠ 1 then
    .error .malformed
  let (fraction, rest) ←
    match rest with
    | '.' :: rest => scanDigits rest
    | rest => .ok ([], rest)
  let (exponent, rest) ← scanExponent rest
  return (⟨whole, fraction, exponent⟩, rest)

/-- Appends digits to a significand as long as it stays below two to the 64; the digits that
are left over come second. -/
def absorb (significand : Nat) : List Char → Nat × List Char
  | [] => (significand, [])
  | d :: ds =>
    let longer := significand * 10 + (d.toNat - '0'.toNat)
    if longer < 18446744073709551616 then absorb longer ds else (significand, d :: ds)

/-- A natural number rounded to 53 binary digits, a tie to the even neighbour. -/
def round53 (n : Nat) : Nat :=
  let unit := Nat.pow 2 (n.log2 + 1 - 53)
  let q := n / unit
  let r := n % unit
  if unit < 2 * r ∨ (2 * r = unit ∧ q % 2 = 1) then (q + 1) * unit else q * unit

/-- Whether a significand times a power of ten, as a product of doubles, is infinite. -/
def overflows (significand : Nat) (exponent : Int) : Bool :=
  significand ≠ 0 &&
    (308 < exponent ||
      -- the bound lies halfway between the greatest double and the next power of two
      (0 ≤ exponent &&
        Nat.pow 2 1024 - Nat.pow 2 970 ≤ round53 significand * round53 (Nat.pow 10 exponent.toNat)))

/-- Whether the number is too large for a double. Digits beyond the significand count only by
their number before the point and not at all after it. -/
def isTooLarge (t : NumberText) : Bool :=
  let (m, left) := absorb 0 t.whole
  let (m', left') := absorb m t.fraction
  overflows m' (left.length - (t.fraction.length - left'.length) + t.exponent.getD 0)

end NumberText

/-- The value of a number: an integer, or a number that is not written as one. -/
inductive Numeral
  | integer (z : Int)
  | real
  deriving DecidableEq

/-- The value of a number whose sign has been read. A number with a fraction, an exponent or
too many digits is no integer, and neither is a negative zero. -/
def readNumber (negative : Bool) (s : List Char) : Except Fault (Numeral × List Char) := do
  let (t, rest) ← NumberText.scan s
  if t.isTooLarge then
    .error .malformed
  let n := Nat.ofDigitChars 10 t.whole 0
  if t.fraction.isEmpty ∧ t.exponent.isNone ∧ n < 18446744073709551616 ∧ ¬ (negative ∧ n = 0) then
    return (.integer (if negative then -n else n), rest)
  else
    return (.real, rest)

/-- The text after a number whose sign has been read. A number that is cut off counts as
malformed. -/
def skipNumber (s : List Char) : Except Fault (List Char) :=
  match NumberText.scan s with
  | .ok (_, rest) => .ok rest
  | .error _ => .error .malformed

/-! ### Values of another type -/

/-- The fault of a value that has another type than asked for. A value that holds no other is
read to its end first. -/
def misfit : List Char → Fault
  | [] => .ended
  | c :: s =>
    let outcome : Except Fault Unit :=
      if c = 'n' then discard (literal ['u', 'l', 'l'] s)
      else if c = 't' then discard (literal ['r', 'u', 'e'] s)
      else if c = 'f' then discard (literal ['a', 'l', 's', 'e'] s)
      else if c = '-' then discard (readNumber true s)
      else if c.isDigit then discard (readNumber false (c :: s))
      else if c = '"' then discard (unquote [] s)
      else if c = '[' ∨ c = '\x7b' then .ok ()
      else .error .malformed
    match outcome with
    | .ok () => .mismatch
    | .error f => f

end GridRobot
