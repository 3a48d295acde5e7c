import GridRobot.Text.Unprintable
import GridRobot.Text.GraphemeExtend

/-!
# Text for display

Text that is padded to a width, and text from outside in a form that is safe to show.

Inside double quotes the quote, the backslash and four control characters have short escapes; every
other character that has no visible form of its own, or that would merge with the character before
it, is written as its code point in hexadecimal. On a terminal only the control characters are
escaped that it would act on. All other characters stand for themselves.

* `padRight`, `padLeft`: blanks after and before a text, up to a width;
* `joinsPrevious`, `isFiller`, `needsCodePoint`: what is written as a code point between quotes;
* `quoteChar`, `quoted`: the written form of one character and of a text between quotes;
* `terminalChar`, `terminalText`: the form of one character and of a text on a terminal.
-/

namespace GridRobot

/-! ### Padding -/

/-- The text followed by blanks up to the width. -/
def padRight (width : Nat) (s : String) : String :=
  s ++ String.ofList (List.replicate (width - s.length) ' ')

/-- The text preceded by blanks up to the width. -/
def padLeft (width : Nat) (s : String) : String :=
  String.ofList (List.replicate (width - s.length) ' ') ++ s

/-! ### Quoted text -/

/-- Whether a character is a control character. -/
def isControl (c : Char) : Bool := c.toNat < 0x20 || (0x7f ≤ c.toNat && c.toNat < 0xa0)

/-- Whether a character is drawn as part of the one before it. The two halfwidth sound marks
have the property `Grapheme_Extend` but are drawn in a place of their own. -/
def joinsPrevious (c : Char) : Bool := isGraphemeExtend c && c != '\uff9e' && c != '\uff9f'

/-- Whether a character is one of the Hangul fillers, letters that are drawn as nothing. -/
def isFiller (c : Char) : Bool :=
  c == '\u115f' || c == '\u1160' || c == '\u3164' || c == '\uffa0'

/-- Whether a character is written as its code point. -/
def needsCodePoint (c : Char) : Bool :=
  isControl c || (0x80 ≤ c.toNat && (joinsPrevious c || isFiller c || isUnprintable c))

/-- The code point of a character, in lower-case hexadecimal between braces. -/
def codePointEscape (c : Char) : List Char :=
  '\\' :: 'u' :: '\x7b' :: (Nat.toDigits 16 c.toNat ++ ['\x7d'])

/-- The written form of one character. -/
def quoteChar (c : Char) : List Char :=
  if c = '"' then ['\\', '"']
  else if c = '\\' then ['\\', '\\']
  else if c = '\n' then ['\\', 'n']
  else if c = '\r' then ['\\', 'r']
  else if c = '\t' then ['\\', 't']
  else if c = '\x00' then ['\\', '0']
  else if needsCodePoint c then codePointEscape c
  else [c]

/-- The written form of a text. -/
def quoted (s : String) : String :=
  "\"" ++ String.ofList (s.toList.flatMap quoteChar) ++ "\""

@[simp] theorem toList_quoted (s : String) :
    (quoted s).toList = '"' :: (s.toList.flatMap quoteChar ++ ['"']) := by
  simp [quoted]

/-! ### Text on a terminal -/

/-- The value of a character below 0x100 as two hexadecimal digits. -/
def byteEscape (c : Char) : List Char :=
  ['\\', 'x', Nat.digitChar (c.toNat / 16), Nat.digitChar (c.toNat % 16)]

/-- The form of one character: bell, backspace, form feed, escape, delete and the second set
of control characters are escaped. -/
def terminalChar (c : Char) : List Char :=
  if c = '\x07' ∨ c = '\x08' ∨ c = '\x0c' ∨ c = '\x1b' ∨ c = '\x7f' then byteEscape c
  else if 0x80 ≤ c.toNat ∧ c.toNat ≤ 0x9f then codePointEscape c
  else [c]

/-- The form of a text. -/
def terminalText (s : String) : String := String.ofList (s.toList.flatMap terminalChar)

end GridRobot
