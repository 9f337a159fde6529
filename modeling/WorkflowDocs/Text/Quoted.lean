import WorkflowDocs.Text.Hidden

/-!
# Quoted text

Inside a list or an object, a text is written between quotation marks with the characters that
would not survive as themselves escaped. The mark is the apostrophe, unless the text holds an
apostrophe and no double quote.

## Main definitions

* `quoteMark`: the mark a text is written in
* `quoted`: the written form
* `quotedCodes`, `quotedBytes`: the written forms of codes and bytes
-/

namespace WorkflowDocs.Text

/-- The small hexadecimal digit of a number below sixteen. -/
def hexDigit (n : Nat) : Char :=
  if n < 10 then Char.ofNat (0x30 + n) else Char.ofNat (0x61 + (n - 10))

/-- The last `width` hexadecimal digits of `n`. -/
def hexDigits : Nat → Nat → List Char
  | 0, _ => []
  | width + 1, n => hexDigits width (n / 16) ++ [hexDigit (n % 16)]

/-- The escape of a character that is not written as itself: two, four or eight digits. -/
def hexEscape (c : Char) : List Char :=
  let n := c.toNat
  if n < 0x100 then '\\' :: 'x' :: hexDigits 2 n
  else if n < 0x10000 then '\\' :: 'u' :: hexDigits 4 n
  else '\\' :: 'U' :: hexDigits 8 n

/-- A character as it stands between two marks `mark`. -/
def quotedChar (mark c : Char) : List Char :=
  if c = mark || c = '\\' then ['\\', c]
  else if c = '\n' then ['\\', 'n']
  else if c = '\r' then ['\\', 'r']
  else if c = '\t' then ['\\', 't']
  else if isPrintable c then [c]
  else hexEscape c

/-- The mark around a text: the apostrophe, or the double quote for a text that holds the former
and not the latter. -/
def quoteMark (cs : List Char) : Char :=
  if cs.contains '\'' && !cs.contains '"' then '"' else '\''

/-- The characters between the marks of their written form. -/
def quotedChars (cs : List Char) : List Char :=
  let mark := quoteMark cs
  mark :: cs.flatMap (quotedChar mark) ++ [mark]

/-- The written form of a text. -/
def quoted (s : String) : String :=
  String.ofList (quotedChars s.toList)

/-! ## Codes and bytes -/

/-- Whether a code is that of a character, and not half of a pair. -/
def isCharCode (code : Nat) : Bool :=
  code < 0xD800 || (0xDFFF < code && code < 0x110000)

/-- A code as it stands between two marks: half of a pair is always escaped. -/
def quotedCode (mark : Char) (code : Nat) : List Char :=
  if isCharCode code then quotedChar mark (Char.ofNat code) else '\\' :: 'u' :: hexDigits 4 code

/-- A byte as it stands between two marks: only the common characters stand for themselves. -/
def quotedByte (mark : Char) (byte : Nat) : List Char :=
  if byte < 0x80 then quotedChar mark (Char.ofNat byte) else '\\' :: 'x' :: hexDigits 2 byte

/-- The written form of a sequence of codes. -/
def quotedCodes (codes : List Nat) : String :=
  let mark := quoteMark (codes.map Char.ofNat)
  String.ofList (mark :: codes.flatMap (quotedCode mark) ++ [mark])

/-- The written form of a sequence of bytes. -/
def quotedBytes (bytes : List Nat) : String :=
  let mark := quoteMark (bytes.map Char.ofNat)
  String.ofList ('b' :: mark :: bytes.flatMap (quotedByte mark) ++ [mark])

end WorkflowDocs.Text
