import WorkflowDocs.Decimal.Reading
import WorkflowDocs.Literal.Escape

/-!
# Numbers of structured literals

A number is whole, in base ten or in a base that is a power of two, or it has a fraction, an
exponent or the letter of an imaginary number. Single underscores may stand between digits.

## Main definitions

* `Number`: the numbers that can be written without a sign
* `Numeral`, `Numeral.next?`: how far a number has been read, and what goes on with it
* `readNumeral?`: the number that characters stand for
-/

namespace WorkflowDocs.Literal

/-- A number as written, without a sign. -/
inductive Number where
  | int (n : Nat)
  | float (x : Decimal.Binary64)
  | imaginary (x : Decimal.Binary64)
  deriving DecidableEq, Repr

/-- How far a number has been read. -/
inductive Numeral where
  /-- In the digits of a base that is a power of two. -/
  | based (base : Nat)
  | whole
  | fraction
  /-- Right after the letter of an exponent. -/
  | mark
  | exponent
  /-- After the letter of an imaginary number. -/
  | imaginary
  deriving DecidableEq, Repr

/-- Whether a character is a digit in a base. -/
def isDigitOf (base : Nat) (c : Char) : Bool :=
  match hexValue? c with
  | some v => v < base
  | none => false

/-- The base that a letter after a leading zero announces. -/
def baseOf? (c : Char) : Option Nat :=
  if c = 'x' || c = 'X' then some 16
  else if c = 'o' || c = 'O' then some 8
  else if c = 'b' || c = 'B' then some 2
  else none

/-- Whether the character may occur in a group of decimal digits. -/
def isGroupChar (c : Char) : Bool :=
  c.isDigit || c = '_'

/-- Whether the character announces an exponent. -/
def isExponentMark (c : Char) : Bool :=
  c = 'e' || c = 'E'

/-- Whether the character makes a number imaginary. -/
def isImaginaryMark (c : Char) : Bool :=
  c = 'j' || c = 'J'

/-- Where a number of which the characters `read` (in reverse) are known stands after one more
character; nothing if that character is not part of it. -/
def Numeral.next? (n : Numeral) (read : List Char) (c : Char) : Option Numeral :=
  match n with
  | .based base => if c = '_' || isDigitOf base c then some n else none
  | .whole =>
    match (if read = ['0'] then baseOf? c else none) with
    | some base => some (.based base)
    | none =>
      if isGroupChar c then some .whole
      else if c = '.' then some .fraction
      else if isExponentMark c then some .mark
      else if isImaginaryMark c then some .imaginary
      else none
  | .fraction =>
    if isGroupChar c then some .fraction
    else if isExponentMark c then some .mark
    else if isImaginaryMark c then some .imaginary
    else none
  | .mark => if c.isDigit || c = '+' || c = '-' then some .exponent else none
  | .exponent =>
    if isGroupChar c then some .exponent
    else if isImaginaryMark c then some .imaginary
    else none
  | .imaginary => none

/-- Digits with single underscores between them, without the underscores. -/
def dropUnderscores? (isDigit : Char → Bool) (afterDigit : Bool) :
    List Char → Option (List Char)
  | [] => if afterDigit then some [] else none
  | c :: cs =>
    if c = '_' then if afterDigit then dropUnderscores? isDigit false cs else none
    else if isDigit c then (dropUnderscores? isDigit true cs).map (c :: ·)
    else none

/-- A possibly empty group of digits and underscores. -/
def digitGroup? (cs : List Char) : Option (List Char) :=
  if cs.isEmpty then some [] else dropUnderscores? Char.isDigit false cs

/-- A whole number in a base that is a power of two; an underscore may stand before its digits. -/
def readBased? (base : Nat) (cs : List Char) : Option Number :=
  let cs := match cs with
    | '_' :: r => r
    | r => r
  (dropUnderscores? (isDigitOf base) false cs).map fun ds =>
    .int (ds.foldl (fun n c => base * n + (hexValue? c).getD 0) 0)

/-- A whole decimal number: it has no leading zero unless it is zero, and not too many digits. -/
def readWholeDecimal? (digits : List Char) : Option Number :=
  if digits.all (· = '0') then some (.int 0)
  else if digits.head? = some '0' || digits.length > Decimal.digitLimit then none
  else some (.int (Decimal.digitsValue digits))

/-- A decimal that may have a fraction and an exponent. -/
def readFraction? (cs : List Char) : Option Decimal.Binary64 := do
  let whole ← digitGroup? (cs.takeWhile isGroupChar)
  let rest := cs.dropWhile isGroupChar
  let (fraction, rest) :=
    match rest with
    | '.' :: r => (r.takeWhile isGroupChar, r.dropWhile isGroupChar)
    | r => ([], r)
  let fraction ← digitGroup? fraction
  let exponent ←
    match rest with
    | [] => some []
    | _ :: '-' :: ds => (fun ds => 'e' :: '-' :: ds) <$> dropUnderscores? Char.isDigit false ds
    | _ :: '+' :: ds => ('e' :: ·) <$> dropUnderscores? Char.isDigit false ds
    | _ :: ds => ('e' :: ·) <$> dropUnderscores? Char.isDigit false ds
  let (digits, e) ← Decimal.readMagnitude? (whole ++ '.' :: fraction ++ exponent)
  return Decimal.Binary64.ofDecimal false digits e

/-- The number that the characters of a numeral stand for. -/
def readNumeral? (n : Numeral) (cs : List Char) : Option Number :=
  match n with
  | .based base => readBased? base (cs.drop 2)
  | .whole => (digitGroup? cs).bind readWholeDecimal?
  | .imaginary => (readFraction? cs.dropLast).map .imaginary
  | _ => (readFraction? cs).map .float

end WorkflowDocs.Literal
