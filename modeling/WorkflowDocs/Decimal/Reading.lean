import WorkflowDocs.Decimal.Notation
import WorkflowDocs.Text.Blank
import WorkflowDocs.Text.Digits

/-!
# Numbers that people write

A number that someone gives as text may have blanks around it, digits of any script, and single
underscores between its digits.

## Main definitions

* `readWhole?`: a whole number
* `readNumber?`: a number with a fraction or an exponent, or an infinite one
-/

namespace WorkflowDocs.Decimal

/-- A character of a number in plain form: a digit of another script becomes the common one, and a
blank beyond the common ones a space. -/
def plainChar (c : Char) : Char :=
  if c.toNat < 0x7F then c
  else if Text.isBlank c then ' '
  else match Text.digitValue? c with
    | some d => Char.ofNat (0x30 + d)
    | none => c

/-- The blanks that may stand around a number in plain form. -/
def isOuterBlank (c : Char) : Bool :=
  c = ' ' || ('\t' ≤ c && c ≤ '\r')

/-- The characters of a number in plain form, without the blanks around it. -/
def numberChars (s : String) : List Char :=
  Text.dropWhileEnd isOuterBlank ((s.toList.map plainChar).dropWhile isOuterBlank)

/-- The characters without underscores, each of which must stand between two digits. -/
def ungroup? (afterDigit : Bool) : List Char → Option (List Char)
  | [] => some []
  | '_' :: c :: cs => if afterDigit && c.isDigit then ungroup? false (c :: cs) else none
  | c :: cs => if c = '_' then none else (ungroup? c.isDigit cs).map (c :: ·)

/-- The greatest number of digits that a whole number may have. -/
def digitLimit : Nat := 4300

/-- Whether a whole number has no more digits than it may have. -/
def isShort (n : Int) : Bool :=
  n.natAbs < Nat.pow 10 digitLimit

/-- A whole number: a sign and digits, not too many of them. -/
def readWhole? (s : String) : Option Int := do
  let cs ← ungroup? false (numberChars s)
  if (splitSign cs).2.length ≤ digitLimit then readIntChars? cs else none

/-- A number: a sign, and then the word for an infinite number or for no number, in any case, or a
decimal. -/
def readNumber? (s : String) : Option Binary64 := do
  let cs ← ungroup? false (numberChars s)
  let (negative, cs) := splitSign cs
  match String.ofList (cs.map Char.toLower) with
  | "inf" | "infinity" => return .infinite negative
  | "nan" => return .nan
  | _ =>
    let (digits, e) ← readMagnitude? cs
    return Binary64.ofDecimal negative digits e

end WorkflowDocs.Decimal
