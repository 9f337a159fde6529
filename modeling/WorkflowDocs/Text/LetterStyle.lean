/-!
# Styles of letters

The small letters of the alphabet exist in several styles: wide, bold, italic, script and more, and
some of them raised or lowered.

## Main definitions

* `plainLetter`: the common form of a small letter
-/

namespace WorkflowDocs.Text

/-- The first of the wide small letters. -/
def wideLetters : Nat := 0xFF41

/-- The first of the small letters in the styles of mathematics; capital letters stand between the
small letters of two styles. -/
def styledLetters : Nat := 0x1D41A

/-- The number of styles of mathematics. -/
def letterStyles : Nat := 13

/-- Styled letters that stand apart from the others of their style, with their common form. -/
def singleLetters : List (Nat × Char) :=
  [(0x17F, 's'), (0x2E2, 's'), (0x209B, 's'), (0x1D49, 'e'), (0x2091, 'e'), (0x212F, 'e'),
    (0x2147, 'e'), (0x1D57, 't'), (0x209C, 't')]

/-- The small letter at a position of the alphabet. -/
def letterAt (k : Nat) : Char :=
  Char.ofNat ('a'.toNat + k)

/-- The common form of a small letter; another character is its own. -/
def plainLetter (c : Char) : Char :=
  let n := c.toNat
  if wideLetters ≤ n && n < wideLetters + 26 then letterAt (n - wideLetters)
  else if styledLetters ≤ n && n < styledLetters + 52 * letterStyles then
    let k := (n - styledLetters) % 52
    if k < 26 then letterAt k else c
  else (singleLetters.lookup n).getD c

end WorkflowDocs.Text
