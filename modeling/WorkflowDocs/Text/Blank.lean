/-!
# Blank characters

Trimming and indentation look at one class of characters, the blank ones: the ASCII layout
controls, the information separators, and the Unicode spaces and line separators.

## Main definitions

* `isBlank`: membership in the class
* `trimBy`, `trimStart`: a text without its outer (leading) characters of a kind
* `indentation`: the number of leading blanks
* `isBlankText`: nothing but blanks
-/

namespace WorkflowDocs.Text

/-- A character that trimming removes. -/
def isBlank (c : Char) : Bool :=
  let n := c.toNat
  (0x09 ≤ n && n ≤ 0x0D) || (0x1C ≤ n && n ≤ 0x20) || n == 0x85 || n == 0xA0 || n == 0x1680 ||
    (0x2000 ≤ n && n ≤ 0x200A) || n == 0x2028 || n == 0x2029 || n == 0x202F || n == 0x205F ||
    n == 0x3000

/-- The longest suffix of `cs` whose members, counted from its end, all satisfy `p`, removed. -/
def dropWhileEnd (p : Char → Bool) (cs : List Char) : List Char :=
  (cs.reverse.dropWhile p).reverse

/-- `s` without the leading and trailing characters that satisfy `p`. -/
def trimBy (p : Char → Bool) (s : String) : String :=
  String.ofList (dropWhileEnd p (s.toList.dropWhile p))

/-- `s` without leading blanks. -/
def trimStart (s : String) : String :=
  String.ofList (s.toList.dropWhile isBlank)

/-- The number of leading blanks of a line. -/
def indentation (line : String) : Nat :=
  (line.toList.takeWhile isBlank).length

/-- A text that holds blanks only. -/
def isBlankText (s : String) : Bool :=
  s.toList.all isBlank

end WorkflowDocs.Text
