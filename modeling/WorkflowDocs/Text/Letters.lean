import WorkflowDocs.Text.CaseMap

/-!
# Letter case

Names are sorted and image names compared without regard to case. A capital sigma at the end of a
word has a small form of its own.

## Main definitions

* `lower`, `upper`: the text in small and in capital letters
-/

namespace WorkflowDocs.Text

/-- Whether the next character that is not passed by is a letter that has a case. -/
def meetsLetter (cs : List Char) : Bool :=
  match cs.dropWhile fun c => inRanges passedRanges c.toNat with
  | [] => false
  | c :: _ => inRanges casedRanges c.toNat

/-- The small form of a character between what stands before it, in reverse, and what stands after
it. -/
def lowerBetween (before : List Char) (c : Char) (after : List Char) : List Char :=
  if c.toNat < 0x80 then [c.toLower]
  else if c = 'Σ' then [if meetsLetter before && !meetsLetter after then 'ς' else 'σ']
  else if c = 'İ' then ['i', '\u0307']
  else [Char.ofNat (counterpart lowerRuns c.toNat)]

/-- The small forms of characters, after what stands before them, in reverse. -/
def lowerChars (before : List Char) : List Char → List Char
  | [] => []
  | c :: cs => lowerBetween before c cs ++ lowerChars (c :: before) cs

/-- The capital form of a character. -/
def upperChar (c : Char) : List Char :=
  if c.toNat < 0x80 then [c.toUpper]
  else match upperSpellings.lookup c.toNat with
    | some codes => codes.map Char.ofNat
    | none => [Char.ofNat (counterpart upperRuns c.toNat)]

/-- The text in small letters. -/
def lower (s : String) : String :=
  String.ofList (lowerChars [] s.toList)

/-- The text in capital letters. -/
def upper (s : String) : String :=
  String.ofList (s.toList.flatMap upperChar)

end WorkflowDocs.Text
