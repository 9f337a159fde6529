import WorkflowDocs.Text.CharacterName.Functions
import WorkflowDocs.Text.CharacterName.Letters
import WorkflowDocs.Text.CharacterName.Pictographs
import WorkflowDocs.Text.CharacterName.Symbols
import WorkflowDocs.Text.Hidden

/-!
# Names of characters

A character can be called by its name. Small and capital letters do not differ in a name, except in
that of an ideograph, which is made from the code of the character. Only a part of the names is
here: that of the letters, marks and symbols which texts in European languages use, and of pictures.

## Main definitions

* `nameBlocks`: the names of the characters in common use
* `ideographNamed?`: the ideograph that a name stands for
* `characterNamed?`: the character that a name stands for
-/

namespace WorkflowDocs.Text

/-- The names of the characters in common use. -/
def nameBlocks : List NameBlock :=
  latinNames ++ markNames ++ greekNames ++ cyrillicNames ++ otherLetterNames ++
    punctuationNames ++ letterlikeNames ++ arrowNames ++ mathNames ++ technicalNames ++
    shapeNames ++ ornamentNames ++ specialNames ++
    pictureNames ++ trafficNames ++ laterPictureNames

/-- The ranges of the ideographs that are named by their codes. -/
def ideographRanges : List (Nat × Nat) :=
  [(0x3400, 0x4DBF), (0x4E00, 0x9FFF), (0x20000, 0x2A6DF), (0x2A700, 0x2B738), (0x2B740, 0x2B81D),
    (0x2B820, 0x2CEA1), (0x2CEB0, 0x2EBE0), (0x30000, 0x3134A)]

/-- The value of a digit of a code. -/
def codeDigit? (c : Char) : Option Nat :=
  if '0' ≤ c && c ≤ '9' then some (c.toNat - 0x30)
  else if 'A' ≤ c && c ≤ 'F' then some (c.toNat - 0x41 + 10)
  else none

/-- The ideograph that a name stands for: its code is written with four or five digits. -/
def ideographNamed? (name : String) : Option Nat :=
  let stem := "CJK UNIFIED IDEOGRAPH-".toList
  let digits := name.toList.drop stem.length
  if stem.isPrefixOf name.toList && (digits.length = 4 || digits.length = 5) then
    (digits.foldlM (fun code c => (codeDigit? c).map (16 * code + ·)) 0).filter
      (inRanges ideographRanges)
  else none

/-- The code of the character that a name stands for, as far as names are known here. -/
def characterNamed? (name : String) : Option Nat :=
  let capital := name.map Char.toUpper
  (ideographNamed? name).or
    ((functionNames.lookup capital).or (nameBlocks.findSome? (·.find? capital)))

end WorkflowDocs.Text
