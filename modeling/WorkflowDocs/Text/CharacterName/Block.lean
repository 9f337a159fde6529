/-!
# Blocks of character names

The names of neighbouring characters are held together, as one text with a comma or a line end
between two names.

## Main definitions

* `NameBlock`: the names of neighbouring characters
* `NameBlock.find?`: the character that a name stands for
-/

namespace WorkflowDocs.Text

/-- The names of the characters from `first` on. -/
structure NameBlock where
  first : Nat
  text : String
  deriving DecidableEq, Repr, Inhabited

namespace NameBlock

/-- The names of a block. No name holds a comma. -/
def names (b : NameBlock) : List String :=
  (b.text.splitOn "\n").flatMap (·.splitOn ", ")

/-- The code of the character that a name stands for. -/
def find? (b : NameBlock) (name : String) : Option Nat :=
  (b.names.idxOf? name).map (b.first + ·)

end NameBlock

end WorkflowDocs.Text
