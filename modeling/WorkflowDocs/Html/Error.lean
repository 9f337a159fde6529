import WorkflowDocs.Path.Fault

/-!
# Why something cannot be shown

## Main definitions

* `RenderError`: why a page or a part of one cannot be made
-/

namespace WorkflowDocs

/-- Why a page or a part of one cannot be made. -/
inductive RenderError where
  /-- Something is asked of a value that is not there. -/
  | missingValue
  /-- Something is asked of a value that is of another kind. -/
  | unfitValue
  /-- A whole number has too many digits to be written. -/
  | longNumber
  /-- A text has half of a character pair in it. -/
  | halfCharacter
  /-- A source that needs a page has no name. -/
  | namelessSource
  /-- Nothing can stand at the path of a page. -/
  | badPath (fault : PathFault)
  deriving DecidableEq, Repr, Inhabited

end WorkflowDocs
