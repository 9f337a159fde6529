import WorkflowDocs.Text.Cut

/-!
# Documented images

A container image that the calls of a workflow run in. The image of a task may be fixed or given
by a parameter, which may have a default.

## Main definitions

* `ImageInfo`: an image with the calls that use it
* `ImageInfo.display`, `ImageInfo.shortName`: how it is shown
-/

namespace WorkflowDocs

/-- An image with the names of the calls that use it. -/
structure ImageInfo where
  image : String
  tasks : List String := []
  isParameterized : Bool := false
  parameter : Option String := none
  default : Option String := none
  deriving DecidableEq, Repr, Inhabited

/-- A text that is there and not empty. -/
def presentText (s : Option String) : Option String :=
  s.filter (· != "")

theorem presentText_of_ne {s : String} (h : s ≠ "") : presentText (some s) = some s := by
  rw [presentText, Option.filter_some, if_pos (by simpa using h)]

namespace ImageInfo

/-- The image that runs: its default if it is a parameter with one. -/
def display (i : ImageInfo) : String :=
  if i.isParameterized then
    match presentText i.default, presentText i.parameter with
    | some d, _ => d
    | none, some p => "Parameterized (via " ++ p ++ ")"
    | none, none => "Parameterized"
  else i.image

/-- The last part of an image name, without its tag. -/
def baseName (image : String) : String :=
  Text.before ':' ((Text.cutAt '/' image).getLast?.getD "")

/-- The name of the image alone. -/
def shortName (i : ImageInfo) : String :=
  if i.isParameterized then
    match presentText i.default with
    | some d => baseName d
    | none => "parameterized"
  else baseName i.image

/-- The number of calls that use the image. -/
def taskCount (i : ImageInfo) : Nat :=
  i.tasks.length

end ImageInfo

end WorkflowDocs
