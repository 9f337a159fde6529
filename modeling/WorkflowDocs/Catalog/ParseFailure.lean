import WorkflowDocs.Decimal.Notation
import WorkflowDocs.Path.Basic
import WorkflowDocs.Text.Letters

/-!
# Sources that could not be read

A source that cannot be documented is reported with the kind of its error, its message, and the
place in the source if it is known.

## Main definitions

* `ParseFailure`: a report
* `ParseFailure.severity`, `ParseFailure.shortMessage`, `ParseFailure.location`: how it is shown
-/

namespace WorkflowDocs

/-- A report on a source that could not be read. -/
structure ParseFailure where
  filePath : Path
  relativePath : Path
  kind : String
  message : String
  line : Option Int := none
  column : Option Int := none
  deriving DecidableEq, Repr, Inhabited

/-- How serious a report is. -/
inductive Severity where
  | warning
  | error
  deriving DecidableEq, Repr, Inhabited

/-- The label of a severity. -/
def Severity.label : Severity → String
  | .warning => "warning"
  | .error => "error"

namespace ParseFailure

/-- The greatest number of characters of a message that are shown in full. -/
def shownLength : Nat := 200

/-- A report whose kind mentions a warning is one. -/
def severity (f : ParseFailure) : Severity :=
  if Text.contains (Text.lower f.kind) "warning" then .warning else .error

/-- The message, cut off after `shownLength` characters. -/
def shortMessage (f : ParseFailure) : String :=
  if f.message.length ≤ shownLength then f.message
  else Text.takeChars shownLength f.message ++ "..."

/-- The place in the source, if its line is known. -/
def location (f : ParseFailure) : Option String :=
  match f.line, f.column with
  | some l, some c => some ("Line " ++ Decimal.intText l ++ ", Column " ++ Decimal.intText c)
  | some l, none => some ("Line " ++ Decimal.intText l)
  | none, _ => none

end ParseFailure

end WorkflowDocs
