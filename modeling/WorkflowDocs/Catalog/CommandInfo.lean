import WorkflowDocs.Catalog.Document
import WorkflowDocs.Text.Blank

/-!
# Commands without their indentation

The command of a task is shown without the indentation that all its lines share. One blank line
at each end is dropped; blank lines do not count for the shared indentation.

## Main definitions

* `dropBlankEnds`: the lines without a blank first and a blank last line
* `commonIndent?`: the indentation that all nonblank lines share
* `dedent`, `CommandInfo.ofText`: the formatted command
-/

namespace WorkflowDocs

namespace Command

/-- The lines without their first one, if it is blank. -/
def dropBlankFirst : List String → List String
  | [] => []
  | l :: ls => if Text.isBlankText l then ls else l :: ls

/-- The lines without a blank first and a blank last line. -/
def dropBlankEnds (ls : List String) : List String :=
  (dropBlankFirst (dropBlankFirst ls).reverse).reverse

/-- The least indentation of the lines that are not blank. -/
def commonIndent? (ls : List String) : Option Nat :=
  ((ls.filter fun l => !Text.isBlankText l).map Text.indentation).min?

/-- A line without its first `n` characters, unless it has no more than those. -/
def cutLine (n : Nat) (line : String) : String :=
  if line.length > n then Text.dropChars n line else line

/-- A command without blank ends and without shared indentation. -/
def dedent (raw : String) : String :=
  let ls := dropBlankEnds (Text.lines raw)
  match commonIndent? ls with
  | some n => Text.joinWith "\n" (ls.map (cutLine n))
  | none => Text.joinWith "\n" ls

end Command

/-- A command as written and as shown. -/
def CommandInfo.ofText (raw : String) : CommandInfo where
  raw := raw
  formatted := Command.dedent raw

end WorkflowDocs
