import WorkflowDocs.FileTree.Basic
import WorkflowDocs.Literal.Standard
import WorkflowDocs.Path.Normalize
import WorkflowDocs.Text.Newline
import WorkflowDocs.Wdl.Document

/-!
# Loading sources

A workspace is a file tree together with what reading each of its sources gives: a document, or
an error.

## Main definitions

* `LoadError`: why a source cannot be read
* `Workspace`, `Workspace.load`, `Workspace.sourceText?`: reading a source
-/

namespace WorkflowDocs

/-- A position in a source. -/
structure Position where
  line : Int
  column : Int
  deriving DecidableEq, Repr, Inhabited

/-- Why a source cannot be read. -/
inductive LoadError where
  /-- The text is not a document. -/
  | grammar (message : String) (position : Option Position)
  /-- An import cannot be read. -/
  | missingImport (address message : String) (position : Option Position)
  /-- The document has no meaning, in the way that `kind` names. -/
  | invalid (kind message : String) (position : Option Position)
  /-- The document has no meaning in several ways. -/
  | manyInvalid
  /-- Anything else. -/
  | other (kind message : String)
  deriving DecidableEq, Repr, Inhabited

namespace LoadError

/-- The kind of an error. -/
def kind : LoadError → String
  | .grammar _ _ => "SyntaxError"
  | .missingImport _ _ _ => "ImportError"
  | .invalid kind _ _ => kind
  | .manyInvalid => "MultipleValidationErrors"
  | .other kind _ => kind

/-- The kind under which an error is reported: all ways of having no meaning are one. -/
def reportedKind : LoadError → String
  | .invalid _ _ _ => "ValidationError"
  | e => e.kind

/-- The message of an error. -/
def message : LoadError → String
  | .grammar message _ => message
  | .missingImport address message _ =>
    "Failed to import " ++ address ++ (if message = "" then "" else ", " ++ message)
  | .invalid _ message _ => message
  | .manyInvalid => ""
  | .other _ message => message

/-- Where in the source the error is. -/
def position : LoadError → Option Position
  | .grammar _ p | .missingImport _ _ p | .invalid _ _ p => p
  | .manyInvalid | .other _ _ => none

end LoadError

/-- A file tree, the directory that relative paths start from, what reading sources gives, and the
dialect of the literals in them. -/
structure Workspace where
  tree : FileTree := {}
  cwd : Path := ⟨.slash, []⟩
  sources : List (Place × Except LoadError DocumentSource) := []
  dialect : Literal.Dialect := .standard
  /-- What is left in an open file of a graph if its text cannot be written to the end: it has a
  character without bytes, or there is no more room. -/
  remnant? : String → Option ByteArray := fun _ => none
  deriving Inhabited

namespace Workspace

/-- What reading the source at a path gives. -/
def load (w : Workspace) (file : Path) : Except LoadError DocumentSource :=
  (w.sources.lookup (Path.resolve w.cwd file).names).getD (.error (.other "OSError" "not a file"))

/-- The text of the file at a path, if there is a file that holds text. -/
def sourceText? (w : Workspace) (file : Path) : Option String := do
  let place ← w.tree.locate? w.cwd file
  let content ← w.tree.read? place
  Text.decodeText content

end Workspace

/-- The version of a document, with a standard one for a document that states none. -/
def DocumentSource.versionText (doc : DocumentSource) : String :=
  match doc.version with
  | some v => if v = "" then "1.0" else v
  | none => "1.0"

end WorkflowDocs
