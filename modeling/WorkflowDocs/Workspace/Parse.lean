import WorkflowDocs.Catalog.ParseFailure
import WorkflowDocs.Catalog.Survey
import WorkflowDocs.Project.Discovery
import WorkflowDocs.Workspace.Load

/-!
# Documenting a source

Reading a source and documenting it, or reporting why that is not possible.

## Main definitions

* `ParseError`: why a source has no documentation
* `Workspace.parse`: the documentation of a source
* `Workspace.report`: the report on a source that has none
-/

namespace WorkflowDocs

/-- Why a source has no documentation: it cannot be read, or not be documented. -/
inductive ParseError where
  | load (e : LoadError)
  | survey (e : SurveyError)
  deriving DecidableEq, Repr, Inhabited

/-- The kind of an error. -/
def ParseError.kind : ParseError → String
  | .load e => e.kind
  | .survey e => e.kind

namespace Workspace

/-- The documented imports of a source. -/
def importInfos (w : Workspace) (file : Path) (doc : DocumentSource) : List ImportInfo :=
  doc.imports.map fun i =>
    { address := i.address
      scope := presentText i.scope
      resolved := resolveImport w.tree w.cwd file i.address }

/-- The documentation of a source in the project with the given root. -/
def parse (w : Workspace) (root file : Path) : Except ParseError DocumentInfo := do
  let doc ← (w.load file).mapError .load
  let imports := w.importInfos file doc
  let workflow ← doc.workflow.mapM fun wf =>
    (WorkflowInfo.ofSource w.dialect w.cwd root doc imports wf).mapError .survey
  let tasks ← doc.tasks.mapM fun t => (TaskInfo.ofSource w.dialect t).mapError .survey
  return {
    filePath := file
    relativePath := Path.relativeToRoot w.cwd file root
    version := doc.versionText
    workflow := workflow
    tasks := tasks
    imports := imports
    source := w.sourceText? file }

/-- The report on a source that has no documentation. -/
def report (w : Workspace) (root file : Path) (e : ParseError) : ParseFailure :=
  let place := Path.relativeToRoot w.cwd file root
  match e with
  | .load e =>
    ⟨file, place, e.reportedKind, e.message, e.position.map (·.line), e.position.map (·.column)⟩
  | .survey e => ⟨file, place, e.kind, e.message, none, none⟩

end Workspace

end WorkflowDocs
