import WorkflowDocs.Catalog.Agreement
import WorkflowDocs.Path.Link

/-!
# Callers of workflows

Which workflows call a workflow as a part of theirs. Calls are matched by the name of the
workflow.

## Main definitions

* `DocumentInfo.callsTo`: the calls of a document to a workflow
* `Caller`, `callers?`: the calls to the workflow of a document, with their pages
* `callerCounts`: the number of calls to each workflow
-/

namespace WorkflowDocs

/-- A call from another workflow: its name, its source and its page. -/
structure Caller where
  name : String
  file : String
  url : String
  deriving DecidableEq, Repr, Inhabited

/-- The workflow calls that a document makes. -/
def DocumentInfo.workflowCalls (d : DocumentInfo) : List CallInfo :=
  (d.workflow.elim [] (·.calls)).filter fun c => c.kind == .workflow

/-- The workflow calls of a document to the workflow of the given name. -/
def DocumentInfo.callsTo (d : DocumentInfo) (name : String) : List CallInfo :=
  d.workflowCalls.filter fun c => c.target == name

/-- A document as a caller, if it has a page. -/
def DocumentInfo.asCaller? (d : DocumentInfo) : Option Caller :=
  (Path.page? d.relativePath).map fun page => ⟨d.name, d.relativePath.text, page.text⟩

/-- The callers of a workflow among other documents: one for each call. Nothing when one of them
has no page. -/
def callersAmong? (name : String) (others : List DocumentInfo) : Option (List Caller) :=
  (others.flatMap fun d => (d.callsTo name).map fun _ => d).mapM DocumentInfo.asCaller?

/-- The callers of the workflow of a document: one for each call from a document that says
something else. A document without a workflow has none. -/
def callers? (d : DocumentInfo) (all : List DocumentInfo) : Option (List Caller) :=
  match d.workflow with
  | none => some []
  | some w => callersAmong? w.name (all.filter fun other => !other.agrees d)

/-- The names of the workflows of a list of documents. -/
def workflowNames (documents : List DocumentInfo) : List String :=
  documents.filterMap fun d => d.workflow.map (·.name)

/-- The names of the workflows that are called, one for each call. -/
def calledNames (documents : List DocumentInfo) : List String :=
  (documents.flatMap fun d => d.workflowCalls.map (·.target)).filter
    fun name => (workflowNames documents).contains name

/-- How often each name occurs, in order of first occurrence. -/
def tally (names : List String) : Fields Nat :=
  names.foldl (fun counts name => Fields.update name 0 (· + 1) counts) []

/-- The number of calls to each workflow that is called. -/
def callerCounts (documents : List DocumentInfo) : Fields Nat :=
  tally (calledNames documents)

end WorkflowDocs
