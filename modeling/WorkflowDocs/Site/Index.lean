import WorkflowDocs.Catalog.ParseFailure
import WorkflowDocs.Site.Callers

/-!
# The index

The index lists the documents of a site by what they consist of, the project's own apart from
third-party sources, and the sources that could not be documented.

## Main definitions

* `documentsOfKind`: the documents of one kind
* `Index`: the documents and reports that the index shows
* `Index.internalOf`, `Index.externalOf`: its lists
* `Index.workflowTotal`, `Index.taskTotal`, `Index.callerCounts`: its figures
-/

namespace WorkflowDocs

/-- Documents in the order of their names, whatever the case of the letters. -/
def sortByName (documents : List DocumentInfo) : List DocumentInfo :=
  documents.mergeSort fun a b => decide (Text.lower a.name ≤ Text.lower b.name)

/-- The documents that consist of what `kind` says, in the order of their names. -/
def documentsOfKind (kind : DocumentKind) (documents : List DocumentInfo) : List DocumentInfo :=
  sortByName (documents.filter fun d => d.kind == kind)

/-- The content of the index. -/
structure Index where
  documents : List DocumentInfo
  failures : List ParseFailure
  deriving Inhabited

namespace Index

/-- The project's own documents. -/
def internal (x : Index) : List DocumentInfo :=
  x.documents.filter (!·.isExternal)

/-- The documents of third-party sources. -/
def external (x : Index) : List DocumentInfo :=
  x.documents.filter (·.isExternal)

/-- The project's documents of a kind. -/
def internalOf (x : Index) (kind : DocumentKind) : List DocumentInfo :=
  documentsOfKind kind x.internal

/-- The third-party documents of a kind. -/
def externalOf (x : Index) (kind : DocumentKind) : List DocumentInfo :=
  documentsOfKind kind x.external

/-- The number of the project's workflows. -/
def workflowTotal (x : Index) : Nat :=
  (x.internalOf .workflow).length + (x.internalOf .mixed).length

/-- The number of the project's tasks. -/
def taskTotal (x : Index) : Nat :=
  (x.internal.map (·.tasks.length)).foldr (· + ·) 0

/-- The kind of reports on texts that are no documents. -/
def syntaxErrorKind : String := "SyntaxError"

/-- The reports on texts that are no documents. -/
def syntaxErrors (x : Index) : List ParseFailure :=
  x.failures.filter fun f => f.kind == syntaxErrorKind

/-- The reports on other errors. -/
def otherErrors (x : Index) : List ParseFailure :=
  x.failures.filter fun f => f.kind != syntaxErrorKind && f.severity == .error

/-- The warnings. -/
def warnings (x : Index) : List ParseFailure :=
  x.failures.filter fun f => f.severity == .warning

/-- The number of calls to each workflow. -/
def callerCounts (x : Index) : Fields Nat :=
  WorkflowDocs.callerCounts x.documents

end Index

end WorkflowDocs
