import WorkflowDocs.Workspace.Parse

/-!
# Findings

What a workload reports: texts, numbers and answers, and groups of them; or why it has nothing to
report.

## Main definitions

* `Finding`: a report
* `WorkloadError`: why there is none
-/

namespace WorkflowDocs

/-- What a workload reports. -/
inductive Finding where
  | text (s : String)
  | number (n : Nat)
  | answer (b : Bool)
  | missing
  | group (findings : List Finding)
  deriving Inhabited

namespace Finding

/-- A text that may be missing. -/
def ofText? : Option String → Finding
  | some s => .text s
  | none => .missing

/-- A group of texts. -/
def texts (ss : List String) : Finding :=
  .group (ss.map .text)

end Finding

/-- Why a workload has nothing to report: a source has no documentation, or a document lacks the
workflow that is asked for. -/
inductive WorkloadError where
  | parse (e : ParseError)
  | noWorkflow
  deriving DecidableEq, Repr, Inhabited

end WorkflowDocs
