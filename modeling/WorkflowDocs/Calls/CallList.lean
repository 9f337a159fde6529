import WorkflowDocs.Catalog.Document
import WorkflowDocs.Wdl.Document
import WorkflowDocs.Wdl.Expr.Printer

/-!
# The calls of a workflow

Each call of a workflow is documented with its inputs and a link to what it refers to: an anchor
on the same page for a local call, the page of the imported file otherwise.

## Main definitions

* `isLocalCall`, `linkTarget?`: whether a call stays in the document, and where it leads
* `CallError`: why a call has no documentation
* `callInfo`: the documentation of a call
* `callList`: the documented calls of a workflow
* `directDependencies`, `callGraph`: the calls by the names they go by
-/

namespace WorkflowDocs.Calls

/-- A call is local unless its path begins with the scope of an import. -/
def isLocalCall (imports : List ImportInfo) (c : CallNode) : Bool :=
  match c.path with
  | [] => true
  | scope :: _ => !(imports.filterMap fun i => presentText i.scope).contains scope

/-- The import behind a scope. -/
def importOf? (imports : List ImportInfo) (scope : String) : Option ImportInfo :=
  imports.find? fun i => i.scope == some scope

/-- The page of a source file: its place with every `.wdl` replaced. -/
def pageText (place : Path) : String :=
  Text.replaceAll ".wdl" ".html" place.text

/-- Where a call leads: the anchor of a local task, the page of an imported file, or an anchor
that stands for a file that was not found. Nothing when the file has no place. -/
def linkTarget? (cwd root : Path) (imports : List ImportInfo) (isLocal : Bool) (c : CallNode)
    (callee : String) : Option String :=
  if isLocal then some ("#task-" ++ callee)
  else
    let file := do
      let scope ← c.path.head?.filter (· != "")
      let i ← importOf? imports scope
      i.resolved
    match file with
    | some file => (Path.relativeToRoot? cwd file root).map pageText
    | none => some ("#" ++ callee)

/-- The text of a call input; an expression that does not print is unknown. -/
def inputText : Option Expr → String
  | none => "None"
  | some e => e.text?.getD "unknown"

/-- Why a call has no documentation. -/
inductive CallError where
  /-- What it refers to is not known. -/
  | noCallee
  /-- The file it leads to has no place. -/
  | noPlace
  deriving DecidableEq, Repr, Inhabited

/-- The message of an error. -/
def CallError.message : CallError → String
  | .noCallee => "Invalid call: callee has no name"
  | .noPlace => "embedded null byte"

/-- The documentation of a call. -/
def callInfo (cwd root : Path) (imports : List ImportInfo) (c : CallNode) :
    Except CallError CallInfo := do
  let callee ← c.callee.elim (.error .noCallee) .ok
  let isLocal := isLocalCall imports c
  let link ← (linkTarget? cwd root imports isLocal c callee.name).elim (.error .noPlace) .ok
  return {
    name := callee.name
    target := callee.name
    aliasName := if c.name = callee.name then none else some c.name
    inputs := c.inputs.map fun i => (i.1, inputText i.2)
    isLocal := isLocal
    link := some link
    kind := match callee.kind with
      | .task => .task
      | .workflow => .workflow }

/-- The documented calls of a body, in depth-first order. -/
def callList (cwd root : Path) (imports : List ImportInfo) (body : List Node) : List CallInfo :=
  (Node.callsOf body).filterMap fun c => (callInfo cwd root imports c).toOption

/-- The calls directly in a body. -/
def directCalls (body : List Node) : List CallNode :=
  body.filterMap fun
    | .call c => some c
    | _ => none

/-- What the calls directly in a body refer to, by the names they go by. -/
def directDependencies (body : List Node) : Fields (List String) :=
  (directCalls body).foldl (fun deps c =>
    match c.callee with
    | none => deps
    | some callee =>
      let caller := (presentText (some c.name)).getD callee.name
      deps.update caller [] fun names =>
        if names.contains callee.name then names else names ++ [callee.name]) []

/-- The documented calls by the names they go by. -/
def callGraph (calls : List CallInfo) : Fields (List CallInfo) :=
  calls.foldl (fun graph c => graph.update c.displayName [] (· ++ [c])) []

end WorkflowDocs.Calls
