import WorkflowDocs.Flowchart.Figure

/-!
# The text of a flowchart

A flowchart is written in the Mermaid notation: the start, the nodes and boxes, the edges, and the
styles. Edges into one node stand together in the order of their text.

## Main definitions

* `Figure.lines`: a figure as indented lines
* `Chart`, `Chart.ofBody`: everything that is drawn for a body
* `Chart.lines`, `render`: the text
-/

namespace WorkflowDocs.Flowchart

/-- The name of a node. -/
def nodeId (number : Nat) : String :=
  "N" ++ Decimal.natText number

/-- The name of a box. -/
def boxId : BoxKind → Nat → String
  | .scatter, k => "S" ++ Decimal.natText k
  | .conditional, k => "C" ++ Decimal.natText k

/-- One level of indentation. -/
def indentStep : String := "    "

/-- The line that declares a node: a rectangle for a task, a slanted shape otherwise. -/
def nodeLine (number : Nat) (label : String) (isTask : Bool) : String :=
  if isTask then nodeId number ++ "[\"" ++ label ++ "\"]"
  else nodeId number ++ "[/\"" ++ label ++ "\"/]"

mutual

/-- The lines of a figure. -/
def Figure.lines (indent : String) : Figure → List String
  | .node number label isTask => [indent ++ nodeLine number label isTask]
  | .box kind number label children =>
    [indent ++ "subgraph " ++ boxId kind number ++ " [\"" ++ label ++ "\"]",
      indent ++ indentStep ++ "direction TB"] ++
      Figure.linesOf (indent ++ indentStep) children ++ [indent ++ "end"]

/-- The lines of a list of figures. -/
def Figure.linesOf (indent : String) : List Figure → List String
  | [] => []
  | f :: fs => f.lines indent ++ Figure.linesOf indent fs

end

/-- The identifier of a terminal. -/
def Terminal.id : Terminal → String
  | .start => "Start"
  | .node k => nodeId k

/-- Everything that is drawn for a body. -/
structure Chart where
  name : String
  figures : List Figure
  edges : List (Nat × Nat)
  starts : List Nat
  ends : List Terminal
  deriving Inhabited

/-- The chart of a nonempty body. -/
def Chart.ofBody (name : String) (body : List Node) : Chart :=
  let deps := (Scope.collect body).callDeps
  let (plan, figures) := Plan.draw {} deps body
  { name := name
    figures := figures
    edges := plan.edges
    starts := plan.starts
    ends := endTerminals plan.numbers deps body }

/-- An edge as a line. -/
def edgeLine (source target : String) : String :=
  indentStep ++ source ++ " --> " ++ target

/-- The edges grouped by runs of one target. -/
def edgeRuns : List (Nat × Nat) → List (List (Nat × Nat))
  | [] => []
  | e :: es =>
    match edgeRuns es with
    | (f :: fs) :: runs => if e.2 = f.2 then (e :: f :: fs) :: runs else [e] :: (f :: fs) :: runs
    | runs => [e] :: runs

/-- The lines in ascending order. -/
def sortLines (ls : List String) : List String :=
  ls.mergeSort fun a b => decide (a ≤ b)

/-- The lines of the edges between nodes; the edges of a run are in the order of their text. -/
def edgeLines (edges : List (Nat × Nat)) : List String :=
  (edgeRuns edges).flatMap fun run =>
    sortLines (run.map fun e => edgeLine (nodeId e.1) (nodeId e.2))

/-- The styles of nodes. -/
def styleLines : List String :=
  ["    classDef taskNode fill:#a371f7,stroke:#8b5cf6,stroke-width:2px,color:#fff",
    "    classDef workflowNode fill:#58a6ff,stroke:#1f6feb,stroke-width:2px,color:#fff"]

/-- The lines of a chart. -/
def Chart.lines (c : Chart) : List String :=
  ["flowchart TD", indentStep ++ "Start([" ++ c.name ++ "])"] ++
    Figure.linesOf indentStep c.figures ++
    edgeLines c.edges ++
    c.starts.map (fun k => edgeLine "Start" (nodeId k)) ++
    sortLines (c.ends.map fun p => edgeLine p.id "End([End])") ++
    styleLines

/-- The flowchart of a workflow; nothing is drawn for an empty body. -/
def render (w : WorkflowSource) : String :=
  if w.body.isEmpty then ""
  else Text.joinWith "\n" (Chart.ofBody w.name w.body).lines

end WorkflowDocs.Flowchart
