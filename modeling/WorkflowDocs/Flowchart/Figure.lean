import WorkflowDocs.Flowchart.Dependencies
import WorkflowDocs.Wdl.Expr.Printer

/-!
# The figure of a workflow

The calls of a body are drawn as numbered nodes; a block that contains a call is drawn as a box
around its calls. Numbers are given in the order of the body, and a call draws an edge from each
of its dependencies that has a number by then.

## Main definitions

* `Figure`: nodes and boxes
* `scatterLabel`, `conditionLabel`, `nodeLabel`: the texts in the figure
* `Plan`: the numbers and edges given so far
* `Plan.draw`: the figures of a body
* `endings`: where the body ends
-/

namespace WorkflowDocs.Flowchart

/-- The two kinds of boxes. -/
inductive BoxKind where
  | scatter
  | conditional
  deriving DecidableEq, Repr, Inhabited

/-- A node or a box of the figure. -/
inductive Figure where
  | node (number : Nat) (label : String) (isTask : Bool)
  | box (kind : BoxKind) (number : Nat) (label : String) (children : List Figure)
  deriving Inhabited

/-! ## Labels -/

/-- The text of a scalar value in the label of a scatter. -/
def scalarText? : Expr → Option String
  | .boolean b => some (if b then "True" else "False")
  | .int n => some (Decimal.intText n)
  | .float x => some (numberLayout.write x)
  | .null => some "None"
  | _ => none

/-- An argument in the label of a scatter: an identifier by its name, a scalar by its value, and
anything else as it prints, with dots for what does not print. -/
def argLabel : Expr → String
  | .ident name => name
  | e => (scalarText? e).getD (e.text?.getD "...")

/-- The collection a scatter runs over. -/
def collectionLabel : Option Expr → String
  | none => ""
  | some (.ident name) => name
  | some (.apply function args) =>
    function ++ "(" ++ Text.joinWith ", " (args.map argLabel) ++ ")"
  | some e => e.text?.getD "items"

/-- The label of a scatter. -/
def scatterLabel (item : String) (source : Option Expr) : String :=
  let collection := collectionLabel source
  if collection = "" then "🔃 scatter " ++ item
  else "🔃 scatter " ++ item ++ " in " ++ collection

/-- The text of a condition. -/
def conditionText (condition : Option Expr) : String :=
  (condition.bind Expr.text?).getD "condition"

/-- The label of a conditional, with apostrophes for double quotes. -/
def conditionLabel (condition : Option Expr) : String :=
  Text.replaceAll "\"" "'" ("↔️ if " ++ conditionText condition)

/-- The name of what a call refers to. -/
def calleeName (c : CallNode) : String :=
  match c.callee with
  | some callee => callee.name
  | none => "None"

/-- The label of a call: its name, with what it refers to below if that is named differently. -/
def nodeLabel (c : CallNode) : String :=
  if c.name = calleeName c then c.name
  else c.name ++ "<br/><i>" ++ calleeName c ++ "</i>"

/-- Whether a call refers to a task. -/
def callsTask (c : CallNode) : Bool :=
  match c.callee with
  | some callee => callee.kind == .task
  | none => false

/-! ## Numbers and edges -/

mutual

/-- Whether an element contains a call. -/
def hasCall : Node → Bool
  | .decl _ => false
  | .call _ => true
  | .scatter _ _ body => anyCall body
  | .conditional _ body => anyCall body

/-- Whether a body contains a call. -/
def anyCall : List Node → Bool
  | [] => false
  | n :: ns => hasCall n || anyCall ns

end

/-- The numbers of calls, the counts of boxes, the edges between nodes, and the nodes that follow
the start, given so far. -/
structure Plan where
  numbers : Fields Nat := []
  scatters : Nat := 0
  conditionals : Nat := 0
  edges : List (Nat × Nat) := []
  starts : List Nat := []
  deriving Inhabited

namespace Plan

/-- The plan with a number for a call. A name that has a number keeps it. -/
def number (p : Plan) (name : String) : Plan × Nat :=
  match p.numbers.get? name with
  | some k => (p, k)
  | none =>
    let k := p.numbers.length + 1
    ({ p with numbers := p.numbers.put name k }, k)

/-- The plan with the edges into node `k`: from each dependency with a number, and from the start
if there is none. -/
def connect (p : Plan) (deps : List String) (k : Nat) : Plan :=
  let sources := deps.filterMap p.numbers.get?
  if sources.isEmpty then { p with starts := p.starts ++ [k] }
  else { p with edges := p.edges ++ sources.map (·, k) }

/-- Draws a call: a node if it is new, and the edges into its node. -/
def drawCall (p : Plan) (deps : Fields (List String)) (c : CallNode) : Plan × List Figure :=
  let isNew := !p.numbers.has c.name
  let (p, k) := p.number c.name
  let p := p.connect ((deps.get? c.name).getD []) k
  (p, if isNew then [.node k (nodeLabel c) (callsTask c)] else [])

mutual

/-- Draws an element. -/
def drawNode (p : Plan) (deps : Fields (List String)) : Node → Plan × List Figure
  | .decl _ => (p, [])
  | .call c => p.drawCall deps c
  | .scatter item source body =>
    if anyCall body then
      let k := p.scatters + 1
      let (p, children) := { p with scatters := k }.draw deps body
      (p, [.box .scatter k (scatterLabel item source) children])
    else (p, [])
  | .conditional condition body =>
    if anyCall body then
      let k := p.conditionals + 1
      let (p, children) := { p with conditionals := k }.draw deps body
      (p, [.box .conditional k (conditionLabel condition) children])
    else (p, [])

/-- Draws a body. -/
def draw (p : Plan) (deps : Fields (List String)) : List Node → Plan × List Figure
  | [] => (p, [])
  | n :: ns =>
    let (p, figures) := p.drawNode deps n
    let (p, rest) := p.draw deps ns
    (p, figures ++ rest)

end

end Plan

/-! ## Ends -/

/-- A source of an edge into the end: the start, or a node. -/
inductive Terminal where
  | start
  | node (number : Nat)
  deriving DecidableEq, Repr, Inhabited

/-- The calls that no call depends on. -/
def leaves (deps : Fields (List String)) : List String :=
  deps.names.filter fun name => !deps.values.any fun ds => ds.contains name

/-- The terminals themselves, or the start if there are none. -/
def orStart : List Terminal → List Terminal
  | [] => [.start]
  | terminals => terminals

mutual

/-- Where an element ends. A declaration ends nowhere; a block ends where its elements do, or at
the start if they end nowhere. -/
def nodeEndings (numbers : Fields Nat) : Node → List Terminal
  | .decl _ => []
  | .call c => (numbers.get? c.name).toList.map .node
  | .scatter _ _ body => orStart (endingsOf numbers body)
  | .conditional _ body => orStart (endingsOf numbers body)

/-- The ends of the elements of a body together. -/
def endingsOf (numbers : Fields Nat) : List Node → List Terminal
  | [] => []
  | n :: ns => nodeEndings numbers n ++ endingsOf numbers ns

end

/-- Where a body ends. -/
def endings (numbers : Fields Nat) (body : List Node) : List Terminal :=
  orStart (endingsOf numbers body)

/-- The terminals with an edge into the end: the nodes of calls that no call depends on, or, if
there is no such call, where the body ends. -/
def endTerminals (numbers : Fields Nat) (deps : Fields (List String)) (body : List Node) :
    List Terminal :=
  match (leaves deps).filterMap numbers.get? with
  | [] => (endings numbers body).eraseDups
  | nodes => nodes.map .node

end WorkflowDocs.Flowchart
