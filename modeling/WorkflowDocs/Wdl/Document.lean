import WorkflowDocs.Wdl.Expr

/-!
# Workflow sources

A source document: its imports, its tasks and its workflow. The body of a workflow is a list of
declarations, calls, and blocks that repeat (scatter) or guard (conditional) a body of their own.

## Main definitions

* `Decl`, `MetaValue`, `TaskSource`: declarations, descriptive values and tasks
* `Callee`, `CallNode`, `Node`: the elements of a workflow body
* `WorkflowSource`, `ModuleSource`, `DocumentSource`: workflows and documents
* `Node.calls`: the calls of a body in depth-first order
-/

namespace WorkflowDocs

/-- A declaration, with the expression that defines it if there is one. -/
structure Decl where
  name : String
  type : WdlType
  expr : Option Expr
  deriving Inhabited

/-- A descriptive value of a metadata section. -/
inductive MetaValue where
  | string (s : String)
  | int (n : Int)
  | float (x : Decimal.Binary64)
  | boolean (b : Bool)
  | list (items : List MetaValue)
  | object (members : List (String × MetaValue))
  deriving Inhabited

/-- A task: inputs, outputs, a command and the attributes of its environment. -/
structure TaskSource where
  name : String
  inputs : List Decl := []
  outputs : List Decl := []
  command : Option Expr := none
  runtime : List (String × Expr) := []
  metadata : List (String × MetaValue) := []
  parameterMeta : List (String × MetaValue) := []
  deriving Inhabited

/-- What a call refers to. -/
inductive CalleeKind where
  | task
  | workflow
  deriving DecidableEq, Repr, Inhabited

/-- The task or workflow that a call resolves to. -/
structure Callee where
  kind : CalleeKind
  name : String
  deriving DecidableEq, Repr, Inhabited

/-- A call. `path` is the dotted name as written, `name` the name the call goes by, and `callee`
what the name resolves to. An input may be passed on without an expression. -/
structure CallNode where
  path : List String
  name : String
  inputs : List (String × Option Expr)
  callee : Option Callee
  deriving Inhabited

/-- An element of a workflow body. -/
inductive Node where
  | decl (d : Decl)
  | call (c : CallNode)
  | scatter (item : String) (source : Option Expr) (body : List Node)
  | conditional (condition : Option Expr) (body : List Node)
  deriving Inhabited

/-- A workflow. -/
structure WorkflowSource where
  name : String
  inputs : List Decl := []
  body : List Node := []
  outputs : List Decl := []
  metadata : List (String × MetaValue) := []
  parameterMeta : List (String × MetaValue) := []
  deriving Inhabited

/-- What an import brings into scope: the tasks and the workflow of the imported document. -/
structure ModuleSource where
  tasks : List TaskSource := []
  workflow : Option WorkflowSource := none
  deriving Inhabited

/-- An import: the address as written, the name its contents are reached by, and the document
behind it if it is there. -/
structure ImportSource where
  address : String
  scope : Option String
  target : Option ModuleSource
  deriving Inhabited

/-- A source document. -/
structure DocumentSource extends ModuleSource where
  version : Option String := none
  imports : List ImportSource := []
  deriving Inhabited

mutual

/-- The calls in an element of a body, in depth-first order. -/
def Node.calls : Node → List CallNode
  | .decl _ => []
  | .call c => [c]
  | .scatter _ _ body => Node.callsOf body
  | .conditional _ body => Node.callsOf body

/-- The calls of a body, in depth-first order. -/
def Node.callsOf : List Node → List CallNode
  | [] => []
  | n :: ns => n.calls ++ Node.callsOf ns

end

end WorkflowDocs
