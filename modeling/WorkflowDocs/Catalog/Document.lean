import WorkflowDocs.Catalog.ImageInfo
import WorkflowDocs.Catalog.TypeInfo
import WorkflowDocs.Fields
import WorkflowDocs.Literal.Basic
import WorkflowDocs.Path.Normalize

/-!
# Documented sources

What the documentation knows of a source document: its workflow, its tasks, its imports, and for
each of them the texts that its page shows.

## Main definitions

* `Note`: the description of a parameter
* `InputInfo`, `OutputInfo`, `ImportInfo`, `TaskInfo`, `CallInfo`, `WorkflowInfo`: the parts
* `DocumentInfo`: a documented source
* `DocumentInfo.kind`, `DocumentInfo.isExternal`, `DocumentInfo.description`: derived properties
-/

namespace WorkflowDocs

/-- The description of a parameter: a text, or another value that stood in its place. -/
inductive Note where
  | text (s : String)
  | value (v : Literal)
  deriving Inhabited

/-- Whether there is something to show. -/
def Note.isPresent : Note → Bool
  | .text s => s != ""
  | .value v => v.isTruthy

/-- Whether the description is a text with half of a character pair in it. -/
def Note.isHalf : Note → Bool
  | .value (.codes _) => true
  | _ => false

/-- A documented input. -/
structure InputInfo where
  name : String
  type : TypeInfo
  description : Option Note := none
  default : Option String := none
  deriving Inhabited

/-- Whether the input may be left out. -/
def InputInfo.hasDefault (i : InputInfo) : Bool :=
  i.default.isSome

/-- Whether the input is a struct. -/
def InputInfo.isStruct (i : InputInfo) : Bool :=
  i.type.isStruct

/-- A documented output. -/
structure OutputInfo where
  name : String
  type : TypeInfo
  description : Option String := none
  expression : Option String := none
  deriving Inhabited

/-- A documented import: the address as written, the name of its scope, and the file behind it. -/
structure ImportInfo where
  address : String
  scope : Option String := none
  resolved : Option Path := none
  deriving DecidableEq, Repr, Inhabited

/-- The name an import is shown under: its scope, or the name of the imported file. -/
def ImportInfo.displayName (i : ImportInfo) : String :=
  (presentText i.scope).getD (Path.ofText i.address).stem

/-- The command of a task: as written, and without its common indentation. -/
structure CommandInfo where
  raw : String
  formatted : String
  deriving DecidableEq, Repr, Inhabited

/-- A documented task. -/
structure TaskInfo where
  name : String
  description : Option String := none
  inputs : List InputInfo := []
  outputs : List OutputInfo := []
  command : Option CommandInfo := none
  runtime : Fields String := []
  metadata : Fields String := []
  author : Option String := none
  email : Option String := none
  deriving Inhabited

/-- What kind of element a call refers to. -/
inductive CallKind where
  | task
  | workflow
  | other (label : String)
  deriving DecidableEq, Repr, Inhabited

/-- The label of a kind. -/
def CallKind.label : CallKind → String
  | .task => "task"
  | .workflow => "workflow"
  | .other s => s

/-- The kind with a label. -/
def CallKind.ofLabel (s : String) : CallKind :=
  if s = "task" then .task else if s = "workflow" then .workflow else .other s

/-- A documented call. -/
structure CallInfo where
  name : String
  target : String
  aliasName : Option String := none
  inputs : Fields String := []
  isLocal : Bool := true
  link : Option String := none
  kind : CallKind := .task
  deriving DecidableEq, Repr, Inhabited

/-- The name a call is shown under. -/
def CallInfo.displayName (c : CallInfo) : String :=
  (presentText c.aliasName).getD c.name

/-- A documented workflow. -/
structure WorkflowInfo where
  name : String
  description : Option String := none
  inputs : List InputInfo := []
  outputs : List OutputInfo := []
  calls : List CallInfo := []
  images : List ImageInfo := []
  graph : Option String := none
  metadata : Fields String := []
  author : Option String := none
  email : Option String := none
  deriving Inhabited

/-- Whether the workflow has a graph to show. -/
def WorkflowInfo.hasGraph (w : WorkflowInfo) : Bool :=
  (presentText w.graph).isSome

/-- A documented source. -/
structure DocumentInfo where
  filePath : Path
  relativePath : Path
  version : String := "1.0"
  workflow : Option WorkflowInfo := none
  tasks : List TaskInfo := []
  imports : List ImportInfo := []
  source : Option String := none
  deriving Inhabited

/-- What a source consists of. -/
inductive DocumentKind where
  | mixed
  | workflow
  | tasks
  | empty
  deriving DecidableEq, Repr, Inhabited

/-- The label of a kind. -/
def DocumentKind.label : DocumentKind → String
  | .mixed => "mixed"
  | .workflow => "workflow"
  | .tasks => "tasks"
  | .empty => "empty"

namespace DocumentInfo

/-- The name of a source: that of its workflow, or of its file. -/
def name (d : DocumentInfo) : String :=
  match d.workflow with
  | some w => w.name
  | none => d.filePath.stem

/-- What the source consists of. -/
def kind (d : DocumentInfo) : DocumentKind :=
  match d.workflow.isSome, !d.tasks.isEmpty with
  | true, true => .mixed
  | true, false => .workflow
  | false, true => .tasks
  | false, false => .empty

/-- Whether the source comes from a third party: its place has a part `external`. -/
def isExternal (d : DocumentInfo) : Bool :=
  d.relativePath.parts.contains Path.externalName

/-- The description of the workflow, or else of the first task. -/
def description (d : DocumentInfo) : Option String :=
  match d.workflow.bind (presentText ·.description) with
  | some s => some s
  | none => d.tasks.head?.bind (presentText ·.description)

end DocumentInfo

end WorkflowDocs
