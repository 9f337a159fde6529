import WorkflowDocs.Calls.CallList
import WorkflowDocs.Catalog.CommandInfo
import WorkflowDocs.Flowchart.Mermaid
import WorkflowDocs.Images.Inventory
import WorkflowDocs.Literal.Reader

/-!
# Documenting tasks and workflows

How the parts of a source become the entries of the documentation.

## Main definitions

* `SurveyError`: why a source has no documentation
* `MetaValue.text`: the text of a descriptive value
* `parameterNote`: the description of a parameter
* `InputInfo.ofDecl`, `OutputInfo.ofDecl`, `TaskInfo.ofSource`, `WorkflowInfo.ofSource`
-/

namespace WorkflowDocs

/-- Why a source has no documentation. -/
inductive SurveyError where
  /-- An operator has too few operands to be printed. -/
  | unprintable
  /-- The description of a parameter has a collection as a key. -/
  | unhashableKey (kind : Literal.Collection)
  /-- The description of a parameter has a complex number with too large a part. -/
  | numberTooLarge
  /-- The description of a parameter is given up. -/
  | beyond (limit : Literal.Limit)
  deriving DecidableEq, Repr, Inhabited

/-- The kind under which an error is reported. -/
def SurveyError.kind : SurveyError → String
  | .unprintable => "IndexError"
  | .unhashableKey _ => "TypeError"
  | .numberTooLarge => "OverflowError"
  | .beyond .height => "RecursionError"
  | .beyond .level => "MemoryError"

/-- The message of an error. -/
def SurveyError.message : SurveyError → String
  | .unprintable => "list index out of range"
  | .unhashableKey kind => "unhashable type: '" ++ kind.label ++ "'"
  | .numberTooLarge => "int too large to convert to float"
  | .beyond .height => "maximum recursion depth exceeded during ast construction"
  | .beyond .level => ""

/-! ## Descriptive values -/

namespace MetaValue

mutual

/-- A descriptive value inside a list or an object. -/
def nested : MetaValue → String
  | .string s => Text.quoted s
  | .int n => Decimal.intText n
  | .float x => numberLayout.write x
  | .boolean b => booleanText b
  | .list items => "[" ++ Text.joinWith ", " (nestedItems items) ++ "]"
  | .object members => "\x7b" ++ Text.joinWith ", " (nestedMembers members) ++ "\x7d"

/-- The items of a list. -/
def nestedItems : List MetaValue → List String
  | [] => []
  | v :: vs => v.nested :: nestedItems vs

/-- The members of an object. -/
def nestedMembers : List (String × MetaValue) → List String
  | [] => []
  | (name, v) :: ms => (Text.quoted name ++ ": " ++ v.nested) :: nestedMembers ms

end

/-- The text of a descriptive value: a text stands for itself, anything else is written out. -/
def text : MetaValue → String
  | .string s => s
  | v => v.nested

end MetaValue

/-- The texts of a metadata section. -/
def metaTexts (metadata : List (String × MetaValue)) : Fields String :=
  metadata.map fun m => (m.1, m.2.text)

/-! ## Parameters -/

/-- The description that a structured text gives under its key `description`, if it is a
dictionary with something there. -/
def structuredNote (dialect : Literal.Dialect) (raw : String) :
    Except SurveyError (Option Literal) :=
  match Literal.read dialect raw with
  | .ok (.dict entries) => .ok ((Literal.lookup? "description" entries).filter (·.isTruthy))
  | .ok _ => .ok none
  | .error .malformed => .ok none
  | .error (.unhashable kind) => .error (.unhashableKey kind)
  | .error .tooLarge => .error .numberTooLarge
  | .error (.beyond limit) => .error (.beyond limit)

/-- The description of a parameter: what a structured text says, or else the text itself. -/
def parameterNote (dialect : Literal.Dialect) (notes : Fields String) (name : String) :
    Except SurveyError (Option Note) :=
  match presentText (notes.get? name) with
  | none => .ok none
  | some raw => (structuredNote dialect raw).map fun
    | some (.string s) => some (.text s)
    | some v => some (.value v)
    | none => some (.text raw)

/-- The documentation of an input. A default that does not print is left out. -/
def InputInfo.ofDecl (dialect : Literal.Dialect) (notes : Fields String) (d : Decl) :
    Except SurveyError InputInfo :=
  (parameterNote dialect notes d.name).map fun note =>
    { name := d.name
      type := TypeInfo.ofType d.type
      description := note
      default := d.expr.bind Expr.text? }

/-- The text of an expression that must print. -/
def printed (e : Expr) : Except SurveyError String :=
  match e.text? with
  | some s => .ok s
  | none => .error .unprintable

/-- The documentation of an output. -/
def OutputInfo.ofDecl (d : Decl) : Except SurveyError OutputInfo :=
  (d.expr.mapM printed).map fun expression =>
    { name := d.name
      type := TypeInfo.ofType d.type
      description := none
      expression := expression }

/-! ## Tasks and workflows -/

/-- The text of a runtime attribute; one that does not print is unknown. -/
def runtimeText (e : Expr) : String :=
  e.text?.getD "unknown"

/-- The documentation of a task. -/
def TaskInfo.ofSource (dialect : Literal.Dialect) (t : TaskSource) :
    Except SurveyError TaskInfo := do
  let metadata := metaTexts t.metadata
  let inputs ← t.inputs.mapM (InputInfo.ofDecl dialect (metaTexts t.parameterMeta))
  let outputs ← t.outputs.mapM OutputInfo.ofDecl
  let command ← t.command.mapM printed
  return {
    name := t.name
    description := metadata.get? "description"
    inputs := inputs
    outputs := outputs
    command := command.map CommandInfo.ofText
    runtime := t.runtime.map fun r => (r.1, runtimeText r.2)
    metadata := metadata
    author := metadata.get? "author"
    email := metadata.get? "email" }

/-- The documentation of the workflow of a document. -/
def WorkflowInfo.ofSource (dialect : Literal.Dialect) (cwd root : Path) (doc : DocumentSource)
    (imports : List ImportInfo) (w : WorkflowSource) : Except SurveyError WorkflowInfo := do
  let metadata := metaTexts w.metadata
  let inputs ← w.inputs.mapM (InputInfo.ofDecl dialect (metaTexts w.parameterMeta))
  let outputs ← w.outputs.mapM OutputInfo.ofDecl
  let images ← match Images.images? doc w with
    | some images => Except.ok images
    | none => Except.error SurveyError.unprintable
  return {
    name := w.name
    description := metadata.get? "description"
    inputs := inputs
    outputs := outputs
    calls := Calls.callList cwd root imports w.body
    images := images
    graph := some (Flowchart.render w)
    metadata := metadata
    author := metadata.get? "author"
    email := metadata.get? "email" }

end WorkflowDocs
