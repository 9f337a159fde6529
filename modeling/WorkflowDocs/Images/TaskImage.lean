import WorkflowDocs.Catalog.ImageInfo
import WorkflowDocs.Fields
import WorkflowDocs.Text.Blank
import WorkflowDocs.Wdl.Document
import WorkflowDocs.Wdl.Expr.Literal

/-!
# The image of a task

A task names its container image in its runtime section. The image is either fixed or taken from
a parameter; images with one default, or one parameter without default, belong together.

## Main definitions

* `TaskImage`: the image of a task
* `TaskImage.key`: what images are grouped by
* `TaskImage.analyze?`: the reading of an image expression
* `TaskImage.ofTask?`: the image of a task
-/

namespace WorkflowDocs

/-- The image of a task: its text, and for an image given by a parameter the name of the parameter
and its default. -/
structure TaskImage where
  image : String
  isParameterized : Bool
  parameter : Option String
  default : Option String
  deriving DecidableEq, Repr, Inhabited

namespace TaskImage

/-- What images are grouped by: the image that runs, or else the parameter it is given by. -/
def key (i : TaskImage) : String :=
  if i.isParameterized then
    (presentText i.default).getD ("parameterized:" ++ (presentText i.parameter).getD "unknown")
  else i.image

/-- The runtime attributes that may name an image, in order of preference. -/
def runtimeKeys : List String := ["docker", "container", "dockerImage"]

/-- The expression that names the image. -/
def expr? (runtime : Fields Expr) : Option Expr :=
  runtimeKeys.findSome? runtime.get?

/-- Whether a character is a quotation mark. -/
def isQuote (c : Char) : Bool :=
  c = '"' || c = '\''

/-- The text without quotation marks around it. -/
def stripQuotes (s : String) : String :=
  Text.trimBy isQuote s

/-- Whether the kind of expression refers to a parameter by itself. -/
def isReference : Expr → Bool
  | .get _ _ | .ident _ | .apply _ _ => true
  | _ => false

/-- The parameter that a reference names. -/
def referencedName? : Expr → Option String
  | .ident name => some name
  | .get value _ => value.text?
  | _ => none

/-- Whether an image text looks like the name of a parameter: no quotation mark in front, no slash
and no colon. -/
def looksLikeName (s : String) : Bool :=
  !(s.toList.head?.any isQuote) && !s.toList.contains '/' && !s.toList.contains ':'

/-- The reading of an image expression, without its default. -/
def analyze? (e : Expr) : Option TaskImage := do
  let s ← e.text?
  if isReference e then return ⟨s, true, referencedName? e, none⟩
  else if looksLikeName s then return ⟨s, true, some s, none⟩
  else return ⟨stripQuotes s, false, none, none⟩

/-- The default of a parameter among the inputs of a task: the text of its literal value, if the
question for one has an answer. A missing literal is written out as such. -/
def defaultOf? (inputs : List Decl) (parameter : String) : Option String := do
  let d ← inputs.find? (·.name == parameter)
  let e ← d.expr
  match e.literal with
  | .ok v => some (stripQuotes v.text)
  | .error .absent => some "None"
  | .error .unsupported => none

/-- The image with the default of its parameter. -/
def withDefault (inputs : List Decl) (i : TaskImage) : TaskImage :=
  if i.isParameterized then
    { i with default := (presentText i.parameter).bind (defaultOf? inputs) }
  else i

/-- The image of a task with the given runtime attributes; `some none` when it names none, and
`none` when its image expression does not print. -/
def ofRuntime? (inputs : List Decl) (runtime : Fields Expr) : Option (Option TaskImage) :=
  match expr? runtime with
  | none => some none
  | some e => (analyze? e).map fun i => some (withDefault inputs i)

/-- The image of a task. -/
def ofTask? (t : TaskSource) : Option (Option TaskImage) :=
  ofRuntime? t.inputs t.runtime

end TaskImage

end WorkflowDocs
