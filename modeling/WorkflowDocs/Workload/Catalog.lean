import WorkflowDocs.Catalog.ParseFailure
import WorkflowDocs.Sample.Documents
import WorkflowDocs.Site.Index
import WorkflowDocs.Site.Inventory
import WorkflowDocs.Workload.Finding

/-!
# Workloads on a catalog

Each workload asks for derived properties of a sample catalog.

## Main definitions

* `Workload.properties`: the derived properties of all parts of the documents
* `Workload.indexFigures`: the figures of the index
* `Workload.inventoryFigures`: the figures of the image inventory
-/

namespace WorkflowDocs.Workload

/-! ## Derived properties -/

/-- Which general parts an element has. -/
def generalAnswers (description author email : Option String) (inputs : List InputInfo)
    (outputs : List OutputInfo) : List Finding :=
  [.answer description.isSome, .answer author.isSome, .answer email.isSome,
    .answer !inputs.isEmpty, .answer !outputs.isEmpty]

/-- The properties of a call. -/
def callProperties (c : CallInfo) : List Finding :=
  [.text c.displayName, .answer !c.isLocal, .answer (c.kind == .workflow),
    .answer (c.kind == .task)]

/-- The properties of an image. -/
def imageProperties (i : ImageInfo) : List Finding :=
  [.text i.display, .text i.shortName, .number i.taskCount]

/-- The properties of an input. -/
def inputProperties (i : InputInfo) : List Finding :=
  [.answer i.hasDefault, .answer i.isStruct, .text i.type.text, .number i.type.fieldCount]

/-- The properties of a workflow and of its parts. -/
def workflowProperties (w : WorkflowInfo) : List Finding :=
  generalAnswers w.description w.author w.email w.inputs w.outputs ++
    [.answer !w.calls.isEmpty, .answer !w.images.isEmpty, .answer w.hasGraph] ++
    w.calls.flatMap callProperties ++ w.images.flatMap imageProperties ++
    w.inputs.flatMap inputProperties

/-- The properties of a task. -/
def taskProperties (t : TaskInfo) : List Finding :=
  generalAnswers t.description t.author t.email t.inputs t.outputs ++
    [.answer t.command.isSome, .answer !t.runtime.isEmpty]

/-- The properties of a document and of its parts. -/
def documentProperties (d : DocumentInfo) : List Finding :=
  [.text d.name, .text d.kind.label, .answer d.isExternal, .answer d.workflow.isSome,
    .answer !d.tasks.isEmpty, .answer !d.imports.isEmpty, .ofText? d.description] ++
    d.workflow.toList.flatMap workflowProperties ++ d.tasks.flatMap taskProperties ++
    d.imports.map fun i => .text i.displayName

/-- The properties of a report. -/
def failureProperties (f : ParseFailure) : List Finding :=
  [.text f.severity.label, .text f.shortMessage, .ofText? f.location]

/-- A report on the empty document. -/
def sampleFailure (kind message : String) (line column : Option Int) : ParseFailure :=
  ⟨Sample.emptyDocument.filePath, Sample.emptyDocument.relativePath, kind, message, line, column⟩

/-- Reports of all shapes: a long one, a warning, and one without a position. -/
def sampleFailures : List ParseFailure :=
  [sampleFailure "SyntaxError" (String.ofList (List.replicate 500 'x')) (some 3) (some 4),
    sampleFailure "Warning" "short" (some 3) none,
    sampleFailure "SyntaxError" "short" none none]

/-- The derived properties of a catalog and of some reports. -/
def properties (n : Int) : Finding :=
  .group ((Sample.documents n 4).flatMap documentProperties ++
    sampleFailures.flatMap failureProperties)

/-! ## Overviews -/

/-- The document with more in its workflow. -/
def extendWorkflow (d : DocumentInfo) (change : WorkflowInfo → WorkflowInfo) : DocumentInfo :=
  { d with workflow := d.workflow.map change }

/-- How many workflows each workflow of a ring calls at most. -/
def ringReach : Nat := 20

/-- The calls of the `k`-th workflow of a ring: the ones that follow it. -/
def ringCalls (ring : List String) (k : Nat) : List CallInfo :=
  (((ring ++ ring).drop (k + 1)).take (min ringReach ring.length)).map fun name =>
    { name := name, target := name, kind := .workflow }

/-- The catalog in which each workflow calls those that follow it, as if in a ring. -/
def ringCatalog (n : Int) : List DocumentInfo :=
  let documents := Sample.documents n 4
  let ring := workflowNames documents
  documents.map fun d => extendWorkflow d fun w =>
    { w with calls := ringCalls ring (ring.idxOf w.name) }

/-- The figures of the index of a ring of workflows. -/
def indexFigures (n : Int) : Finding :=
  let documents := ringCatalog n
  let x : Index := ⟨documents, []⟩
  let listed := [DocumentKind.workflow, .mixed, .tasks].flatMap x.internalOf
  let callers := fun d => (callers? d documents).getD []
  .group [.number x.internal.length, .number x.external.length, .number listed.length,
    .number ((x.callerCounts.map (·.2)).foldr (· + ·) 0),
    .number (documents.head?.elim 0 fun d => (callers d).length),
    .ofText? ((callers Sample.emptyDocument).head?.map (·.name))]

/-- A further image of a workflow; every fourth one is given by a parameter. -/
def furtherImage (k : Nat) : ImageInfo where
  image := s!"reg{k % 3}.io/ns{k}/img{k}:{k}"
  tasks := ["Task0"]
  isParameterized := k % 4 == 0
  parameter := if k % 4 = 0 then some s!"p{k}" else none

/-- The catalog in which each workflow uses thirty images more. -/
def imageCatalog (n : Int) : List DocumentInfo :=
  (Sample.documents n 4).map fun d =>
    extendWorkflow d fun w => { w with images := w.images ++ (List.range 30).map furtherImage }

/-- The figures of the image inventory. -/
def inventoryFigures (n : Int) : Finding :=
  match inventory? (imageCatalog n) with
  | none => .missing
  | some v =>
    let repositories := fun (shelf : Shelf) =>
      Finding.texts (shelf.names.mergeSort fun a b => decide (a ≤ b))
    .group [repositories v.internal, repositories v.external, .number v.internal.imageTotal,
      .number v.external.imageTotal, .answer v.hasExternal]

end WorkflowDocs.Workload
