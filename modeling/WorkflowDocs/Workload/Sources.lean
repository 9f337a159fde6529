import WorkflowDocs.Sample.Tree
import WorkflowDocs.Workload.Finding

/-!
# Workloads on sources

Each workload reads sources of a sample project and asks for what their documentation is made of.
Where a workload is a computation inside a computation, the outer one prepares and the inner one
is the run itself.

## Main definitions

* `Workload.graphs`, `Workload.images`, `Workload.texts`: what is taken from the pipeline
* `Workload.calls`, `Workload.surveys`: what is taken from the pipeline and the source that imports
* `Workload.readings`: what is taken from all sources
-/

namespace WorkflowDocs.Workload

variable (w : Workspace) (root : Path)

/-- The document that a source of the project is read as. -/
def read (place : Path) : Except WorkloadError DocumentSource :=
  (w.load (root.join place)).mapError (.parse ∘ .load)

/-- The documentation of a source of the project. -/
def survey (place : Path) : Except WorkloadError DocumentInfo :=
  (w.parse root (root.join place)).mapError .parse

/-- The workflow of a document that has to have one. -/
def workflowOf (doc : DocumentSource) : Except WorkloadError WorkflowSource :=
  doc.workflow.elim (.error .noWorkflow) .ok

/-- The value of a computation that has one unless an expression does not print. -/
def printable {α : Type} (a : Option α) : Except WorkloadError α :=
  a.elim (.error (.parse (.survey .unprintable))) .ok

/-- The workspace with the sources of the sample project in its tree. -/
def held (n : Int) : Workspace :=
  { w with tree := Sample.treeOf root (Sample.files n) }

/-- The size of the chart of the pipeline and of its graph, and what little is drawn of an empty
workflow. -/
def graphs : Except WorkloadError Finding := do
  let main ← workflowOf (← read w root Sample.pipelinePlace)
  let chart := Text.joinWith "\n" (Flowchart.Chart.ofBody main.name main.body).lines
  return .group [.number chart.length, .number (Flowchart.render main).length,
    .text (Flowchart.render default), .text (Flowchart.conditionText none),
    .answer (Flowchart.anyCall [])]

/-- Runtimes that name a fixed image, none, and a parameter without default. -/
def runtimes : List (Fields Expr) :=
  [[("container", .string [.text "\"", .text "ubuntu:20.04", .text "\""])], [],
    [("cpu", .int 2)], [("memory", .string [.text "\"", .text "4 GB", .text "\""])],
    [("docker", .ident "p")]]

/-- The images of the pipeline and those of some runtimes. -/
def images : Except WorkloadError (Except WorkloadError Finding) := do
  let doc ← read w root Sample.pipelinePlace
  return do
    let used ← printable (Images.images? doc (← workflowOf doc))
    let found ← (doc.tasks.map TaskImage.ofTask? ++ runtimes.map (TaskImage.ofRuntime? [])).mapM
      printable
    return .group [.number used.length,
      .group (found.map fun i => .ofText? (i.map (·.key)))]

/-- The sizes of the texts of the sources, none for a missing one, and versions. -/
def texts (n : Int) : Except WorkloadError Finding := do
  let main ← read w root Sample.pipelinePlace
  let size := fun place =>
    ((held w root n).sourceText? (root.join place)).elim Finding.missing fun s => .number s.length
  let places := [Sample.pipelinePlace, Sample.libraryPlace, Sample.subPlace, Sample.importerPlace,
    Path.ofText "missing.wdl"]
  let bare : DocumentSource := default
  let versions := [main, bare].map fun doc => Finding.text doc.versionText
  return .group ((places.map size ++ versions).flatMap fun f => [f, f])

/-- The names sorted. -/
def sortedNames (names : List String) : Finding :=
  .texts (names.mergeSort fun a b => decide (a ≤ b))

/-- An import that leads nowhere. -/
def lostImport : ImportInfo where
  address := "ghost.wdl"
  scope := some "ghost"

/-- A call into the import that leads nowhere. -/
def lostCall : CallNode :=
  ⟨["ghost", "Task"], "Task", [], none⟩

/-- The calls of the pipeline, and the links of the calls into imports, known and unknown. -/
def calls (n : Int) : Except WorkloadError (Except WorkloadError Finding) := do
  let main ← read w root Sample.pipelinePlace
  let doc ← read w root Sample.importerPlace
  return do
    let body := (← workflowOf main).body
    let linking := (← workflowOf doc).body
    let called := Calls.callList w.cwd root [] body
    let linked := fun imports => Finding.group
      ((Calls.callList w.cwd root imports linking).map fun c => .ofText? c.link)
    return .group [.texts (called.map (·.displayName)),
      linked ((held w root n).importInfos (root.join Sample.importerPlace) doc),
      linked [lostImport], sortedNames (Calls.directDependencies body).names,
      sortedNames (Calls.callGraph called).names,
      .group [.answer (Calls.isLocalCall [] lostCall),
        .answer (Calls.isLocalCall [lostImport] lostCall)],
      .number (Calls.callList w.cwd root [] []).length]

/-- The names in the documentation of the pipeline and of the source that imports. -/
def surveys (n : Int) : Except WorkloadError (Except WorkloadError Finding) := do
  let main ← read w root Sample.pipelinePlace
  let importer ← read w root Sample.importerPlace
  let imports := (held w root n).importInfos (root.join Sample.importerPlace) importer
  let documented := fun doc imports => do
    let info := WorkflowInfo.ofSource w.dialect w.cwd root doc imports (← workflowOf doc)
    info.mapError (.parse ∘ .survey)
  return do
    let first ← documented main []
    let second ← documented importer imports
    let tasks ← main.tasks.mapM fun t => (TaskInfo.ofSource w.dialect t).mapError (.parse ∘ .survey)
    return .group [.text first.name, .text second.name, .texts (tasks.map (·.name)),
      .texts (imports.map (·.displayName))]

/-- What reading the pipeline and the library gives, with the sizes of their texts, what the source
that imports is documented as, and the errors of a source that cannot be read. -/
def readings (n : Int) : Except WorkloadError Finding := do
  let size := fun place =>
    Finding.number (((held w root n).sourceText? (root.join place)).elim 0 (·.length))
  let main ← workflowOf (← read w root Sample.pipelinePlace)
  let library ← read w root Sample.libraryPlace
  let importer ← survey (held w root n) root Sample.importerPlace
  let errors := match read w root Sample.brokenPlace with
    | .ok _ => []
    | .error _ => ["load_err", "wload_err"]
  return .group ([.group [.text main.name, size Sample.pipelinePlace],
    .group [.number library.tasks.length, size Sample.libraryPlace],
    .group [.text importer.name, .text importer.kind.label, .number importer.imports.length]] ++
    errors.map .text)

end WorkflowDocs.Workload
