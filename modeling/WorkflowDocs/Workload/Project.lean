import WorkflowDocs.Project.Discovery
import WorkflowDocs.Sample.Tree
import WorkflowDocs.Site.Assets
import WorkflowDocs.Site.Generate
import WorkflowDocs.Workload.Finding

/-!
# Workloads on a project

Each workload works on the files of a sample project.

## Main definitions

* `Workload.discovery`: the sources of a project
* `Workload.reports`: reports on sources that cannot be read
* `Workload.sites`: sites of projects with and without sources
-/

namespace WorkflowDocs.Workload

/-- The number of files of a chain of imports. -/
def chainLength (tree : FileTree) (root : Path) (start : List Path) : Nat :=
  ((importChain tree root start []).1.getD []).length

/-- The sources of the sample project with `n` further ones. -/
def discovery (root : Path) (n : Int) : Finding :=
  let files := Sample.files 2
  let tree := Sample.treeOf root (files ++ (List.range n.toNat).map Sample.furtherFile)
  let p := Project.make root none none
  let main := root.join Sample.pipelinePlace
  let sub := root.join Sample.subPlace
  let away := Path.ofText "/nope/nowhere.wdl"
  .group [.number (p.internalFiles tree root).length, .number (p.allFiles tree root).length,
    .number (p.externalFiles tree root).length,
    .number (chainLength tree root [main, root.join Sample.libraryPlace, sub]),
    .answer (isSource tree root main), .answer (isSource tree root away),
    .text (p.placeOf main).text, .text (p.placeOf away).text, .answer (p.isExternal sub),
    .answer (p.isExternal main), .answer (p.isExternal away),
    .answer (p.isExcluded [Path.externalName ++ "/"] sub), .answer (p.isExcluded [] away),
    .number (chainLength tree root [])]

/-- Why the `i`-th source has no documentation, if it has none. -/
def readingError? (w : Workspace) (root : Path) (i : Nat) : Option ParseError :=
  let position : Option Position := some ⟨3, 7⟩
  match i % 5 with
  | 0 =>
    match w.parse root (root.join Sample.brokenPlace) with
    | .error e => some e
    | .ok _ => none
  | 1 => some (.load (.grammar s!"syntax {i}" position))
  | 2 => some (.load (.other "ImportError" s!"import {i}"))
  | 3 => some (.load (.invalid "ValidationError" s!"validate {i}" position))
  | _ => some (.load (.other "RuntimeError" s!"generic {i}"))

/-- How much of a message a report on reports shows. -/
def glimpseLength : Nat := 10

/-- What a report says. -/
def reportFinding (f : ParseFailure) : Finding :=
  .group [.text f.kind, .text f.severity.label, .ofText? f.location,
    .text (Text.takeChars glimpseLength f.message)]

/-- The reports on `n` sources that have no documentation, and the place of one that has. -/
def reports (w : Workspace) (root : Path) (n : Int) : Finding :=
  let file := root.join Sample.pipelinePlace
  let report := fun i => (readingError? w root i).map (reportFinding ∘ w.report root file)
  .group ((List.range n.toNat).filterMap report ++
    [.text (Path.relativeToRoot w.cwd file root).text])

/-- Third-party sources that others import. -/
def sharedPlaces : List Path :=
  (List.range 2).map fun i => Path.ofText s!"external/dep{i}.wdl"

/-- A workspace with `n` sources below a root, each of which imports the third-party sources that
are there too. -/
def importingSources (root : Path) (n : Nat) : Workspace :=
  let shared := sharedPlaces.map fun place => (place, Sample.subWorkflow)
  let files := (List.range n).map Sample.furtherFile
  let imports := sharedPlaces.map fun place => (⟨"../../" ++ place.text, none, none⟩ : ImportSource)
  let document : DocumentSource := { (default : DocumentSource) with imports := imports }
  let place := fun (f : Path × String) => (root.join f.1).names
  { tree := Sample.treeOf root (shared ++ files)
    cwd := root
    sources := shared.map (fun f => (place f, .ok default)) ++
      files.map fun f => (place f, .ok document) }

/-- Sites of `n` sources and what they import, of none, and of sources that cannot be read; and
the number of documents of the first. -/
def sites (root : Path) (n : Int) : Finding :=
  let job : SiteJob := { output := root.child "out", assets := some (assetsOf fun _ => .empty) }
  let p := Project.make root none none
  let full := importingSources root n.toNat
  let first := job.document full p
  .group [.answer first.complete, .answer (job.document {} p).complete,
    .answer (job.document { full with sources := [] } p).complete,
    .number (first.collected.elim 0 (·.1.length))]

end WorkflowDocs.Workload
