import WorkflowDocs.Command.Run
import WorkflowDocs.Site.Assets
import WorkflowDocs.Workload.Sources

/-!
# Workloads that write files

Each workload makes files from the sources of a sample project: a site, graphs, or what command
lines ask for.

## Main definitions

* `Workload.pages`: sites of the sources
* `Workload.graphFiles`: graphs in files
* `Workload.commands`: runs of the program
-/

namespace WorkflowDocs.Workload

variable (w : Workspace) (root : Path)

/-- The directory that files are made in. -/
def target : Path :=
  root.child "out"

/-- The files that all pages use, without content. -/
def blankAssets : List (Place × Entry) :=
  assetsOf fun _ => .empty

/-- Whether a site of the sources is complete, with the files that all pages use and without them;
and the files of its overviews. -/
def pages (n : Int) : Except WorkloadError Finding := do
  let project := held w root n
  let documents ← [Sample.pipelinePlace, Sample.importerPlace, Sample.libraryPlace,
    Sample.subPlace].mapM (survey project root)
  let job : SiteJob := { output := target root, assets := some blankAssets }
  let complete := fun (job : SiteJob) =>
    Finding.answer (job.generate w.cwd documents [] project.tree).2
  return .group [complete job, complete { job with assets := none },
    .texts [indexName, inventoryName]]

/-- A document whose only workflow is one that it imports. -/
def importingDocument : DocumentSource :=
  { (default : DocumentSource) with
    imports := [⟨"", none, some { (default : ModuleSource) with workflow := some default }⟩] }

/-- Which sources have a graph to be written: the pipeline, a broken source, a missing one, a file
that is no source, and one that need not have a workflow; and the size of a graph's file, apart
from the place of the project. -/
def graphFiles (n : Int) : Finding :=
  let files := Sample.files n ++ [(Path.ofText "notes.txt", ""), (Sample.barePlace, "")]
  let project := { w with tree := Sample.treeOf root files }
  let written := fun place =>
    Finding.answer (project.writeGraph (root.join place) ((target root).child "graph.md")).2
  let markdown := graphMarkdown "W" "graph" (root.join Sample.pipelinePlace)
  .group ([Sample.pipelinePlace, Sample.brokenPlace, Path.ofText "missing.wdl",
      Path.ofText "notes.txt", Sample.barePlace].map written ++
    [.answer importingDocument.shownWorkflow?.isSome,
      .ofText? ((default : DocumentSource).shownWorkflow?.map (·.name)),
      .number (markdown.length - root.text.length)])

/-- How runs of the program end: one that makes a site, two that write a graph, and one that shows
the help. -/
def commands (n : Int) : Finding :=
  let project := held w root n
  let file := fun place => (root.join place).text
  let graph := fun place => ["graph", file place, "-o", ((target root).child "graph.md").text]
  let ends := fun args => Finding.number (runProgram (some blankAssets) project args).2.code
  .group [ends ["generate", root.text, "-o", (target root).text],
    ends (graph Sample.pipelinePlace), ends (graph Sample.libraryPlace), ends ["--help"]]

end WorkflowDocs.Workload
