import WorkflowDocs.FileTree.Steps
import WorkflowDocs.Sample.Source

/-!
# A sample project

The files of a project with the sample sources: a pipeline, a source that imports, a broken one, a
library of tasks and a source of a third party.

## Main definitions

* `Sample.files`: the places of the sources and their texts
* `Sample.treeOf`: the file tree with given sources
-/

namespace WorkflowDocs.Sample

/-- The pipeline of the project. -/
def pipelinePlace : Path := Path.ofText "workflows/main.wdl"

/-- The source that imports. -/
def importerPlace : Path := Path.ofText "workflows/importer.wdl"

/-- The source that ends too early. -/
def brokenPlace : Path := Path.ofText "workflows/broken.wdl"

/-- The library of tasks. -/
def libraryPlace : Path := Path.ofText "tasks/lib.wdl"

/-- A source that need not have a workflow. -/
def barePlace : Path := Path.ofText "tasks/nolf.wdl"

/-- The source of a third party. -/
def subPlace : Path := Path.ofText "external/sub.wdl"

/-- The sources of a project whose pipeline has `n` tasks; the library has half as many, but two at
least. -/
def files (n : Int) : List (Path × String) :=
  [(pipelinePlace, pipeline n.toNat), (importerPlace, importer n), (brokenPlace, broken),
    (libraryPlace, taskLibrary (max 2 (n / 2).toNat)), (subPlace, subWorkflow)]

/-- A further source of the project, in a directory of its own. -/
def furtherFile (i : Nat) : Path × String :=
  (Path.ofText s!"more/d{i}/wf{i}.wdl", subWorkflow)

/-- The steps that write a file and the directories above it. -/
def placeFile (root : Path) (file : Path × String) : List FileTree.Step :=
  [FileTree.makeDirs root (root.join file.1).parent,
    FileTree.writeText root (root.join file.1) file.2]

/-- The tree with the given files below a root. -/
def treeOf (root : Path) (files : List (Path × String)) : FileTree :=
  (FileTree.run (files.flatMap (placeFile root)) {}).1

end WorkflowDocs.Sample
