import WorkflowDocs.Catalog.Document

/-!
# Sample documents

A catalog of any size. Its documents differ by their number: every third comes from a third party,
some have no tasks, some no workflow; the last one is empty.

## Main definitions

* `Sample.workflow`, `Sample.taskInfo`: a documented workflow and a documented task
* `Sample.document`, `Sample.documents`: a document, and a catalog
-/

namespace WorkflowDocs.Sample

/-- The value for every number that is not a multiple of `k` plus `r`. -/
def unlessEvery {α : Type} (k r i : Nat) (a : α) : Option α :=
  if i % k = r then none else some a

/-- The inputs of the elements of a document: a file, a struct, and a text with a default. -/
def inputs (i : Nat) : List InputInfo :=
  [{ name := "seed"
     type := ⟨"File", false, false, none⟩
     description := some (.text "seed") },
    { name := "sample"
      type := ⟨s!"Sample{i}", false, true,
        some [("id", ⟨"String", false, false, none⟩), ("lane", ⟨"Int", true, false, none⟩)]⟩ },
    { name := "opt", type := ⟨"String", true, false, none⟩, default := some "\"x\"" }]

/-- The outputs of the elements of a document. -/
def outputs : List OutputInfo :=
  [{ name := "done", type := ⟨"File", false, false, none⟩, expression := some "T0.out" }]

/-- The call of an element; every third one leaves the document, every fourth is a workflow. -/
def callInfo (j : Nat) : CallInfo where
  name := s!"Task{j}"
  target := s!"Task{j}"
  aliasName := unlessEvery 2 0 j s!"T{j}"
  inputs := [("inp", "seed")]
  isLocal := j % 3 != 0
  link := some (if j % 3 = 0 then s!"other{j}.html" else s!"#task-Task{j}")
  kind := if j % 4 = 0 then .workflow else .task

/-- The images of a workflow: a fixed one, one given by a parameter, and one without a tag. -/
def images (i : Nat) (tasks : Int) : List ImageInfo :=
  [{ image := s!"quay.io/org/tool{i}:{i}.0"
     tasks := (List.range tasks.toNat).map fun j => s!"Task{j}" },
    { image := "docker_image"
      tasks := [s!"Task{tasks - 1}"]
      isParameterized := true
      parameter := some "docker_image"
      default := unlessEvery 2 0 i s!"gcr.io/proj/img{i}:latest" },
    { image := "ubuntu", tasks := ["Lit0"] }]

/-- The workflow of a document. -/
def workflow (i : Nat) (tasks : Int) : WorkflowInfo where
  name := s!"Pipeline{i}"
  description := unlessEvery 2 1 i s!"Pipeline {i}"
  inputs := inputs i
  outputs := outputs
  calls := (List.range tasks.toNat).map callInfo
  images := images i tasks
  graph := some "flowchart TD\n  A-->B"
  metadata := [("author", "A"), ("email", "e")]
  author := some "A"
  email := some "e"

/-- A task of a document. -/
def taskInfo (i j : Nat) : TaskInfo where
  name := s!"Task{j}"
  description := unlessEvery 2 1 j s!"task {j}"
  inputs := inputs i
  outputs := outputs
  command := some ⟨"echo hi", "echo hi"⟩
  runtime := [("docker", "ubuntu")]
  metadata := [("author", "A")]
  author := unlessEvery 2 0 j "A"
  email := unlessEvery 3 0 j "e"

/-- The place of a document; every third one is in the directory of a third party. -/
def place (i : Nat) : String :=
  if i % 3 = 0 then s!"external/vendor{i}/pipe{i}.wdl" else s!"workflows/v{i}/pipe{i}.wdl"

/-- The root of the catalog. -/
def catalogRoot : Path :=
  Path.ofText "/tmp"

/-- The document with a number. -/
def document (tasks : Int) (i : Nat) : DocumentInfo where
  filePath := catalogRoot.join (Path.ofText (place i))
  relativePath := Path.ofText (place i)
  workflow := unlessEvery 5 4 i (workflow i tasks)
  tasks := if i % 4 = 3 then [] else (List.range tasks.toNat).map (taskInfo i)
  imports :=
    [{ address := "../external/sub.wdl"
       scope := some "sub"
       resolved := some (catalogRoot.join (Path.ofText "external/sub.wdl")) },
      { address := "lib.wdl" }]
  source := some "version 1.0\n"

/-- A document without content. -/
def emptyDocument : DocumentInfo where
  filePath := catalogRoot.child "empty.wdl"
  relativePath := Path.ofText "empty.wdl"

/-- A catalog of the given number of documents and an empty one. -/
def documents (n tasks : Int) : List DocumentInfo :=
  (List.range n.toNat).map (document tasks) ++ [emptyDocument]

end WorkflowDocs.Sample
