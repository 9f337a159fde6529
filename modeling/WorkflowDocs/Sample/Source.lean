/-!
# Sample sources

Workflow sources of any size, as texts: a pipeline of tasks, a library of tasks, and a workflow
that imports from both.

## Main definitions

* `Sample.block`, `Sample.inline`: sections of a source
* `Sample.pipeline`, `Sample.taskLibrary`: sources with a given number of tasks
* `Sample.importer`, `Sample.subWorkflow`: a source that imports, and one that is imported
-/

namespace WorkflowDocs.Sample

/-- A line one level further in; an empty line stays empty. -/
def indented (line : String) : String :=
  if line = "" then line else "    " ++ line

/-- A section over several lines. -/
def block (head : String) (body : List String) : List String :=
  (head ++ " \x7b") :: (body.map indented ++ ["\x7d"])

/-- A section on one line. -/
def inline (head body : String) : String :=
  head ++ " \x7b " ++ body ++ " \x7d"

/-- A command section. -/
def command (lines : List String) : List String :=
  "command <<<" :: (lines.map indented ++ [">>>"])

/-- A reference to a value inside a command. -/
def hole (name : String) : String :=
  "~\x7b" ++ name ++ "\x7d"

/-- A text from its lines. -/
def textOf (lines : List String) : String :=
  "\n".intercalate lines

/-- The first lines of a source. -/
def header : List String :=
  ["version 1.0", ""]

/-! ## Tasks -/

/-- A task whose image is a parameter with a default. -/
def task (i : Nat) : List String :=
  block s!"task Task{i}"
    (block "input"
        [s!"File inp{i}", s!"Int threads{i} = {i}", s!"String? note{i}",
          s!"String docker_image{i} = \"quay.io/org/tool{i}:{i}.0\""] ++
      block "meta"
        [s!"description: \"Task {i} does work\"", s!"author: \"Author {i}\"",
          s!"email: \"a{i}@example.com\""] ++
      block "parameter_meta"
        [s!"inp{i}: \"raw input file {i}\"",
          s!"threads{i}: \x7bdescription: \"thread count {i}\", group: \"perf\"\x7d"] ++
      command
        ["set -euo pipefail",
          "echo \"processing " ++ hole s!"inp{i}" ++ " with " ++ hole s!"threads{i}" ++ "\"",
          "cat " ++ hole s!"inp{i}" ++ s!" > out{i}.txt"] ++
      block "runtime" [s!"docker: docker_image{i}", s!"cpu: threads{i}", "memory: \"4 GB\""] ++
      block "output" [s!"File out{i} = \"out{i}.txt\"", s!"Int code{i} = 0"])

/-- A task with a fixed image. -/
def literalTask (i : Nat) : List String :=
  block s!"task Lit{i}"
    ([inline "input" s!"File src{i}"] ++
      command ["wc -l " ++ hole s!"src{i}"] ++
      block "runtime" ["docker: \"ubuntu:20.04\""] ++
      [inline "output" s!"File r{i} = stdout()"])

/-- A call with one input. -/
def call (callee input value : String) : String :=
  inline ("call " ++ callee) ("input: " ++ input ++ " = " ++ value)

/-! ## Documents -/

/-- The call of a task on the result of the task before it. -/
def chainCall : Nat → String
  | 0 => call "Task0" "inp0" "seed"
  | i + 1 => call s!"Task{i + 1}" s!"inp{i + 1}" s!"Task{i}.out{i}"

/-- The calls of a pipeline on top of its chain: one in a loop, one in a condition of the loop, and
one in a condition. -/
def pipelineBlocks : List String :=
  ["Array[File] collected = [Task0.out0, Task0Again.out0]"] ++
    block "scatter (f in collected)"
      (call "Lit0" "src0" "f" :: block "if (threads_flag > 1)" [call "Lit1" "src1" "Lit0.r0"]) ++
    block "scatter (idx in range(length(collected)))" ["Int doubled = idx + idx"] ++
    block "if (threads_flag > 0)" [call "Lit2" "src2" "seed"] ++
    block "if (threads_flag > 5)" ["Int extra = threads_flag + 1"]

/-- The workflow of a pipeline of `last + 1` tasks. -/
def pipelineWorkflow (last : Nat) : List String :=
  block s!"workflow Pipeline{last + 1}"
    (block "input"
        ["File seed", "Int threads_flag = 2", "Sample sample", "Array[File] extras = []"] ++
      block "meta"
        [s!"description: \"Pipeline with {last + 1} tasks\"", "author: \"Bench Author\"",
          "email: \"bench@example.com\""] ++
      block "parameter_meta"
        ["seed: \"seed input file\"",
          "sample: \x7bdescription: \"sample struct\", help: \"x\"\x7d"] ++
      (List.range (last + 1)).map chainCall ++
      [call "Task0 as Task0Again" "inp0" s!"Task{last}.out{last}"] ++
      pipelineBlocks ++ [""] ++
      block "output" [s!"File final = Task{last}.out{last}", "Array[File] lit_results = Lit0.r0"])

/-- A pipeline of the given number of tasks, but at least two, with up to three tasks of a fixed
image. -/
def pipeline (n : Nat) : String :=
  let size := max n 2
  let tasks := (List.range size).map task ++ (List.range (min size 3)).map literalTask
  textOf (header ++ block "struct Sample" ["String id", "File data", "Int? lane"] ++ [""] ++
    pipelineWorkflow (size - 1) ++ [""] ++ tasks.flatMap (· ++ [""]) ++ [""])

/-- A library of the given number of tasks, but at least one. -/
def taskLibrary (n : Nat) : String :=
  textOf (header ++ [""].intercalate ((List.range (max n 1)).map task) ++ [""])

/-- A workflow that calls an imported workflow and an imported task. -/
def importer (n : Int) : String :=
  textOf (header ++
    ["import \"../external/sub.wdl\" as sub", "import \"../tasks/lib.wdl\" as lib", ""] ++
    block s!"workflow Main{n}"
      [inline "input" "File seed", call "sub.SubFlow" "seed" "seed",
        call "lib.Task0 as L0" "inp0" "SubFlow.out", inline "output" "File done = L0.out0"] ++
    [""])

/-- A workflow with a task of its own. -/
def subWorkflow : String :=
  textOf (header ++
    block "workflow SubFlow"
      [inline "input" "File seed", call "SubTask" "f" "seed",
        inline "output" "File out = SubTask.o"] ++
    [""] ++
    block "task SubTask"
      ([inline "input" "File f"] ++ command ["cat " ++ hole "f"] ++
        [inline "runtime" "docker: \"alpine\"", inline "output" "File o = stdout()"]) ++
    [""])

/-- A source that ends too early. -/
def broken : String :=
  textOf ["version 1.0", "workflow Broken \x7b call missing  ", ""]

end WorkflowDocs.Sample
