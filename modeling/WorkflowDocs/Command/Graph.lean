import WorkflowDocs.FileTree.Steps
import WorkflowDocs.Flowchart.Mermaid
import WorkflowDocs.Project.Discovery
import WorkflowDocs.Workspace.Load

/-!
# The graph of one workflow

The graph of a workflow as a Markdown file of its own.

## Main definitions

* `DocumentSource.shownWorkflow?`: the workflow that is shown
* `graphMarkdown`, `Workspace.graphText?`: the text of the file
* `Workspace.writeGraph`: reading a source and writing its graph
-/

namespace WorkflowDocs

/-- The workflow of a document, or of the first document it imports that has one. -/
def DocumentSource.shownWorkflow? (doc : DocumentSource) : Option WorkflowSource :=
  doc.workflow.or (doc.imports.findSome? fun i => i.target.bind (·.workflow))

/-- The text of the file with the graph of a workflow. The lines at its end that look like code are
part of it. -/
def graphMarkdown (name graph : String) (source : Path) : String :=
  Text.joinWith "\n"
    ["# " ++ name, "", "**Workflow Execution Graph**", "", "Source: `" ++ source.text ++ "`",
      "", "## Workflow Diagram", "", "```mermaid", graph, "```", "", "---", "",
      "content += f\"", "---", "", "\"", "        content += f\"*Generated by WDL Atlas*", "\"",
      "        return content", ""]

namespace Workspace

/-- The workflow that a source shows, if its path can be followed to it, it can be read and has
one. -/
def graphSource? (w : Workspace) (source : Path) : Option WorkflowSource :=
  if !w.tree.isUnanswerable w.cwd source && isSource w.tree w.cwd source then
    (w.load source).toOption.bind DocumentSource.shownWorkflow?
  else none

/-- The text of the file with the graph of a source. -/
def graphText? (w : Workspace) (source : Path) : Option String :=
  (w.graphSource? source).map fun workflow =>
    graphMarkdown workflow.name (Flowchart.render workflow) source

/-- The file tree with the graph of a source in the file `output`, and whether it could be written.
The file is opened before its text is written, so what was in it is lost either way. -/
def writeGraph (w : Workspace) (source output : Path) : FileTree × Bool :=
  match w.graphText? source with
  | none => (w.tree, false)
  | some text =>
    FileTree.run ([FileTree.makeDirs w.cwd output.parent, FileTree.openFile w.cwd output] ++
      FileTree.fill w.cwd output text (w.remnant? text)) w.tree

end Workspace

end WorkflowDocs
