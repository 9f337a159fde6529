import WorkflowDocs.Html.Layout
import WorkflowDocs.Html.Section

/-!
# Document pages

The page of a document shows its imports, its workflow and its tasks, and the workflows that call
it.

## Main definitions

* `Page`: a page and its place in the site
* `documentPage`: the page of a document
-/

namespace WorkflowDocs

/-- A page and its place in the site. -/
structure Page where
  path : Path
  content : Html
  deriving Inhabited

namespace Html

/-- The header of a document page. -/
def documentHeader (d : DocumentInfo) : Html :=
  markup "    " ++ text d.name ++ markup r#"
    <div style="font-size: 14px; font-weight: normal; margin-top: 10px;">
        <code>"# ++ text d.relativePath.text ++ markup r#"</code>
    </div>
"#

/-- The links to the parts of a document page. -/
def documentNavigation (d : DocumentInfo) : Html :=
  let has := fun (part : WorkflowInfo → Bool) => d.workflow.any part
  markup r#"    <span style="color: #ecf0f1;">|</span>
"# ++ only (!d.imports.isEmpty) (markup "<a href=\"#imports\">Imports</a>") ++
    only (has (!·.inputs.isEmpty)) (markup "<a href=\"#inputs\">Inputs</a>") ++
    only (has (!·.outputs.isEmpty)) (markup "<a href=\"#outputs\">Outputs</a>") ++
    only (has (!·.calls.isEmpty)) (markup "<a href=\"#calls\">Calls</a>") ++
    only (has (!·.images.isEmpty)) (markup "<a href=\"#docker-images\">Images</a>") ++
    only (!d.tasks.isEmpty) (markup "<a href=\"#tasks\">Tasks</a>")

/-- The number of characters of a description that the list of tasks shows. -/
def taskSummaryLength : Nat := 100

/-- The beginning of a description. -/
def shortDescription (s : String) : Html :=
  text (Text.takeChars taskSummaryLength s) ++
    only (s.length > taskSummaryLength) (markup "...")

/-- The entry of a task in the list of tasks. -/
def taskSummary (t : TaskInfo) : Html :=
  markup "                <li style=\"margin-bottom: 8px;\">\n                    <a href=\"#task-" ++ text t.name ++ markup r#"" 
                       style="color: #3498db; text-decoration: none; display: block; padding: 8px 12px; border-radius: 6px; border-left: 3px solid #3498db; background-color: rgba(52, 152, 219, 0.05); transition: all 0.2s;"
                       onmouseover="this.style.backgroundColor='rgba(52, 152, 219, 0.15)'; this.style.borderLeftColor='#5dade2';" 
                       onmouseout="this.style.backgroundColor='rgba(52, 152, 219, 0.05)'; this.style.borderLeftColor='#3498db';">
                        <div style="display: flex; align-items: start; gap: 10px;">
                            <span style="font-family: 'Courier New', monospace; font-weight: 600; color: #3498db; flex-shrink: 0;">"# ++ text t.name ++ markup "</span>\n" ++
    (presentText t.description).elim [] (fun s => markup r#"                            <span style="color: #95a5a6; font-size: 13px; line-height: 1.4;">"# ++ shortDescription s ++ markup "</span>\n") ++
    markup r#"                        </div>
                    </a>
                </li>
"#

/-- The list of tasks. -/
def taskSummaries (tasks : List TaskInfo) : Html :=
  only (!tasks.isEmpty) (markup r#"        <div style="margin-top: 20px; padding-top: 20px; border-top: 1px solid #34495e;">
            <h3 style="margin-bottom: 15px; font-size: 16px; color: #ecf0f1;">
                <span style="margin-right: 8px;">📋</span>Tasks in this document
            </h3>
            <ul style="list-style: none; padding: 0; margin: 0;">
"# ++ each tasks taskSummary ++ markup r#"            </ul>
        </div>
"#)

/-- The label of a document. -/
def documentBadge (d : DocumentInfo) : Html :=
  match d.kind with
  | .workflow | .mixed => workflowBadge
  | .tasks => tasksBadge
  | .empty => fileBadge

/-- The first card of a document page. -/
def documentCard (d : DocumentInfo) : Html :=
  markup r#"    <div class="card">
        <h2>
"# ++ markup "                " ++ documentBadge d ++ markup "\n" ++ markup "            " ++ text d.name ++
    markup r#"
        </h2>
        "# ++ d.infoTable ++ markup r#"
        
"# ++ taskSummaries d.tasks ++ markup "    </div>\n"

/-- The imports of a document. -/
def importsSection (imports : List ImportInfo) : Html :=
  only (!imports.isEmpty) (markup r#"        <div class="card section" id="imports">
            <h2>Imports</h2>
            "# ++ importsTable (imports.map ImportInfo.row) ++ markup r#"
        </div>
"#)

/-- The inputs of a workflow. -/
def workflowInputs (inputs : List InputInfo) : Except RenderError Html :=
  if inputs.isEmpty then .ok []
  else (inputRows inputs).map fun rows => markup r#"                <h3 id="inputs">Inputs</h3>
                "# ++ inputsTable rows ++ markup "\n"

/-- The workflow of a document with its callers. -/
def workflowSection (d : DocumentInfo) (callers : List Caller) (w : WorkflowInfo) :
    Except RenderError Html := do
  let inputs ← workflowInputs w.inputs
  return markup r#"        <div class="card section" id="workflow">
            "# ++ workflowHeader w.name w.hasGraph (presentText d.source).isSome ++
    markup "\n" ++ descriptionLine w.description ++ markup "            " ++
    authorInfo w.author w.email ++ markup "\n" ++
    only (!callers.isEmpty) (usageBanner (.ofNat callers.length) (callers.map (·.item d.relativePath))) ++ inputs ++
    only (!w.outputs.isEmpty) (markup r#"                <h3 id="outputs">Outputs</h3>
                "# ++ outputsTable (w.outputs.map OutputInfo.row) ++ markup "\n") ++
    only (!w.calls.isEmpty)
      (markup r#"                <h3 id="calls">Calls</h3>
                <p class="description">This workflow calls the following tasks or subworkflows:</p>
"# ++ each w.calls (fun c => callBlock (c.item d.relativePath))) ++
    only (!w.images.isEmpty) (markup r#"                <h3 id="docker-images">Images</h3>
                <p class="description">Container images used by tasks in this workflow:</p>
                "# ++ imagesGrid (w.images.map ImageInfo.item) ++ markup "\n") ++
    markup "        </div>\n"

/-- The tasks of a document. -/
def tasksSection (d : DocumentInfo) : Except RenderError Html :=
  if d.tasks.isEmpty then .ok []
  else do
    let tasks ← d.tasks.mapM TaskInfo.item
    return markup r#"        <div class="section" id="tasks">
            "# ++ tasksHeader (presentText d.source).isSome ++ markup "\n" ++
      each tasks taskCard ++ markup "        </div>\n"

/-- The dialogs of a document page. -/
def documentModals (d : DocumentInfo) : Html :=
  (d.workflow.elim [] fun w => (presentText w.graph).elim [] fun graph =>
    markup "        " ++ graphModal w.name graph ++ markup "\n") ++
  (presentText d.source).elim [] (sourceModal d.name)

/-- The content of a document page. -/
def documentContent (d : DocumentInfo) (callers : List Caller) (top : String) :
    Except RenderError Html := do
  let workflow ← d.workflow.elim (.ok []) (workflowSection d callers)
  let tasks ← tasksSection d
  return documentCard d ++ importsSection d.imports ++ workflow ++ tasks ++ markup r#"    <div class="card section">
        <a href=""# ++
    text top ++ markup r#"index.html">← Back to Index</a>
    </div>
"# ++ documentModals d

/-- The title of a document page. -/
def documentTitle (d : DocumentInfo) : Html :=
  text d.name ++ markup " - WDL Atlas"

end Html

/-- The way from the page of a source to the top of the site. -/
def Path.wayToTop (source : Path) : String :=
  let depth := source.normalize.parts.length - 1
  if depth = 0 then "./" else Path.climb depth

/-- The inputs of a document: those of its workflow and of its tasks. -/
def DocumentInfo.inputs (d : DocumentInfo) : List InputInfo :=
  d.workflow.elim [] (·.inputs) ++ d.tasks.flatMap (·.inputs)

/-- Whether a text that the page of a document shows cannot be stored: it has half of a character
pair in it. Only the value of a note can have one, where an escape names it; the texts of a source,
its names and its path are made of whole characters. -/
def DocumentInfo.showsHalf (d : DocumentInfo) : Bool :=
  d.inputs.any fun i => i.description.any Note.isHalf

/-- Fails when nothing can stand at a path. -/
def checkPath (p : Path) : Except RenderError Unit :=
  p.fault?.elim (.ok ()) fun fault => .error (.badPath fault)

/-- The page of a document; the callers of its workflow are looked for in `all`. Its directory is
made before it, and it is stored when it is complete. -/
def documentPage (look : Appearance) (d : DocumentInfo) (all : List DocumentInfo) :
    Except RenderError Page := do
  let path ← (Path.page? d.relativePath).elim (.error .namelessSource) .ok
  checkPath path.parent
  let callers ← (callers? d all).elim (.error .namelessSource) .ok
  let top := d.relativePath.wayToTop
  let content ← Html.documentContent d callers top
  checkPath path
  if d.showsHalf then .error .halfCharacter
  else return ⟨path, Html.layout look top (Html.documentTitle d) (Html.documentHeader d)
    (Html.documentNavigation d) content⟩

end WorkflowDocs
