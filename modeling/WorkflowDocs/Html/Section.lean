import WorkflowDocs.Html.Badge
import WorkflowDocs.Html.Modal
import WorkflowDocs.Html.Table
import WorkflowDocs.Site.Callers

/-!
# Sections of a document page

The parts of the page of a document: headers, authors, callers, calls, images and tasks. Each part
shows texts only; how the entries of a document become parts is said at the end.

## Main definitions

* `Html.workflowHeader`, `Html.tasksHeader`: headers with their buttons
* `Html.authorInfo`: who wrote a part
* `Html.CallerItem`, `Html.usageBanner`: the callers of a workflow
* `Html.CallItem`, `Html.callBlock`: a call
* `Html.ImageItem`, `Html.imagesGrid`: the images of a workflow
* `Html.TaskItem`, `Html.taskCard`: a task
* `Caller.item`, `CallInfo.item`, `ImageInfo.item`, `TaskInfo.item`: the entries of a document
-/

namespace WorkflowDocs

namespace Html

/-- The header of a workflow. -/
def workflowHeader (name : String) (hasGraph hasSource : Bool) : Html :=
  markup r#"    <div style="display: flex;
                justify-content: space-between;
                align-items: center;
                margin-bottom: 16px">
        <h2 style="margin: 0;">Workflow: "# ++ text name ++ markup "</h2>\n" ++
    actionButtons (only hasGraph graphButton ++ only hasSource sourceButton) ++ markup "    </div>"

/-- The line of an author. -/
def authorLine (author : String) : Html :=
  markup r#"            <div style="display: flex; align-items: center; gap: 6px;">
                <svg width="16" height="16" viewBox="0 0 24 24" fill="none" stroke="currentColor" stroke-width="2">
                    <path d="M20 21v-2a4 4 0 0 0-4-4H8a4 4 0 0 0-4 4v2"></path>
                    <circle cx="12" cy="7" r="4"></circle>
                </svg>
                <span style="color: #c9d1d9;"><strong style="color: #58a6ff;">Author:</strong> "# ++ text author ++ markup r#"</span>
            </div>
"#

/-- The line of a mail address. -/
def emailLine (email : String) : Html :=
  markup r#"            <div style="display: flex; align-items: center; gap: 6px;">
                <svg width="16" height="16" viewBox="0 0 24 24" fill="none" stroke="currentColor" stroke-width="2">
                    <rect x="2" y="4" width="20" height="16" rx="2"></rect>
                    <path d="m22 7-8.97 5.7a1.94 1.94 0 0 1-2.06 0L2 7"></path>
                </svg>
                <a href="mailto:"# ++ text email ++ markup r#"" style="color: #58a6ff; text-decoration: none;">"# ++ text email ++ markup r#"</a>
            </div>
"#

/-- Who wrote a part and how to reach them, if either is known. -/
def authorInfo (author email : Option String) : Html :=
  let lines := ((presentText author).elim [] authorLine) ++ ((presentText email).elim [] emailLine)
  only (!lines.isEmpty) (markup r#"    <div style="margin: 12px 0;
                padding: 10px 14px;
                background: rgba(88, 166, 255, 0.08);
                border-radius: 6px;
                border-left: 3px solid #58a6ff;
                font-size: 14px;">
        <div style="display: flex; align-items: center; gap: 12px; flex-wrap: wrap;">
"# ++ lines ++ markup r#"        </div>
    </div>
"#)

/-- The header of the tasks. -/
def tasksHeader (hasSource : Bool) : Html :=
  markup r#"    <div style="display: flex;
                justify-content: space-between;
                align-items: center;
                margin-bottom: 16px">
        <h2 style="margin: 0;">Tasks</h2>
"# ++ only hasSource sourceButton ++ markup "    </div>"

/-- What is shown of a caller: its name, its source, and the link to its page. -/
structure CallerItem where
  name : String
  file : String
  link : String
  deriving DecidableEq, Repr, Inhabited

/-- A caller. -/
def callerItem (c : CallerItem) : Html :=
  markup r#"                <li style="margin: 4px 0;">
                    <a href=""# ++ text c.link ++ markup r#""
                       style="color: #ecf0f1;
                              text-decoration: underline">"# ++
    text c.name ++ markup r#"</a>
                    <span style="opacity: 0.8;"> - <code style="background: rgba(0,0,0,0.2);
              padding: 2px 6px;
              border-radius: 3px;
              font-size: 12px">"# ++ text c.file ++ markup r#"</code></span>
                </li>
"#

/-- The callers of a workflow and their number. -/
def usageBanner (count : Counted) (callers : List CallerItem) : Html :=
  markup r#"    <div style="margin: 16px 0;
                padding: 12px;
                background: linear-gradient(135deg, #1f6feb 0%, #8b5cf6 100%);
                border-radius: 8px;
                border-left: 4px solid #a371f7">
        <div style="display: flex;
                    align-items: center;
                    gap: 8px;
                    margin-bottom: 8px">
            <svg width="20"
                 height="20"
                 viewBox="0 0 24 24"
                 fill="none"
                 stroke="currentColor"
                 stroke-width="2"
                 style="flex-shrink: 0">
                <path d="M17 21v-2a4 4 0 0 0-4-4H5a4 4 0 0 0-4 4v2"></path>
                <circle cx="9" cy="7" r="4"></circle>
                <path d="M23 21v-2a4 4 0 0 0-3-3.87"></path>
                <path d="M16 3.13a4 4 0 0 1 0 7.75"></path>
            </svg>
            <strong style="font-size: 14px;">Subworkflow Usage</strong>
        </div>
        <p style="margin: 0; font-size: 14px;">
            This workflow is called as a subworkflow by <strong>"# ++ text count.shown ++ markup "</strong> other workflow" ++ count.ending ++ markup r#":
        </p>
        <ul style="margin: 8px 0 0 0; padding-left: 20px; font-size: 13px;">
"# ++
    each callers callerItem ++ markup r#"        </ul>
    </div>"#

/-- Where a call leads: nowhere, to a part of the same page, or to another page. -/
inductive CallLink where
  | nowhere
  | here (address : String)
  | away (address : String)
  deriving DecidableEq, Repr, Inhabited

/-- What is shown of a call: whether a workflow is called, its name and where it leads, what is
called, whether the call has a name of its own, and its inputs with their number. -/
structure CallItem where
  isWorkflow : Bool
  name : String
  link : CallLink
  target : String
  hasAlias : Bool
  inputs : Option (String × List (String × String))
  deriving DecidableEq, Repr, Inhabited

/-- The name of a call, with a link if it has one. -/
def callName (c : CallItem) : Html :=
  match c.link with
  | .nowhere => markup "                <code>" ++ text c.name ++ markup "</code>\n"
  | .here link =>
    markup r#"                    <a href=""# ++ text link ++ markup r#"" class="call-link call-link-local">
                        <code>"# ++ text c.name ++ markup r#"</code>
                    </a>
"#
  | .away link =>
    markup r#"                    <a href=""# ++ text link ++ markup "#task-" ++
      text c.target ++ markup r#""
                       class="call-link call-link-external">
                        <code>"# ++ text c.name ++ markup r#"</code>
                        <span class="external-icon" title="Opens in another page">↗</span>
                    </a>
"#

/-- The inputs of a call. -/
def callInputs : Option (String × List (String × String)) → Html
  | none => markup r#"            <p class="description" style="margin-top: 10px;">No explicit input mappings</p>
"#
  | some (count, inputs) =>
    markup r#"            <details>
                <summary>Input Mappings ("# ++ text count ++ markup r#")</summary>
                <div class="table-wrapper">
                    <table>
                        <thead>
                            <tr>
                                <th>Input</th>
                                <th>Value</th>
                            </tr>
                        </thead>
                        <tbody>
"# ++
      each inputs (fun i => markup r#"                                <tr>
                                    <td>
                                        <code>"# ++ text i.1 ++ markup r#"</code>
                                    </td>
                                    <td>
                                        <code>"# ++ text i.2 ++ markup r#"</code>
                                    </td>
                                </tr>
"#) ++
      markup r#"                        </tbody>
                    </table>
                </div>
            </details>
"#

/-- A call. -/
def callBlock (c : CallItem) : Html :=
  markup r#"    <div class="call-block">
        <h4>
            "# ++ callBadge ++ markup "\n" ++ markup "                " ++
    (if c.isWorkflow then workflowBadge else tasksBadge) ++ markup "\n" ++
    callName c ++
    only c.hasAlias (markup r#"<span class="call-target">→ "# ++ text c.target ++ markup "</span>") ++
    markup "        </h4>\n" ++ callInputs c.inputs ++ markup "    </div>"

/-- What is shown of an image: the image itself, or the parameter that gives it, and the calls that
use it with their number. -/
structure ImageItem where
  isParameterized : Bool
  shortName : String
  image : String
  parameter : Option String
  count : Counted
  tasks : List String
  deriving DecidableEq, Repr, Inhabited

/-- The heading of an image. -/
def imageHeading (i : ImageItem) : Html :=
  if i.isParameterized then markup "                        <strong>Parameterized Image</strong>\n"
  else markup "                        <strong>" ++ text i.shortName ++ markup "</strong>\n"

/-- The name of an image, or of the parameter that gives it. -/
def imageBody (i : ImageItem) : Html :=
  if i.isParameterized then
    markup r#"                        <div class="docker-badge docker-badge-param">
                            <span>⚙️ Parameterized</span>
                        </div>
                        <p class="docker-image-text">
                            <small>Configured via input:</small>
                            <br>
                            <code>"# ++ text (i.parameter.getD "runtime parameter") ++ markup r#"</code>
                        </p>
"#
  else markup r#"                        <p class="docker-image-text">
                            <code>"# ++ text i.image ++ markup r#"</code>
                        </p>
"#

/-- An image with the calls that use it. -/
def imageCard (i : ImageItem) : Html :=
  markup r#"            <div class="docker-card "# ++ only i.isParameterized (markup "docker-parameterized") ++ markup r#"">
                <div class="docker-header">
                    <span class="docker-icon">🐳</span>
"# ++ imageHeading i ++
    markup r#"                </div>
                <div class="docker-body">
"# ++ imageBody i ++ markup r#"                    <div class="docker-tasks">
                        <strong>Used by "# ++ text i.count.shown ++ markup " task" ++
    i.count.ending ++ markup r#":</strong>
                        <ul class="task-list">
"# ++
    each i.tasks (fun task => markup r#"                                <li>
                                    <code>"# ++ text task ++ markup r#"</code>
                                </li>
"#) ++ markup r#"                        </ul>
                    </div>
                </div>
            </div>
"#

/-- The images of a workflow. -/
def imagesGrid (images : List ImageItem) : Html :=
  markup r#"    <div class="docker-images-grid">
"# ++ each images imageCard ++ markup "    </div>"

/-- A description, if there is one. -/
def descriptionLine (description : Option String) : Html :=
  (presentText description).elim [] fun s =>
    markup r#"<p class="description">"# ++ text s ++ markup "</p>"

/-- What is shown of a task. A table that is not there has no section. -/
structure TaskItem where
  name : String
  description : Option String
  author : Option String
  email : Option String
  inputs : Option InputRows
  command : Option String
  outputs : Option (List OutputRow)
  runtime : Option (List (String × String))
  deriving DecidableEq, Repr, Inhabited

/-- A task. -/
def taskCard (t : TaskItem) : Html :=
  markup r#"    <div class="card" id="task-"# ++ text t.name ++ markup r#"" style="margin-bottom: 20px;">
        <h3>"# ++ tasksBadge ++ markup " " ++ text t.name ++
    markup "</h3>\n" ++ descriptionLine t.description ++ markup "        " ++ authorInfo t.author t.email ++
    markup "\n" ++
    t.inputs.elim [] (fun rows => markup r#"            <h4>Inputs</h4>
            "# ++ inputsTable rows ++ markup "\n") ++
    t.command.elim [] (fun s => markup r#"            <h4>Command</h4>
            <pre><code class="language-bash">"# ++ text s ++ markup "</code></pre>\n") ++
    t.outputs.elim [] (fun rows => markup r#"            <h4>Outputs</h4>
            "# ++ outputsTable rows ++ markup "\n") ++
    t.runtime.elim [] (fun rows => markup r#"            <h4>Runtime</h4>
            "# ++ runtimeTable rows ++ markup "\n") ++
    markup "    </div>"

end Html

/-! ## Entries of a document -/

/-- A list that is there and not empty. -/
def presentList {α : Type} (xs : List α) : Option (List α) :=
  if xs.isEmpty then none else some xs

/-- A caller on the page of the source `source`. -/
def Caller.item (source : Path) (c : Caller) : Html.CallerItem :=
  ⟨c.name, c.file, Path.relativeLink (Path.ofText c.url) source⟩

/-- Where a call leads from the page of the source `source`. -/
def CallInfo.leadsTo (source : Path) (c : CallInfo) : Html.CallLink :=
  match presentText c.link with
  | none => .nowhere
  | some link =>
    if c.isLocal then .here link else .away (Path.relativeLink (Path.ofText link) source)

/-- A call on the page of the source `source`. -/
def CallInfo.item (source : Path) (c : CallInfo) : Html.CallItem where
  isWorkflow := c.kind == .workflow
  name := c.displayName
  link := c.leadsTo source
  target := c.target
  hasAlias := (presentText c.aliasName).isSome
  inputs := (presentList c.inputs).map fun inputs => (Decimal.natText inputs.length, inputs)

/-- An image of a workflow. -/
def ImageInfo.item (i : ImageInfo) : Html.ImageItem where
  isParameterized := i.isParameterized
  shortName := i.shortName
  image := i.image
  parameter := presentText i.parameter
  count := .ofNat i.taskCount
  tasks := i.tasks

/-- A task. -/
def TaskInfo.item (t : TaskInfo) : Except RenderError Html.TaskItem :=
  ((presentList t.inputs).mapM inputRows).map fun inputs =>
    { name := t.name
      description := t.description
      author := t.author
      email := t.email
      inputs := inputs
      command := t.command.map (·.formatted)
      outputs := (presentList t.outputs).map fun outputs => outputs.map OutputInfo.row
      runtime := presentList t.runtime }

end WorkflowDocs
