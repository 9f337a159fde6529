import WorkflowDocs.Component.Badge
import WorkflowDocs.Component.Table
import WorkflowDocs.Html.InventoryList
import WorkflowDocs.Html.Section

/-!
# Sections as components

## Main definitions

* `Datum.callerItem`, `Datum.callItem`, `Datum.imageItem`, `Datum.taskItem`, `Datum.repositoryItem`:
  the items that data make
* `Component.workflowHeader` and the others: the sections
-/

namespace WorkflowDocs

namespace Datum

/-- A caller on the page of a source. -/
def callerItem (source d : Datum) : Except RenderError Html.CallerItem := do
  let link ← linkFrom source (← d.field "url")
  return ⟨← d.fieldText "name", ← d.fieldText "file_path", link⟩

/-- Where a call leads from the page of a source. -/
def callLink (source d : Datum) : Except RenderError Html.CallLink := do
  let link ← d.field "link_target"
  if !link.isTruthy then return .nowhere
  else if ← d.fieldTruthy "is_local" then return .here (← link.text)
  else return .away (← linkFrom source link)

/-- The inputs of a call with their number. -/
def callInputs (d : Datum) : Except RenderError (Option (String × List (String × String))) := do
  let inputs ← d.field "inputs_mapping"
  if inputs.isTruthy then
    let count ← inputs.length
    return some (Decimal.natText count, ← inputs.pairRows)
  else return none

/-- A call on the page of a source. -/
def callItem (source d : Datum) : Except RenderError Html.CallItem := do
  return {
    isWorkflow := ← d.fieldTruthy "is_workflow_call"
    name := ← d.fieldText "display_name"
    link := ← callLink source d
    target := ← d.fieldText "task_or_workflow"
    hasAlias := ← d.fieldTruthy "alias"
    inputs := ← d.callInputs }

/-- The texts of the items of a datum. -/
def itemTexts (d : Datum) : Except RenderError (List String) := do
  (← d.items).mapM text

/-- An image. -/
def imageItem (d : Datum) : Except RenderError Html.ImageItem := do
  return {
    isParameterized := ← d.fieldTruthy "is_parameterized"
    shortName := ← d.fieldText "short_name"
    image := ← d.fieldText "image"
    parameter := ← d.fieldPresent "parameter_name"
    count := ← (← d.field "task_count").counted
    tasks := ← (← d.field "task_names").itemTexts }

/-- What is made of a field, if the other field that announces it counts as present. -/
def announced {α : Type} (d : Datum) (mark : String) (make : Except RenderError α) :
    Except RenderError (Option α) := do
  if ← d.fieldTruthy mark then some <$> make else return none

/-- A task. -/
def taskItem (d : Datum) : Except RenderError Html.TaskItem := do
  return {
    name := ← d.fieldText "name"
    description := ← d.fieldPresent "description"
    author := ← d.fieldPresent "author"
    email := ← d.fieldPresent "email"
    inputs := ← d.announced "has_inputs" do (← d.field "inputs").inputRows
    command := ← d.announced "has_command" do (← d.field "command").fieldText "formatted_command"
    outputs := ← d.announced "has_outputs" do (← d.field "outputs").outputRows
    runtime := ← d.announced "has_runtime" do (← d.field "runtime").pairRows }

/-- A use of an image. -/
def usageItem (d : Datum) : Except RenderError Html.UsageItem := do
  return {
    task := ← d.fieldText "task_name"
    workflow := ← d.fieldText "workflow_name"
    file := ← d.fieldText "file_path"
    link := ← d.fieldText "workflow_url" }

/-- The image at a position of a repository. -/
def storedItem (isExternal : Bool) (repository : String) (d : Datum) (position : Nat) :
    Except RenderError Html.StoredItem := do
  return {
    id := Html.imageId repository position
    fullName := ← d.fieldText "full_name"
    name := ← d.fieldText "name"
    tag := ← d.fieldPresent "tag"
    isParameterized := ← d.fieldTruthy "is_parameterized"
    default := ← if isExternal then d.fieldPresent "default_value" else .ok none
    count := ← (← d.field "task_count").counted
    usages := ← (← (← d.field "tasks").items).mapM usageItem }

/-- The repository at a position of a shelf, which is counted from `offset`. -/
def repositoryItem (isExternal : Bool) (offset : Datum) (entry : Datum × Datum)
    (position : Nat) : Except RenderError Html.RepositoryItem := do
  let number ← (← offset.addTo position).text
  let name ← entry.1.text
  let count ← Component.itemCount (← entry.2.field "image_count") (ofText "image") (.plain .null)
  let images ← (← entry.2.field "images").items
  return ⟨name, count, ← images.zipIdx.mapM fun (d, k) => d.storedItem isExternal number k⟩

end Datum

namespace Component

/-- The header of a workflow. -/
def workflowHeader : Component where
  parameters := ["workflow_name", ⟨"has_graph", .ofBool false⟩, ⟨"has_source", .ofBool false⟩]
  make := fun p => do
    return Html.workflowHeader (← p.text "workflow_name") (p.has "has_graph") (p.has "has_source")

/-- Who wrote a part and how to reach them. -/
def authorInfo : Component where
  parameters := [⟨"author", .plain .null⟩, ⟨"email", .plain .null⟩]
  make := fun p => do
    return Html.authorInfo (← p.present "author") (← p.present "email")

/-- The header of the tasks. -/
def tasksHeader : Component where
  parameters := [⟨"has_source", .ofBool false⟩]
  make := fun p => .ok (Html.tasksHeader (p.has "has_source"))

/-- The callers of a workflow. -/
def usageBanner : Component where
  parameters := ["workflow_call_info", "doc_relative_path"]
  make := fun p => do
    let info := p.get "workflow_call_info"
    let count ← (← info.field "count").counted
    let callers ← (← (← info.field "workflows").items).mapM
      (Datum.callerItem (p.get "doc_relative_path"))
    return Html.usageBanner count callers

/-- A call. -/
def callBlock : Component where
  parameters := ["call", "doc_relative_path"]
  make := fun p => (Datum.callItem (p.get "doc_relative_path") (p.get "call")).map Html.callBlock

/-- The images of a workflow. -/
def imagesGrid : Component where
  parameters := ["docker_images"]
  make := fun p => do
    return Html.imagesGrid (← (← (p.get "docker_images").items).mapM Datum.imageItem)

/-- A task. -/
def taskCard : Component where
  parameters := ["task"]
  make := fun p => (p.get "task").taskItem.map Html.taskCard

/-- A shelf of the image inventory. -/
def inventoryList : Component where
  parameters := ["repositories", ⟨"repo_index_offset", .ofNat 0⟩, ⟨"is_external", .ofBool false⟩]
  make := fun p => do
    let isExternal := p.has "is_external"
    let entries ← (p.get "repositories").entries
    return Html.inventoryList isExternal (← entries.zipIdx.mapM fun (e, k) =>
      Datum.repositoryItem isExternal (p.get "repo_index_offset") e k)

end Component

end WorkflowDocs
