import WorkflowDocs.Catalog.Document
import WorkflowDocs.Component.Datum

/-!
# Entries of a document as data

The entries of a document can be given to components. Each has its fields, and what follows from
them.

## Main definitions

* `TypeInfo.datum`, `InputInfo.datum`, `OutputInfo.datum`, `ImportInfo.datum`, `TaskInfo.datum`,
  `CallInfo.datum`, `ImageInfo.datum`, `WorkflowInfo.datum`, `DocumentInfo.datum`: the entries
-/

namespace WorkflowDocs

open Datum (ofText ofText? ofBool ofNat ofFields)

mutual

/-- A type. -/
def TypeInfo.datum : TypeInfo → Datum
  | ⟨name, optional, isStruct, fields⟩ =>
    .entry "WDLType" (some (TypeInfo.text ⟨name, optional, isStruct, fields⟩))
      [("name", ofText name), ("optional", ofBool optional), ("is_struct", ofBool isStruct),
        ("struct_fields", TypeInfo.fieldsDatum fields)]
      [("field_count", ofNat (TypeInfo.fieldCount ⟨name, optional, isStruct, fields⟩))]

/-- The fields of a struct. -/
def TypeInfo.fieldsDatum : Option (List (String × TypeInfo)) → Datum
  | none => .plain .null
  | some fields => .table (TypeInfo.fieldData fields)

/-- The named types of fields. -/
def TypeInfo.fieldData : List (String × TypeInfo) → List (String × Datum)
  | [] => []
  | (name, type) :: fields => (name, type.datum) :: TypeInfo.fieldData fields

end

/-- The description of a parameter. -/
def Note.datum : Note → Datum
  | .text s => ofText s
  | .value v => .plain v

/-- An input. -/
def InputInfo.datum (i : InputInfo) : Datum :=
  .entry "WDLInput" none
    [("name", ofText i.name), ("type", i.type.datum),
      ("description", i.description.elim (.plain .null) Note.datum),
      ("default_value", ofText? i.default)]
    [("has_default", ofBool i.hasDefault), ("is_struct", ofBool i.isStruct)]

/-- An output. -/
def OutputInfo.datum (o : OutputInfo) : Datum :=
  .entry "WDLOutput" none
    [("name", ofText o.name), ("type", o.type.datum), ("description", ofText? o.description),
      ("expression", ofText? o.expression)]
    []

/-- An import. -/
def ImportInfo.datum (i : ImportInfo) : Datum :=
  .entry "WDLImport" none
    [("path", ofText i.address), ("namespace", ofText? i.scope),
      ("resolved_path", i.resolved.elim (.plain .null) .path)]
    [("display_name", ofText i.displayName)]

/-- A command. -/
def CommandInfo.datum (c : CommandInfo) : Datum :=
  .entry "WDLCommand" none
    [("raw_command", Datum.ofText c.raw), ("formatted_command", Datum.ofText c.formatted)] []

/-- A task. -/
def TaskInfo.datum (t : TaskInfo) : Datum :=
  .entry "WDLTask" none
    [("name", ofText t.name), ("description", ofText? t.description),
      ("inputs", .list (t.inputs.map InputInfo.datum)),
      ("outputs", .list (t.outputs.map OutputInfo.datum)),
      ("command", t.command.elim (.plain .null) CommandInfo.datum),
      ("runtime", ofFields t.runtime), ("meta", ofFields t.metadata),
      ("author", ofText? t.author), ("email", ofText? t.email)]
    [("has_description", ofBool t.description.isSome), ("has_author", ofBool t.author.isSome),
      ("has_email", ofBool t.email.isSome), ("has_inputs", ofBool !t.inputs.isEmpty),
      ("has_outputs", ofBool !t.outputs.isEmpty), ("has_command", ofBool t.command.isSome),
      ("has_runtime", ofBool !t.runtime.isEmpty)]

/-- A call. -/
def CallInfo.datum (c : CallInfo) : Datum :=
  .entry "WDLCall" none
    [("name", ofText c.name), ("task_or_workflow", ofText c.target),
      ("alias", ofText? c.aliasName), ("inputs_mapping", ofFields c.inputs),
      ("is_local", ofBool c.isLocal), ("link_target", ofText? c.link),
      ("call_type", ofText c.kind.label)]
    [("display_name", ofText c.displayName), ("is_external", ofBool !c.isLocal),
      ("is_workflow_call", ofBool (c.kind == .workflow)),
      ("is_task_call", ofBool (c.kind == .task))]

/-- An image. -/
def ImageInfo.datum (i : ImageInfo) : Datum :=
  .entry "WDLDockerImage" none
    [("image", ofText i.image), ("task_names", .list (i.tasks.map ofText)),
      ("is_parameterized", ofBool i.isParameterized), ("parameter_name", ofText? i.parameter),
      ("default_value", ofText? i.default)]
    [("display_image", ofText i.display), ("short_name", ofText i.shortName),
      ("task_count", ofNat i.taskCount)]

/-- A workflow. -/
def WorkflowInfo.datum (w : WorkflowInfo) : Datum :=
  .entry "WDLWorkflow" none
    [("name", ofText w.name), ("description", ofText? w.description),
      ("inputs", .list (w.inputs.map InputInfo.datum)),
      ("outputs", .list (w.outputs.map OutputInfo.datum)),
      ("calls", .list (w.calls.map CallInfo.datum)),
      ("docker_images", .list (w.images.map ImageInfo.datum)), ("mermaid_graph", ofText? w.graph),
      ("meta", ofFields w.metadata), ("author", ofText? w.author), ("email", ofText? w.email)]
    [("has_description", ofBool w.description.isSome), ("has_author", ofBool w.author.isSome),
      ("has_email", ofBool w.email.isSome), ("has_inputs", ofBool !w.inputs.isEmpty),
      ("has_outputs", ofBool !w.outputs.isEmpty), ("has_calls", ofBool !w.calls.isEmpty),
      ("has_docker_images", ofBool !w.images.isEmpty), ("has_graph", ofBool w.hasGraph)]

/-- A document. -/
def DocumentInfo.datum (d : DocumentInfo) : Datum :=
  .entry "WDLDocument" none
    [("file_path", .path d.filePath), ("relative_path", .path d.relativePath),
      ("version", ofText d.version), ("workflow", d.workflow.elim (.plain .null) WorkflowInfo.datum),
      ("tasks", .list (d.tasks.map TaskInfo.datum)),
      ("imports", .list (d.imports.map ImportInfo.datum)), ("source_code", ofText? d.source)]
    [("name", ofText d.name), ("has_workflow", ofBool d.workflow.isSome),
      ("has_tasks", ofBool !d.tasks.isEmpty), ("has_imports", ofBool !d.imports.isEmpty),
      ("document_type", ofText d.kind.label), ("is_external", ofBool d.isExternal),
      ("description", ofText? d.description)]

end WorkflowDocs
