import WorkflowDocs.Component.Basic
import WorkflowDocs.Html.Table

/-!
# Tables as components

## Main definitions

* `Datum.inputRow`, `Datum.structRow`, `Datum.inputRows`, `Datum.outputRow`, `Datum.pairRows`: the
  rows that data make
* `Component.inputsTable` and the others: the tables
-/

namespace WorkflowDocs

namespace Datum

/-- The row of an input. -/
def inputRow (d : Datum) : Except RenderError Html.InputRow := do
  return {
    name := ← d.fieldText "name"
    type := ← d.fieldText "type"
    description := ← d.fieldPresent "description"
    default := ← d.fieldPresent "default_value"
    given := ← d.fieldText "default_value" }

/-- The texts of two data. -/
def textPair (p : Datum × Datum) : Except RenderError (String × String) := do
  return (← p.1.text, ← p.2.text)

/-- The texts of the entries of a dictionary or a table. -/
def pairRows (d : Datum) : Except RenderError (List (String × String)) := do
  (← d.entries).mapM textPair

/-- The rows of an input that is a struct. -/
def structRow (d : Datum) : Except RenderError Html.StructRow := do
  let type ← d.field "type"
  let count ← (← type.field "field_count").counted
  let input ← d.inputRow
  return ⟨input, count, ← (← type.field "struct_fields").pairRows⟩

/-- The rows of a table of inputs. -/
def inputRows (d : Datum) : Except RenderError Html.InputRows := do
  let inputs ← d.items
  let isStruct ← inputs.mapM (·.fieldTruthy "is_struct")
  let hasDefault ← inputs.mapM (·.fieldTruthy "has_default")
  let marked := inputs.zip (isStruct.zip hasDefault)
  let group := fun (wanted : Bool × Bool → Bool) =>
    (marked.filter fun m => wanted m.2).map (·.1)
  return {
    structs := ← (group (·.1)).mapM structRow
    required := ← (group fun m => !m.1 && !m.2).mapM inputRow
    defaulted := ← (group fun m => !m.1 && m.2).mapM inputRow }

/-- The row of an output. -/
def outputRow (d : Datum) : Except RenderError Html.OutputRow := do
  return {
    name := ← d.fieldText "name"
    type := ← d.fieldText "type"
    expression := ← d.fieldPresent "expression" }

/-- The rows of a table of outputs. -/
def outputRows (d : Datum) : Except RenderError (List Html.OutputRow) := do
  (← d.items).mapM outputRow

/-- The row of an import. -/
def importRow (d : Datum) : Except RenderError (Option String × String) := do
  return (← d.fieldPresent "namespace", ← d.fieldText "path")

/-- The first two items of a datum. -/
def firstTwo (d : Datum) : Except RenderError (Datum × Datum) := do
  return (← d.item 0, ← d.item 1)

end Datum

namespace Component

/-- The table of inputs. -/
def inputsTable : Component where
  parameters := ["inputs"]
  make := fun p => (p.get "inputs").inputRows.map Html.inputsTable

/-- The row of an input. -/
def inputRow : Component where
  parameters := ["inp"]
  make := fun p => (p.get "inp").inputRow.map Html.inputRow

/-- The rows of an input that is a struct. -/
def structInputRow : Component where
  parameters := ["inp"]
  make := fun p => (p.get "inp").structRow.map Html.structInputRow

/-- The table of outputs. -/
def outputsTable : Component where
  parameters := ["outputs"]
  make := fun p => (p.get "outputs").outputRows.map Html.outputsTable

/-- The table of runtime settings. -/
def runtimeTable : Component where
  parameters := ["runtime_dict"]
  make := fun p => (p.get "runtime_dict").pairRows.map Html.runtimeTable

/-- The table of imports. -/
def importsTable : Component where
  parameters := ["imports"]
  make := fun p => do
    return Html.importsTable (← (← (p.get "imports").items).mapM Datum.importRow)

/-- A table of two columns. -/
def twoColumnTable : Component where
  parameters := ["rows", ⟨"header1", .ofText "Key"⟩, ⟨"header2", .ofText "Value"⟩]
  make := fun p => do
    let left ← p.text "header1"
    let right ← p.text "header2"
    let rows ← (← (p.get "rows").items).mapM fun row => do Datum.textPair (← row.firstTwo)
    return Html.twoColumnTable rows left right

/-- The table that says where a document stands and what it consists of. -/
def documentInfoTable : Component where
  parameters := ["doc"]
  make := fun p => do
    let doc := p.get "doc"
    return Html.documentInfoTable (← doc.fieldText "relative_path") (← doc.fieldText "version")
      (← doc.fieldText "document_type")

end Component

end WorkflowDocs
