import WorkflowDocs.Catalog.Document
import WorkflowDocs.Html.Basic
import WorkflowDocs.Html.Error

/-!
# Tables

The tables of a document page. Inputs stand in three groups: structs, which list their fields,
then inputs without a default, then those with one, which are folded away.

A row shows texts only. How the entries of a document become rows is said beside each row.

## Main definitions

* `Html.InputRow`, `Html.StructRow`, `Html.InputRows`: the rows of inputs
* `Html.inputsTable`, `Html.inputRow`, `Html.structInputRow`: inputs
* `Html.outputsTable`, `Html.runtimeTable`, `Html.importsTable`: the other parts of a document
* `Html.twoColumnTable`, `Html.documentInfoTable`: general tables
-/

namespace WorkflowDocs

namespace Html

/-! ## Inputs -/

/-- What the row of an input shows. A description or a default that is not there is shown as a
dash; `given` is the default as it stands in a folded row. -/
structure InputRow where
  name : String
  type : String
  description : Option String := none
  default : Option String := none
  given : String := ""
  deriving DecidableEq, Repr, Inhabited

/-- What the rows of a struct show: its own row, the number of its fields, and their names and
types. -/
structure StructRow where
  input : InputRow
  count : Counted
  fields : List (String × String)
  deriving DecidableEq, Repr, Inhabited

/-- The rows of a table of inputs, in its three groups. -/
structure InputRows where
  structs : List StructRow := []
  required : List InputRow := []
  defaulted : List InputRow := []
  deriving DecidableEq, Repr, Inhabited

/-- A text, or a dash in place of none. -/
def orDash (s : Option String) : Html :=
  text (s.getD "-")

/-- The cell of a default, or of a dash in place of none. -/
def defaultCell : Option String → Html
  | some s => markup "                " ++ text s ++ markup "\n"
  | none => markup "                -\n"

/-- The row of an input. -/
def inputRow (i : InputRow) : Html :=
  markup r#"    <tr>
        <td>
            <code>"# ++ text i.name ++ markup r#"</code>
        </td>
        <td>
            <code>"# ++ text i.type ++ markup r#"</code>
        </td>
        <td>"# ++
    orDash i.description ++ markup r#"</td>
        <td>
"# ++ defaultCell i.default ++ markup r#"        </td>
    </tr>"#

/-- The row of a field of a struct. -/
def structFieldRow (parent : String) (field : String × String) : Html :=
  markup r#"        <tr class="struct-field-row" data-parent=""# ++ text parent ++ markup r#"">
            <td class="struct-field-name">
                <code>"# ++ text field.1 ++ markup r#"</code>
            </td>
            <td>
                <code>"# ++
    text field.2 ++ markup r#"</code>
            </td>
            <td>-</td>
            <td>-</td>
        </tr>
"#

/-- The rows of an input that is a struct: its own and those of its fields. -/
def structInputRow (r : StructRow) : Html :=
  markup r#"    <tr class="struct-row">
        <td>
            <details class="struct-details">
                <summary>
                    <code>"# ++ text r.input.name ++ markup r#"</code>
                    <span class="struct-info">("# ++ text r.count.shown ++ markup " field" ++
    r.count.ending ++ markup r#")</span>
                </summary>
            </details>
        </td>
        <td>
            <code>"# ++ text r.input.type ++ markup r#"</code>
        </td>
        <td>"# ++
    orDash r.input.description ++ markup r#"</td>
        <td>
"# ++ defaultCell r.input.default ++ markup r#"        </td>
    </tr>
"# ++
    each r.fields (structFieldRow r.input.name)

/-- The folded row of an input with a default. -/
def defaultInputRow (i : InputRow) : Html :=
  markup r#"                        <tr class="default-input-row" style="display: none;">
                            <td>
                                <code>"# ++ text i.name ++ markup r#"</code>
                            </td>
                            <td>
                                <code>"# ++ text i.type ++ markup r#"</code>
                            </td>
                            <td>"# ++
    orDash i.description ++ markup r#"</td>
                            <td>"# ++ text i.given ++ markup r#"</td>
                        </tr>
"#

/-- The rows of the inputs with a default, under a row that counts them. -/
def defaultInputRows (inputs : List InputRow) : Html :=
  only (!inputs.isEmpty)
    (markup r#"                    <tr class="default-inputs-row">
                        <td colspan="4">
                            <details class="default-inputs-details">
                                <summary>
                                    <span class="default-inputs-info">"# ++ number inputs.length ++ markup " optional input" ++ pluralEnding inputs.length ++
      markup " with default value" ++ pluralEnding inputs.length ++ markup r#"</span>
                                </summary>
                            </details>
                        </td>
                    </tr>
"# ++ each inputs defaultInputRow)

/-- The table of inputs. -/
def inputsTable (rows : InputRows) : Html :=
  markup r#"    <div class="table-wrapper">
        <table>
            <thead>
                <tr>
                    <th>Name</th>
                    <th>Type</th>
                    <th>Description</th>
                    <th>Default</th>
                </tr>
            </thead>
            <tbody>
"# ++ each rows.structs structInputRow ++ each rows.required inputRow ++
    defaultInputRows rows.defaulted ++ markup r#"            </tbody>
        </table>
    </div>"#

/-! ## The other parts of a document -/

/-- What the row of an output shows. -/
structure OutputRow where
  name : String
  type : String
  expression : Option String := none
  deriving DecidableEq, Repr, Inhabited

/-- The table of outputs. -/
def outputsTable (outputs : List OutputRow) : Html :=
  markup r#"    <div class="table-wrapper">
        <table>
            <thead>
                <tr>
                    <th>Name</th>
                    <th>Type</th>
                    <th>Expression</th>
                </tr>
            </thead>
            <tbody>
"# ++
    each outputs (fun o => markup r#"                    <tr>
                        <td>
                            <code>"# ++ text o.name ++ markup r#"</code>
                        </td>
                        <td>
                            <code>"# ++ text o.type ++
      markup r#"</code>
                        </td>
                        <td>
                            <code>"# ++ orDash o.expression ++ markup r#"</code>
                        </td>
                    </tr>
"#) ++
    markup r#"            </tbody>
        </table>
    </div>"#

/-- The table of runtime settings. -/
def runtimeTable (settings : List (String × String)) : Html :=
  markup r#"    <div class="table-wrapper">
        <table>
            <thead>
                <tr>
                    <th>Key</th>
                    <th>Value</th>
                </tr>
            </thead>
            <tbody>
"# ++
    each settings (fun s => markup r#"                    <tr>
                        <td>
                            <code>"# ++ text s.1 ++ markup r#"</code>
                        </td>
                        <td>
                            <code>"# ++ text s.2 ++ markup r#"</code>
                        </td>
                    </tr>
"#) ++
    markup r#"            </tbody>
        </table>
    </div>"#

/-- The table of imports: the scope of each, if it has one, and its address. -/
def importsTable (imports : List (Option String × String)) : Html :=
  markup r#"    <div class="table-wrapper">
        <table>
            <thead>
                <tr>
                    <th>Namespace</th>
                    <th>Path</th>
                </tr>
            </thead>
            <tbody>
"# ++
    each imports (fun i => markup r#"                    <tr>
                        <td>
                            <code>"# ++ orDash i.1 ++ markup r#"</code>
                        </td>
                        <td>
                            <code>"# ++ text i.2 ++
      markup r#"</code>
                        </td>
                    </tr>
"#) ++
    markup r#"            </tbody>
        </table>
    </div>"#

/-- A table of two columns. -/
def twoColumnTable (rows : List (String × String)) (left right : String) : Html :=
  markup r#"    <div class="table-wrapper">
        <table>
            <thead>
                <tr>
                    <th>"# ++ text left ++ markup r#"</th>
                    <th>"# ++ text right ++ markup r#"</th>
                </tr>
            </thead>
            <tbody>
"# ++
    each rows (fun r => markup r#"                    <tr>
                        <td>"# ++ text r.1 ++ markup r#"</td>
                        <td>"# ++ text r.2 ++ markup r#"</td>
                    </tr>
"#) ++
    markup r#"            </tbody>
        </table>
    </div>"#

/-- The table that says where a document stands, its version and what it consists of. -/
def documentInfoTable (place version kind : String) : Html :=
  markup r#"    <div class="table-wrapper">
        <table>
            <tr>
                <th style="width: 150px;">File Path</th>
                <td>
                    <code>"# ++ text place ++ markup r#"</code>
                </td>
            </tr>
            <tr>
                <th>WDL Version</th>
                <td>"# ++ text version ++ markup r#"</td>
            </tr>
            <tr>
                <th>Type</th>
                <td>"# ++
    text kind ++ markup r#"</td>
            </tr>
        </table>
    </div>"#

end Html

/-! ## Rows of the entries of a document -/

/-- The description as it is shown, if it has a written form. -/
def Note.shown : Note → Except RenderError String
  | .text s => .ok s
  | .value v => if v.isWritable then .ok v.text else .error .longNumber

/-- The row of an input. -/
def InputInfo.row (i : InputInfo) : Except RenderError Html.InputRow :=
  ((i.description.filter Note.isPresent).mapM Note.shown).map fun description =>
    { name := i.name
      type := i.type.text
      description := description
      default := presentText i.default
      given := i.default.getD "" }

/-- The rows of an input that is a struct. There are none when its fields are not known. -/
def InputInfo.structRow (i : InputInfo) : Except RenderError Html.StructRow := do
  let row ← i.row
  let fields ← i.type.fields.elim (.error .missingValue) .ok
  return ⟨row, .ofNat i.type.fieldCount, fields.map fun f => (f.1, f.2.text)⟩

/-- The rows of a list of inputs. -/
def inputRows (inputs : List InputInfo) : Except RenderError Html.InputRows := do
  let others := inputs.filter (!·.isStruct)
  return {
    structs := ← (inputs.filter (·.isStruct)).mapM InputInfo.structRow
    required := ← (others.filter (!·.hasDefault)).mapM InputInfo.row
    defaulted := ← (others.filter (·.hasDefault)).mapM InputInfo.row }

/-- The row of an output. -/
def OutputInfo.row (o : OutputInfo) : Html.OutputRow :=
  ⟨o.name, o.type.text, presentText o.expression⟩

/-- The row of an import. -/
def ImportInfo.row (i : ImportInfo) : Option String × String :=
  (presentText i.scope, i.address)

/-- The table that says where a document stands and what it consists of. -/
def DocumentInfo.infoTable (d : DocumentInfo) : Html :=
  Html.documentInfoTable d.relativePath.text d.version d.kind.label

end WorkflowDocs
