import WorkflowDocs.Page.Document
import WorkflowDocs.Proofs.Html.Inert
import WorkflowDocs.Proofs.Results

/-!
# The parts of a document page open no script

Every part of the page of a document but the dialog with the graph is made of markup that opens no
script and of text that is shown. The layout and the dialog open a fixed number of scripts; the
dialog opens those of the graph in addition, because the graph is not shown as text.

## Main definitions

* `Html.scriptTag`: the name of the tag

## Main results

* `Html.inert_inputsTable`, `Html.inert_callBlock`, `Html.inert_taskCard` and others: the parts
* `Html.opens_graphModal`: the dialog with the graph
* `Html.opens_layout`: the layout
-/

-- The characters of long pieces of markup are gone through one by one.
set_option maxRecDepth 100000

namespace WorkflowDocs.Html

/-- The name of the tag of scripts. -/
def scriptTag : List Char := ['s', 'c', 'r', 'i', 'p', 't']

/-! ## Labels and buttons -/

theorem inert_indentedBadge {kind label : String} :
    Inert scriptTag (indentedBadge kind label) := by
  simp only [indentedBadge, badge, inert_append, inert_text, and_true]
  and_intros <;> exact .ofList (by decide)

theorem inert_graphButton : Inert scriptTag graphButton :=
  .ofList (by decide)

theorem inert_sourceButton : Inert scriptTag sourceButton :=
  .ofList (by decide)

theorem inert_actionButtons {buttons : Html} (h : Inert scriptTag buttons) :
    Inert scriptTag (actionButtons buttons) := by
  simp only [actionButtons, inert_append, h, and_true]
  and_intros <;> exact .ofList (by decide)

/-! ## Tables -/

theorem inert_orDash {s : Option String} : Inert scriptTag (orDash s) :=
  inert_text

theorem inert_defaultCell {s : Option String} : Inert scriptTag (defaultCell s) := by
  cases s with
  | none => exact .ofList (by decide)
  | some s =>
    simp only [defaultCell, inert_append, inert_text, and_true]
    and_intros <;> exact .ofList (by decide)

theorem inert_inputRow {i : InputRow} : Inert scriptTag (inputRow i) := by
  simp only [inputRow, inert_append, inert_text, inert_orDash, inert_defaultCell, and_true]
  and_intros <;> exact .ofList (by decide)

theorem inert_structFieldRow {parent : String} {field : String × String} :
    Inert scriptTag (structFieldRow parent field) := by
  simp only [structFieldRow, inert_append, inert_text, and_true]
  and_intros <;> exact .ofList (by decide)

theorem inert_structInputRow {r : StructRow} : Inert scriptTag (structInputRow r) := by
  have hfields : Inert scriptTag (each r.fields (structFieldRow r.input.name)) :=
    inert_each fun _ => inert_structFieldRow
  simp only [structInputRow, inert_append, inert_text, inert_orDash, inert_defaultCell,
    inert_ending, hfields, and_true]
  and_intros <;> exact .ofList (by decide)

theorem inert_defaultInputRow {i : InputRow} : Inert scriptTag (defaultInputRow i) := by
  simp only [defaultInputRow, inert_append, inert_text, inert_orDash, and_true]
  and_intros <;> exact .ofList (by decide)

theorem inert_defaultInputRows {inputs : List InputRow} :
    Inert scriptTag (defaultInputRows inputs) := by
  have hrows : Inert scriptTag (each inputs defaultInputRow) :=
    inert_each fun _ => inert_defaultInputRow
  apply Inert.only
  simp only [pluralEnding, inert_append, inert_number, inert_ending, hrows, and_true]
  and_intros <;> exact .ofList (by decide)

theorem inert_inputsTable {rows : InputRows} : Inert scriptTag (inputsTable rows) := by
  have hstructs : Inert scriptTag (each rows.structs structInputRow) :=
    inert_each fun _ => inert_structInputRow
  have hrequired : Inert scriptTag (each rows.required inputRow) :=
    inert_each fun _ => inert_inputRow
  simp only [inputsTable, inert_append, inert_defaultInputRows, hstructs, hrequired, and_true]
  and_intros <;> exact .ofList (by decide)

theorem inert_outputsTable {outputs : List OutputRow} :
    Inert scriptTag (outputsTable outputs) := by
  rw [outputsTable, inert_append, inert_append]
  refine ⟨⟨.ofList (by decide), inert_each fun o => ?_⟩, .ofList (by decide +kernel)⟩
  simp only [inert_append, inert_text, inert_orDash, and_true]
  and_intros <;> exact .ofList (by decide)

theorem inert_runtimeTable {settings : List (String × String)} :
    Inert scriptTag (runtimeTable settings) := by
  rw [runtimeTable, inert_append, inert_append]
  refine ⟨⟨.ofList (by decide), inert_each fun s => ?_⟩, .ofList (by decide +kernel)⟩
  simp only [inert_append, inert_text, and_true]
  and_intros <;> exact .ofList (by decide)

theorem inert_importsTable {imports : List (Option String × String)} :
    Inert scriptTag (importsTable imports) := by
  rw [importsTable, inert_append, inert_append]
  refine ⟨⟨.ofList (by decide), inert_each fun i => ?_⟩, .ofList (by decide +kernel)⟩
  simp only [inert_append, inert_text, inert_orDash, and_true]
  and_intros <;> exact .ofList (by decide)

theorem inert_documentInfoTable {place version kind : String} :
    Inert scriptTag (documentInfoTable place version kind) := by
  simp only [documentInfoTable, inert_append, inert_text, and_true]
  and_intros <;> exact .ofList (by decide)

/-! ## Sections -/

theorem inert_workflowHeader {name : String} {hasGraph hasSource : Bool} :
    Inert scriptTag (workflowHeader name hasGraph hasSource) := by
  have hbuttons : Inert scriptTag (actionButtons
      (only hasGraph graphButton ++ only hasSource sourceButton)) :=
    inert_actionButtons (inert_append.2 ⟨inert_graphButton.only, inert_sourceButton.only⟩)
  simp only [workflowHeader, inert_append, inert_text, hbuttons, and_true]
  and_intros <;> exact .ofList (by decide)

theorem inert_authorLine {author : String} : Inert scriptTag (authorLine author) := by
  simp only [authorLine, inert_append, inert_text, and_true]
  and_intros <;> exact .ofList (by decide)

theorem inert_emailLine {email : String} : Inert scriptTag (emailLine email) := by
  simp only [emailLine, inert_append, inert_text, and_true]
  and_intros <;> exact .ofList (by decide)

theorem inert_authorInfo {author email : Option String} :
    Inert scriptTag (authorInfo author email) := by
  apply Inert.only
  rw [inert_append, inert_append, inert_append]
  refine ⟨⟨.ofList (by decide), ?_, ?_⟩, .ofList (by decide +kernel)⟩
  · exact inert_elim fun _ => inert_authorLine
  · exact inert_elim fun _ => inert_emailLine

theorem inert_tasksHeader {hasSource : Bool} : Inert scriptTag (tasksHeader hasSource) := by
  simp only [tasksHeader, inert_append, inert_sourceButton.only, and_true]
  and_intros <;> exact .ofList (by decide)

theorem inert_callerItem {c : CallerItem} : Inert scriptTag (callerItem c) := by
  simp only [callerItem, inert_append, inert_text, and_true]
  and_intros <;> exact .ofList (by decide)

theorem inert_usageBanner {count : Counted} {callers : List CallerItem} :
    Inert scriptTag (usageBanner count callers) := by
  have hcallers : Inert scriptTag (each callers callerItem) :=
    inert_each fun _ => inert_callerItem
  simp only [usageBanner, inert_append, inert_text, inert_ending, hcallers, and_true]
  and_intros <;> exact .ofList (by decide)

theorem inert_callName {c : CallItem} : Inert scriptTag (callName c) := by
  unfold callName
  split
  all_goals
    simp only [inert_append, inert_text, and_true]
    and_intros <;> exact .ofList (by decide)

theorem inert_callInputs {inputs : Option (String × List (String × String))} :
    Inert scriptTag (callInputs inputs) := by
  cases inputs with
  | none => exact .ofList (by decide)
  | some inputs =>
    rw [callInputs, inert_append, inert_append]
    refine ⟨⟨?_, inert_each fun i => ?_⟩, .ofList (by decide)⟩
    all_goals
      simp only [inert_append, inert_text, and_true]
      and_intros <;> exact .ofList (by decide)

theorem inert_callBlock {c : CallItem} : Inert scriptTag (callBlock c) := by
  have hbadge : Inert scriptTag (if c.isWorkflow then workflowBadge else tasksBadge) := by
    split <;> exact inert_indentedBadge
  have htarget : Inert scriptTag
      (markup r#"<span class="call-target">→ "# ++ text c.target ++ markup "</span>") := by
    simp only [inert_append, inert_text, and_true]
    and_intros <;> exact .ofList (by decide)
  simp only [callBlock, callBadge, inert_append, inert_indentedBadge, hbadge, inert_callName,
    htarget.only, inert_callInputs, and_true]
  and_intros <;> exact .ofList (by decide)

theorem inert_imageHeading {i : ImageItem} : Inert scriptTag (imageHeading i) := by
  unfold imageHeading
  split
  · exact .ofList (by decide)
  · simp only [inert_append, inert_text, and_true]
    and_intros <;> exact .ofList (by decide)

theorem inert_imageBody {i : ImageItem} : Inert scriptTag (imageBody i) := by
  unfold imageBody
  split
  all_goals
    simp only [inert_append, inert_text, and_true]
    and_intros <;> exact .ofList (by decide)

theorem inert_imageCard {i : ImageItem} : Inert scriptTag (imageCard i) := by
  have hmark : Inert scriptTag (markup "docker-parameterized") := .ofList (by decide)
  rw [imageCard, inert_append, inert_append]
  refine ⟨⟨?_, inert_each fun task => ?_⟩, .ofList (by decide)⟩
  all_goals
    simp only [inert_append, inert_text, hmark.only, inert_imageHeading, inert_imageBody,
      inert_ending, and_true]
    and_intros <;> exact .ofList (by decide)

theorem inert_imagesGrid {images : List ImageItem} : Inert scriptTag (imagesGrid images) := by
  have hcards : Inert scriptTag (each images imageCard) := inert_each fun _ => inert_imageCard
  simp only [imagesGrid, inert_append, hcards, and_true]
  and_intros <;> exact .ofList (by decide)

theorem inert_descriptionLine {description : Option String} :
    Inert scriptTag (descriptionLine description) := by
  apply inert_elim
  intro s
  simp only [inert_append, inert_text, and_true]
  and_intros <;> exact .ofList (by decide)

theorem inert_taskCard {t : TaskItem} : Inert scriptTag (taskCard t) := by
  simp only [taskCard, tasksBadge, inert_append, inert_text, inert_indentedBadge,
    inert_descriptionLine, inert_authorInfo, and_true]
  and_intros
  all_goals first | exact .ofList (by decide) | apply inert_elim; intro x
  all_goals
    simp only [inert_append, inert_text, inert_inputsTable, inert_outputsTable,
      inert_runtimeTable, and_true]
    and_intros <;> exact .ofList (by decide)

/-! ## The sections of a document -/

theorem inert_documentHeader {d : DocumentInfo} : Inert scriptTag (documentHeader d) := by
  simp only [documentHeader, inert_append, inert_text, and_true]
  and_intros <;> exact .ofList (by decide)

theorem inert_documentNavigation {d : DocumentInfo} : Inert scriptTag (documentNavigation d) := by
  simp only [documentNavigation, inert_append]
  and_intros
  · exact .ofList (by decide)
  all_goals exact .only (.ofList (by decide))

theorem inert_taskSummary {t : TaskInfo} : Inert scriptTag (taskSummary t) := by
  have hdots : Inert scriptTag (markup "...") := .ofList (by decide)
  simp only [taskSummary, inert_append, inert_text, and_true]
  and_intros
  all_goals first | exact .ofList (by decide) | apply inert_elim; intro s
  simp only [shortDescription, inert_append, inert_text, hdots.only, and_true]
  and_intros <;> exact .ofList (by decide)

theorem inert_taskSummaries {tasks : List TaskInfo} : Inert scriptTag (taskSummaries tasks) := by
  have htasks : Inert scriptTag (each tasks taskSummary) := inert_each fun _ => inert_taskSummary
  apply Inert.only
  simp only [inert_append, htasks, and_true]
  and_intros <;> exact .ofList (by decide)

theorem inert_documentCard {d : DocumentInfo} : Inert scriptTag (documentCard d) := by
  have hbadge : Inert scriptTag (documentBadge d) := by
    unfold documentBadge
    split <;> exact inert_indentedBadge
  simp only [documentCard, DocumentInfo.infoTable, inert_append, inert_text, hbadge,
    inert_documentInfoTable, inert_taskSummaries, and_true]
  and_intros <;> exact .ofList (by decide)

theorem inert_importsSection {imports : List ImportInfo} :
    Inert scriptTag (importsSection imports) := by
  apply Inert.only
  simp only [inert_append, inert_importsTable, and_true]
  and_intros <;> exact .ofList (by decide)

theorem inert_of_workflowInputs {inputs : List InputInfo} {h : Html}
    (hinputs : workflowInputs inputs = .ok h) : Inert scriptTag h := by
  unfold workflowInputs at hinputs
  split at hinputs
  · obtain rfl := Except.ok.inj hinputs
    exact inert_nil
  · cases hrows : inputRows inputs with
    | error e => simp [hrows, Except.map] at hinputs
    | ok rows =>
      rw [hrows] at hinputs
      obtain rfl := Except.ok.inj hinputs
      simp only [inert_append, inert_inputsTable, and_true]
      and_intros <;> exact .ofList (by decide)

theorem inert_of_workflowSection {d : DocumentInfo} {callers : List Caller} {w : WorkflowInfo}
    {h : Html} (hsection : workflowSection d callers w = .ok h) : Inert scriptTag h := by
  obtain ⟨inputs, hinputs, hsection⟩ := exists_of_bind_eq_ok hsection
  obtain rfl := Except.ok.inj hsection
  have hcalls : Inert scriptTag (each w.calls fun c => callBlock (c.item d.relativePath)) :=
    inert_each fun _ => inert_callBlock
  simp only [inert_append, inert_workflowHeader, inert_descriptionLine, inert_authorInfo,
    inert_usageBanner.only, inert_of_workflowInputs hinputs, and_true]
  and_intros
  all_goals first | exact .ofList (by decide) | apply Inert.only
  all_goals
    simp only [inert_append, inert_outputsTable, hcalls, inert_imagesGrid, and_true]
    and_intros <;> exact .ofList (by decide)

theorem inert_of_tasksSection {d : DocumentInfo} {h : Html} (hsection : tasksSection d = .ok h) :
    Inert scriptTag h := by
  unfold tasksSection at hsection
  split at hsection
  · obtain rfl := Except.ok.inj hsection
    exact inert_nil
  · obtain ⟨tasks, -, hsection⟩ := exists_of_bind_eq_ok hsection
    obtain rfl := Except.ok.inj hsection
    have htasks : Inert scriptTag (each tasks taskCard) := inert_each fun _ => inert_taskCard
    simp only [inert_append, inert_tasksHeader, htasks, and_true]
    and_intros <;> exact .ofList (by decide)

/-! ## Parts with scripts -/

theorem inert_sourceModal {name source : String} : Inert scriptTag (sourceModal name source) := by
  simp only [sourceModal, inert_append, inert_text, and_true]
  and_intros <;> exact .ofList (by decide)

/-- The dialog with the graph opens one script and those that the graph opens. -/
theorem opens_graphModal {workflow graph : String} :
    Opens scriptTag (Text.occurrences ('<' :: scriptTag) graph.toList + 1)
      (graphModal workflow graph) := by
  rw [graphModal, List.append_assoc]
  refine Inert.append_opens ?_ (.markup_append (by decide) (by decide) graph)
  simp only [inert_append, inert_text, and_true]
  and_intros <;> exact .ofList (by decide)

theorem inert_logoImage {look : Appearance} {top : String} :
    Inert scriptTag (logoImage look top) := by
  unfold logoImage
  split
  all_goals
    simp only [inert_append, inert_text, and_true]
    and_intros <;> exact .ofList (by decide)

theorem opens_styleAndDiagrams : Opens scriptTag 2 (markup styleAndDiagrams) := by
  unfold styleAndDiagrams
  refine .concat (j := 1) (k := 1) ?_ (.ofList (by decide))
  iterate 14 refine .concat (j := 1) (k := 0) ?_ (.ofList (by decide))
  exact .ofList (by decide)

/-- The layout opens six scripts and those of the content. Those of the layout itself are in one
chunk before the content, for the head, and in one behind it, for the foot. -/
theorem opens_layout {look : Appearance} {top : String} {title header navigation content : Html}
    {k : Nat} (htitle : Inert scriptTag title) (hheader : Inert scriptTag header)
    (hnavigation : Inert scriptTag navigation) (hcontent : Opens scriptTag k content) :
    Opens scriptTag (2 + k + 4) (layout look top title header navigation content) := by
  unfold layout
  refine .append_inert (.append_inert (.append (.append ?_ hcontent) (.ofList (by decide)))
    inert_text) (.ofList (by decide))
  iterate 14 refine Opens.append_inert ?_ (by first
    | exact inert_text | exact inert_logoImage | assumption | exact .ofList (by decide))
  refine Inert.append_opens ?_ opens_styleAndDiagrams
  simp only [inert_append, inert_text, htitle, and_true]
  and_intros <;> exact .ofList (by decide)

end WorkflowDocs.Html
