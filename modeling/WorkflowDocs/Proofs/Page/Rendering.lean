import WorkflowDocs.Page.Document
import WorkflowDocs.Proofs.Path.Link
import WorkflowDocs.Proofs.Results
import WorkflowDocs.Proofs.Traversal
import WorkflowDocs.Proofs.Workspace.Entries
import WorkflowDocs.Site.Inventory

/-!
# Documents that can be shown

A page is made of texts that a document always has, but for its inputs: a struct is shown by its
fields, which are not there when its members are unknown or none, and a description that is a
structured value has no written form when a number in it is too long. A text with half of a
character pair is written but cannot be stored. If none of these occurs, the page of a document
that can have one is made.

## Main definitions

* `InputInfo.IsShown`: inputs that a page can show
* `Decl.IsShown`, `DocumentSource.inputDecls`: declarations that become such inputs

## Main results

* `hasResult_inputRows`: the rows of inputs are made unless one of them has none
* `hasResult_documentPage_iff`: the page of a document is made exactly if it can show all inputs
* `Workspace.isShown_of_parse`: the inputs of a document, by the declarations of its source
* `exists_callers?`, `exists_inventory?`: documents with pages can be linked to
-/

namespace WorkflowDocs

/-! ## Inputs -/

namespace InputInfo

/-- The input has a row: its description has a written form, and a struct has fields. -/
def HasRow (i : InputInfo) : Prop :=
  HasResult i.row ∧ (i.isStruct = true → i.type.fields.isSome = true)

/-- The input can be shown on a page that is stored: a struct has fields, and a description that is
a structured value has a written form and no half of a character pair. -/
structure IsShown (i : InputInfo) : Prop where
  fields : i.isStruct = true → i.type.fields.isSome = true
  written : ∀ v, i.description = some (.value v) → v.isTruthy = true → v.isWritable = true
  whole : ∀ codes, i.description ≠ some (.value (.codes codes))

theorem hasResult_row {i : InputInfo} :
    HasResult i.row ↔
      ∀ v, i.description = some (.value v) → v.isTruthy = true → v.isWritable = true := by
  rw [row, hasResult_map, hasResult_option_mapM]
  cases hnote : i.description with
  | none => simp
  | some note =>
    cases note with
    | text s =>
      refine iff_of_true (fun note hmem => ?_) (by simp)
      obtain ⟨rfl, -⟩ : .text s = note ∧ _ := by simpa [Option.filter_eq_some_iff] using hmem
      exact hasResult_ok
    | value v =>
      have hshown : HasResult (Note.value v).shown ↔ v.isWritable = true := by
        rw [Note.shown]
        split <;> simp_all [HasResult]
      simp only [Option.mem_def, Option.filter_eq_some_iff, Option.some.injEq, Note.value.injEq]
      constructor
      · rintro h _ rfl htruthy
        exact hshown.1 (h _ ⟨rfl, htruthy⟩)
      · rintro h _ ⟨rfl, htruthy⟩
        exact hshown.2 (h v rfl htruthy)

theorem hasResult_structRow {i : InputInfo} :
    HasResult i.structRow ↔ HasResult i.row ∧ i.type.fields.isSome = true := by
  rw [structRow, hasResult_bind fun row => hasResult_bind_pure.trans hasResult_elim_error]

end InputInfo

/-- The rows of inputs are made unless one of the inputs has none. Every input stands in one of the
three groups. -/
theorem hasResult_inputRows {inputs : List InputInfo} :
    HasResult (inputRows inputs) ↔ ∀ i ∈ inputs, i.HasRow := by
  have hrows : HasResult (inputRows inputs) ↔
      (∀ i ∈ inputs.filter (·.isStruct), HasResult i.structRow) ∧
      (∀ i ∈ (inputs.filter (!·.isStruct)).filter (!·.hasDefault), HasResult i.row) ∧
      ∀ i ∈ (inputs.filter (!·.isStruct)).filter (·.hasDefault), HasResult i.row := by
    rw [inputRows, hasResult_bind fun structs => hasResult_bind fun required => hasResult_bind_pure]
    simp only [hasResult_mapM]
  rw [hrows]
  simp only [List.mem_filter, Bool.not_eq_true', InputInfo.hasResult_structRow]
  constructor
  · rintro ⟨hstructs, hrequired, hdefaulted⟩ i hi
    by_cases hstruct : i.isStruct = true
    · exact ⟨(hstructs i ⟨hi, hstruct⟩).1, fun _ => (hstructs i ⟨hi, hstruct⟩).2⟩
    · rw [Bool.not_eq_true] at hstruct
      refine ⟨?_, fun h => by simp [hstruct] at h⟩
      by_cases hdefault : i.hasDefault = true
      · exact hdefaulted i ⟨⟨hi, hstruct⟩, hdefault⟩
      · exact hrequired i ⟨⟨hi, hstruct⟩, by simpa using hdefault⟩
  · intro h
    exact ⟨fun i hi => ⟨(h i hi.1).1, (h i hi.1).2 hi.2⟩, fun i hi => (h i hi.1.1).1,
      fun i hi => (h i hi.1.1).1⟩

/-! ## Inputs of sources -/

/-- The declared inputs of a source, each with the notes on parameters that stand beside it. -/
def DocumentSource.inputDecls (doc : DocumentSource) : List (Fields String × Decl) :=
  (doc.workflow.elim [] fun wf => wf.inputs.map fun d => (metaTexts wf.parameterMeta, d)) ++
    doc.tasks.flatMap fun t => t.inputs.map fun d => (metaTexts t.parameterMeta, d)

/-- The declaration becomes an input that can be shown: a struct type has members, and a note that
is a structured value has a written form and no half of a character pair. -/
structure Decl.IsShown (dialect : Literal.Dialect) (notes : Fields String) (d : Decl) : Prop where
  members : ∀ name members optional, d.type = .struct name members optional →
    ∃ m ms, members = some (m :: ms)
  written : ∀ v, parameterNote dialect notes d.name = .ok (some (.value v)) → v.isWritable = true
  whole : ∀ codes, parameterNote dialect notes d.name ≠ .ok (some (.value (.codes codes)))

theorem TypeInfo.isSome_fields_iff (t : WdlType) :
    ((ofType t).isStruct = true → (ofType t).fields.isSome = true) ↔
      ∀ name members optional, t = .struct name members optional →
        ∃ m ms, members = some (m :: ms) := by
  cases t with
  | struct name members optional =>
    cases members with
    | none => simp [ofType, plain]
    | some members =>
      cases members with
      | nil => simp [ofType, plain]
      | cons m ms =>
        refine iff_of_true (fun _ => rfl) ?_
        rintro _ _ _ ⟨⟩
        exact ⟨m, ms, rfl⟩
  | _ => simp [ofType, plain]

/-- A structured value that is given as a note counts as present. A text among the values is given
as a text; all others are given as they are. -/
theorem isTruthy_of_parameterNote {dialect : Literal.Dialect} {notes : Fields String}
    {name : String} {v : Literal}
    (h : parameterNote dialect notes name = .ok (some (.value v))) : v.isTruthy = true := by
  have hstructured : ∀ {raw : String} {w : Literal}, structuredNote dialect raw = .ok (some w) →
      w.isTruthy = true := by
    intro raw w hw
    rw [structuredNote] at hw
    split at hw
    · exact (Option.filter_eq_some_iff.1 (Except.ok.inj hw)).2
    all_goals exact absurd hw (by simp)
  rw [parameterNote] at h
  split at h
  · exact absurd h (by simp)
  · rename_i raw hraw
    cases hnote : structuredNote dialect raw with
    | error e => simp [hnote, Except.map] at h
    | ok note =>
      rw [hnote] at h
      cases note with
      | none => simp [Except.map] at h
      | some w =>
        have hw := hstructured hnote
        cases w <;> simp_all [Except.map]

/-- An input can be shown exactly if its declaration allows it. -/
theorem InputInfo.isShown_ofDecl {dialect : Literal.Dialect} {notes : Fields String} {decl : Decl}
    {i : InputInfo} (h : InputInfo.ofDecl dialect notes decl = .ok i) :
    i.IsShown ↔ decl.IsShown dialect notes := by
  cases hnote : parameterNote dialect notes decl.name with
  | error e => simp [InputInfo.ofDecl, hnote, Except.map] at h
  | ok note =>
    rw [InputInfo.ofDecl, hnote] at h
    obtain rfl := Except.ok.inj h
    have hfields := TypeInfo.isSome_fields_iff decl.type
    constructor
    · intro hshown
      refine ⟨hfields.1 hshown.fields, fun v hv => ?_, fun codes hcodes => ?_⟩
      · exact hshown.written v (Except.ok.inj (hnote.symm.trans hv)) (isTruthy_of_parameterNote hv)
      · exact hshown.whole codes (Except.ok.inj (hnote.symm.trans hcodes))
    · intro hshown
      refine ⟨hfields.2 hshown.members, fun v hv _ => ?_, fun codes hcodes => ?_⟩
      · exact hshown.written v (hnote.trans (congrArg Except.ok hv))
      · exact hshown.whole codes (hnote.trans (congrArg Except.ok hcodes))

/-- The inputs of a document are those that its source declares. -/
theorem Workspace.inputs_of_parse {w : Workspace} {root file : Path} {d : DocumentInfo}
    {doc : DocumentSource} (hparse : w.parse root file = .ok d) (hload : w.load file = .ok doc) :
    List.Forall₂ (fun x i => InputInfo.ofDecl w.dialect x.1 x.2 = .ok i)
      doc.inputDecls d.inputs := by
  obtain ⟨hworkflow, htasks⟩ := entries_of_parse hparse hload
  rw [DocumentSource.inputDecls, DocumentInfo.inputs]
  refine List.rel_append ?_ (List.rel_flatMap htasks fun t info hinfo => ?_)
  · generalize doc.workflow = source at hworkflow ⊢
    generalize d.workflow = shown at hworkflow ⊢
    cases hworkflow with
    | none => exact .nil
    | some hinfo =>
      obtain ⟨hinputs, -⟩ := inputs_and_graph_of_ofSource hinfo
      exact List.forall₂_map_left_iff.2 (forall₂_of_mapM hinputs)
  · obtain ⟨inputs, hinputs, hinfo⟩ := exists_of_bind_eq_ok hinfo
    obtain ⟨outputs, -, hinfo⟩ := exists_of_bind_eq_ok hinfo
    obtain ⟨command, -, hinfo⟩ := exists_of_bind_eq_ok hinfo
    obtain rfl := Except.ok.inj hinfo
    exact List.forall₂_map_left_iff.2 (forall₂_of_mapM hinputs)

/-- A document has inputs that can be shown exactly if its source declares such. -/
theorem Workspace.isShown_of_parse {w : Workspace} {root file : Path} {d : DocumentInfo}
    {doc : DocumentSource} (hparse : w.parse root file = .ok d) (hload : w.load file = .ok doc) :
    (∀ i ∈ d.inputs, i.IsShown) ↔ ∀ x ∈ doc.inputDecls, x.2.IsShown w.dialect x.1 := by
  have hshown : ∀ (x : Fields String × Decl) (i : InputInfo),
      InputInfo.ofDecl w.dialect x.1 x.2 = .ok i → (x.2.IsShown w.dialect x.1 ↔ i.IsShown) :=
    fun x i h => (InputInfo.isShown_ofDecl h).symm
  exact (forall_mem_iff_of_forall₂ hshown (inputs_of_parse hparse hload)).symm

/-! ## Pages -/

namespace Html

theorem hasResult_workflowInputs {inputs : List InputInfo} :
    HasResult (workflowInputs inputs) ↔ ∀ i ∈ inputs, i.HasRow := by
  rw [workflowInputs]
  split
  · rename_i hempty
    rw [List.isEmpty_iff] at hempty
    exact iff_of_true hasResult_ok fun i hi => absurd hi (by simp [hempty])
  · rw [hasResult_map, hasResult_inputRows]

theorem hasResult_item {t : TaskInfo} : HasResult t.item ↔ ∀ i ∈ t.inputs, i.HasRow := by
  rw [TaskInfo.item, hasResult_map, hasResult_option_mapM, presentList]
  split
  · rename_i hempty
    rw [List.isEmpty_iff] at hempty
    simp [hempty]
  · simp [hasResult_inputRows]

theorem hasResult_tasksSection {d : DocumentInfo} :
    HasResult (tasksSection d) ↔ ∀ t ∈ d.tasks, ∀ i ∈ t.inputs, i.HasRow := by
  rw [tasksSection]
  split
  · rename_i hempty
    rw [List.isEmpty_iff] at hempty
    exact iff_of_true hasResult_ok fun t ht => absurd ht (by simp [hempty])
  · rw [hasResult_bind_pure, hasResult_mapM]
    simp only [hasResult_item]

/-- The content of a page is made unless an input of the document has no row. -/
theorem hasResult_documentContent {d : DocumentInfo} {callers : List Caller} {top : String} :
    HasResult (documentContent d callers top) ↔ ∀ i ∈ d.inputs, i.HasRow := by
  have hworkflow : HasResult (d.workflow.elim (.ok []) (workflowSection d callers)) ↔
      ∀ i ∈ d.workflow.elim [] (·.inputs), i.HasRow := by
    cases d.workflow with
    | none => exact iff_of_true hasResult_ok fun i hi => absurd hi List.not_mem_nil
    | some w =>
      rw [Option.elim_some, Option.elim_some, workflowSection, hasResult_bind_pure,
        hasResult_workflowInputs]
  rw [documentContent, hasResult_bind fun workflow => hasResult_bind_pure, hworkflow,
    hasResult_tasksSection, DocumentInfo.inputs]
  simp only [List.mem_append, List.mem_flatMap, or_imp, forall_and, forall_exists_index, and_imp]
  exact and_congr_right fun _ => ⟨fun h i t ht hi => h t ht i hi, fun h t ht i hi => h i t ht hi⟩

theorem inputRows_ne_half (inputs : List InputInfo) :
    inputRows inputs ≠ .error .halfCharacter := by
  have hrow : ∀ i : InputInfo, i.row ≠ .error .halfCharacter := by
    intro i
    refine ne_error_map (ne_error_option_mapM (fun note => ?_) _)
    cases note with
    | text s => simp [Note.shown]
    | value v =>
      rw [Note.shown]
      split <;> simp
  have hstruct : ∀ i : InputInfo, i.structRow ≠ .error .halfCharacter := by
    intro i
    refine ne_error_bind (hrow i) fun row => ne_error_bind ?_ fun fields => ?_
    · cases i.type.fields <;> simp
    · simp [pure, Except.pure]
  refine ne_error_bind (ne_error_mapM hstruct _) fun structs =>
    ne_error_bind (ne_error_mapM hrow _) fun required =>
    ne_error_bind (ne_error_mapM hrow _) fun defaulted => ?_
  simp [pure, Except.pure]

/-- The content of a page is not missing because of half a character: that shows when the page is
stored. -/
theorem documentContent_ne_half (d : DocumentInfo) (callers : List Caller) (top : String) :
    documentContent d callers top ≠ .error .halfCharacter := by
  have hinputs : ∀ inputs, workflowInputs inputs ≠ .error .halfCharacter := by
    intro inputs
    rw [workflowInputs]
    split
    · simp
    · exact ne_error_map (inputRows_ne_half inputs)
  have hworkflow : d.workflow.elim (.ok []) (workflowSection d callers) ≠
      .error .halfCharacter := by
    cases d.workflow with
    | none => simp
    | some w =>
      refine ne_error_bind (hinputs w.inputs) fun rows => ?_
      simp [pure, Except.pure]
  have hitem : ∀ t : TaskInfo, t.item ≠ .error .halfCharacter :=
    fun t => ne_error_map (ne_error_option_mapM inputRows_ne_half _)
  refine ne_error_bind hworkflow fun workflow => ne_error_bind ?_ fun tasks => ?_
  · rw [tasksSection]
    split
    · simp
    · refine ne_error_bind (ne_error_mapM hitem d.tasks) fun tasks => ?_
      simp [pure, Except.pure]
  · simp [pure, Except.pure]

end Html

/-! ## Links to pages -/

/-- Every document has a page: its place has a name. -/
def HavePages (documents : List DocumentInfo) : Prop :=
  ∀ d ∈ documents, (Path.page? d.relativePath).isSome = true

theorem havePages_of_namesFile {documents : List DocumentInfo}
    (h : ∀ d ∈ documents, d.relativePath.NamesFile) : HavePages documents :=
  fun d hd => Option.isSome_iff_exists.2 (h d hd).exists_page

/-- The callers of a document are found when all documents have pages. -/
theorem exists_callers? {all : List DocumentInfo} (hall : HavePages all) (d : DocumentInfo) :
    ∃ callers, callers? d all = some callers := by
  rw [callers?]
  cases d.workflow with
  | none => exact ⟨[], rfl⟩
  | some w =>
    refine exists_mapM_eq_some fun other hother => ?_
    obtain ⟨d', hd', hmem⟩ := List.mem_flatMap.1 hother
    obtain ⟨-, -, rfl⟩ := List.mem_map.1 hmem
    rw [DocumentInfo.asCaller?, Option.isSome_map]
    exact hall _ (List.mem_filter.1 hd').1

theorem isSome_findTask? {all : List DocumentInfo} (hall : HavePages all) {d : DocumentInfo}
    (hd : d ∈ all) (task : String) : (findTask? task d all).isSome = true := by
  have hlink : ∀ owner ∈ all, ∀ anchor, (owner.linkTo? anchor).isSome = true := by
    intro owner howner anchor
    rw [DocumentInfo.linkTo?, Option.isSome_map]
    exact hall owner howner
  rw [findTask?]
  split
  · rename_i owner howner
    rcases List.mem_cons.1 (List.mem_of_find?_eq_some howner) with rfl | hmem
    · exact hlink _ hd _
    · exact hlink _ hmem _
  · exact hlink d hd _

/-- The image inventory is made when all documents have pages. A use is linked to a document that
has the task, or else to the one that has the use. -/
theorem exists_inventory? {documents : List DocumentInfo} (hall : HavePages documents) :
    ∃ inventory, inventory? documents = some inventory := by
  have hrepositories : ∀ part : List DocumentInfo, (∀ d ∈ part, d ∈ documents) →
      ∃ repositories, repositories? documents part = some repositories := by
    intro part hpart
    refine exists_foldlM_eq_some (fun use huse repositories => ?_) []
    obtain ⟨d, hd, hmem⟩ := List.mem_flatMap.1 huse
    obtain ⟨i, -, rfl⟩ := List.mem_map.1 hmem
    obtain ⟨usages, husages⟩ : ∃ usages, usages? i d documents = some usages := by
      refine exists_mapM_eq_some fun task _ => ?_
      rw [Option.isSome_map]
      exact isSome_findTask? hall (hpart d hd) task
    rw [addImage?, Option.isSome_map, husages]
    rfl
  obtain ⟨internal, hinternal⟩ :=
    hrepositories _ fun d hd => (List.mem_filter.1 hd : d ∈ documents ∧ (!d.isExternal) = true).1
  obtain ⟨external, hexternal⟩ :=
    hrepositories _ fun d hd => (List.mem_filter.1 hd : d ∈ documents ∧ d.isExternal = true).1
  exact ⟨_, by rw [inventory?, hinternal, hexternal]; rfl⟩

/-! ## The page of a document -/

theorem InputInfo.isShown_iff {i : InputInfo} :
    i.IsShown ↔ i.HasRow ∧ i.description.any Note.isHalf = false := by
  have hhalf : i.description.any Note.isHalf = false ↔
      ∀ codes, i.description ≠ some (.value (.codes codes)) := by
    cases i.description with
    | none => simp
    | some note =>
      cases note with
      | text s => simp [Note.isHalf]
      | value v => cases v <;> simp [Note.isHalf]
  rw [hhalf, HasRow, hasResult_row]
  exact ⟨fun h => ⟨⟨h.written, h.fields⟩, h.whole⟩, fun h => ⟨h.1.2, h.1.1, h.2⟩⟩

theorem forall_isShown_iff {d : DocumentInfo} :
    (∀ i ∈ d.inputs, i.IsShown) ↔ (∀ i ∈ d.inputs, i.HasRow) ∧ d.showsHalf = false := by
  rw [DocumentInfo.showsHalf, List.any_eq_false]
  simp only [InputInfo.isShown_iff, Bool.not_eq_true]
  exact ⟨fun h => ⟨fun i hi => (h i hi).1, fun i hi => (h i hi).2⟩,
    fun h i hi => ⟨h.1 i hi, h.2 i hi⟩⟩

section Document

variable (look : Appearance) {d : DocumentInfo} {all : List DocumentInfo} {page : Path}

/-- The page of a document whose place can be stored is made of its content. -/
theorem exists_documentPage_eq (hpage : Path.page? d.relativePath = some page)
    (hfault : page.fault? = none) (hparent : page.parent.fault? = none) (hall : HavePages all) :
    ∃ (callers : List Caller) (make : Html → Page), documentPage look d all =
      (Html.documentContent d callers d.relativePath.wayToTop >>= fun content =>
        if d.showsHalf then .error .halfCharacter else .ok (make content)) := by
  obtain ⟨callers, hcallers⟩ := exists_callers? hall d
  refine ⟨callers, fun content => ⟨page, Html.layout look d.relativePath.wayToTop
    (Html.documentTitle d) (Html.documentHeader d) (Html.documentNavigation d) content⟩, ?_⟩
  have hstands : checkPath page = .ok () := by rw [checkPath, hfault, Option.elim_none]
  have hdirectory : checkPath page.parent = .ok () := by rw [checkPath, hparent, Option.elim_none]
  rw [documentPage, hpage, hcallers]
  simp only [Option.elim_some, ok_bind, hstands, hdirectory]
  rfl

/-- The page of a document whose place can be stored is made exactly if all inputs can be shown. -/
theorem hasResult_documentPage_iff (hpage : Path.page? d.relativePath = some page)
    (hfault : page.fault? = none) (hparent : page.parent.fault? = none) (hall : HavePages all) :
    HasResult (documentPage look d all) ↔ ∀ i ∈ d.inputs, i.IsShown := by
  obtain ⟨callers, make, hmake⟩ := exists_documentPage_eq look hpage hfault hparent hall
  have hstored : ∀ content, HasResult (if d.showsHalf then .error .halfCharacter
      else .ok (make content) : Except RenderError Page) ↔ d.showsHalf = false := by
    intro content
    cases d.showsHalf <;> simp [HasResult]
  rw [hmake, hasResult_bind hstored, Html.hasResult_documentContent, forall_isShown_iff]

/-- Half of a character is found on a page only if an input has it. -/
theorem showsHalf_of_documentPage (hpage : Path.page? d.relativePath = some page)
    (hfault : page.fault? = none) (hparent : page.parent.fault? = none) (hall : HavePages all)
    {look : Appearance} (h : documentPage look d all = .error .halfCharacter) :
    d.showsHalf = true := by
  obtain ⟨callers, make, hmake⟩ := exists_documentPage_eq look hpage hfault hparent hall
  by_contra hshows
  refine ne_error_bind (Html.documentContent_ne_half d callers _) (fun content => ?_)
    (hmake.symm.trans h)
  simp [hshows]

end Document

end WorkflowDocs
