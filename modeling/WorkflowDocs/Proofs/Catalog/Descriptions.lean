import WorkflowDocs.Proofs.Catalog.StructuredNotes
import WorkflowDocs.Proofs.Literal.Dictionary
import WorkflowDocs.Proofs.Page.Rendering

/-!
# Descriptions that break documentation

The text of a note on a parameter is read as a literal, and a text that is no literal is the
description itself. This is not what happens to every fault: a collection as a key, a number that
is too large or an expression that is nested too deeply stops the documentation of the task or
workflow. A dictionary can also have something under `description` that is no text, and this is then
the description. All other texts are harmless. This is so in every dialect: which characters have
names, which templates are good and which texts are given up decides on the faults of a text, and
only through them on what becomes of it.

## Main definitions

* `noteError?`: the error that the text of a note gives
* `noteErrors`: the errors that the notes on declarations give, in the order of the declarations
* `DescribedBy`: the term that the text of a note has as its description, and the value of this term
* `Harmless`: the texts that are described by a text and give no error

## Main results

* `structuredNote_eq_error_iff`, `structuredNote_eq_some_iff`: what the text of a note gives
* `TaskInfo.ofSource_eq_error_iff`, `WorkflowInfo.ofSource_eq_error_iff`: when notes stop the
  documentation
* `notes_harmless_iff`: the notes that give a text as a description, and those that stop the
  documentation
* `list_key_stops_documentation`: a note that stops the documentation of its task
-/

namespace WorkflowDocs

open Literal (faultsOf)

/-- What a fault in the text of a note leads to: only a text that is no literal is passed. -/
def Literal.Fault.error? : Literal.Fault → Option SurveyError
  | .malformed => none
  | .unhashable kind => some (.unhashableKey kind)
  | .tooLarge => some .numberTooLarge
  | .beyond limit => some (.beyond limit)

/-- The error that the text of a note gives. -/
def noteError? (dialect : Literal.Dialect) (raw : String) : Option SurveyError :=
  (faultsOf dialect raw).head?.bind Literal.Fault.error?

/-- The errors that the notes on declarations give. -/
def noteErrors (dialect : Literal.Dialect) (notes : Fields MetaValue) (ds : List Decl) :
    List SurveyError :=
  ds.flatMap fun d => ((notes.get? d.name).bind fun v => noteError? dialect v.text).toList

/-- A text is a dictionary without a fault, whose last entry under `description` is the term `t`,
and this has the value `v`, which counts as present. -/
structure DescribedBy (dialect : Literal.Dialect) (raw : String) (t : Literal.Term) (v : Literal) :
    Prop where
  faultless : faultsOf dialect raw = []
  entry : ∃ e, Literal.parse? dialect raw = some e ∧ e.term.entry? "description" = some t
  value : t.eval = .ok v
  present : v.isTruthy = true

/-- A text gives no error, and if it has a description within it, this is a text. -/
structure Harmless (dialect : Literal.Dialect) (raw : String) : Prop where
  passed : noteError? dialect raw = none
  worded : ∀ t v, DescribedBy dialect raw t v → t.isText = true

/-- Whether a description is a text. -/
def Note.isText : Note → Bool
  | .text _ => true
  | .value v => v.isText

/-- A value as a description. -/
def Literal.note : Literal → Note
  | .string s => .text s
  | v => .value v

theorem Literal.isText_note (v : Literal) : v.note.isText = v.isText := by
  cases v <;> rfl

/-! ## Structured texts -/

variable {dialect : Literal.Dialect}

section Structured

variable {raw : String} {v : Literal}

theorem structuredNote_of_read (h : Literal.read dialect raw = .ok v) :
    structuredNote dialect raw = .ok ((v.entry? "description").filter (·.isTruthy)) := by
  rw [structuredNote, h]
  cases v <;> rfl

theorem structuredNote_of_fault {f : Literal.Fault} (h : Literal.read dialect raw = .error f) :
    structuredNote dialect raw = f.error?.elim (.ok none) .error := by
  rw [structuredNote, h]
  cases f <;> rfl

/-- The error of a structured text is that of its first fault. -/
theorem structuredNote_eq_error_iff {err : SurveyError} :
    structuredNote dialect raw = .error err ↔ noteError? dialect raw = some err := by
  rw [noteError?]
  cases hread : Literal.read dialect raw with
  | ok v =>
    rw [structuredNote_of_read hread, (Literal.read_reports dialect raw).of_eq_ok hread]
    simp
  | error f =>
    rw [structuredNote_of_fault hread, (Literal.read_reports dialect raw f).1 hread,
      Option.bind_some]
    cases f.error? <;> simp

/-- What a structured text gives is the value of its description. -/
theorem structuredNote_eq_some_iff :
    structuredNote dialect raw = .ok (some v) ↔ ∃ t, DescribedBy dialect raw t v := by
  cases hread : Literal.read dialect raw with
  | ok w =>
    have hfaultless := (Literal.read_reports dialect raw).of_eq_ok hread
    obtain ⟨e, he, heval⟩ := Literal.exists_term_of_read hread
    rw [structuredNote_of_read hread, Literal.Term.entry?_of_eval "description" heval]
    constructor
    · intro h
      obtain ⟨hentry, hpresent⟩ := Option.filter_eq_some_iff.1 (Except.ok.inj h)
      obtain ⟨t, ht, hvalue⟩ := Option.bind_eq_some_iff.1 hentry
      exact ⟨t, hfaultless, ⟨e, he, ht⟩, eq_ok_of_toOption hvalue, hpresent⟩
    · rintro ⟨t, -, ⟨e', he', ht⟩, hvalue, hpresent⟩
      obtain rfl := Option.some.inj (he.symm.trans he')
      rw [ht, Option.bind_some, hvalue]
      exact congrArg Except.ok (Option.filter_eq_some_iff.2 ⟨rfl, hpresent⟩)
  | error f =>
    have hfaulty : faultsOf dialect raw ≠ [] := fun hnil =>
      absurd (((Literal.read_reports dialect raw) f).1 hread) (by simp [hnil])
    refine iff_of_false ?_ ?_
    · rw [structuredNote_of_fault hread]
      cases f.error? <;> simp
    · rintro ⟨t, hdescribed⟩
      exact hfaulty hdescribed.faultless

end Structured

/-! ## Notes on parameters -/

theorem parameterNote_eq {notes : Fields String} {name raw : String}
    (h : notes.get? name = some raw) (hraw : raw ≠ "") :
    parameterNote dialect notes name =
      (structuredNote dialect raw).map fun v => some (v.elim (.text raw) Literal.note) := by
  rw [parameterNote, h, presentText_of_ne hraw]
  refine congrArg (Except.map · _) (funext fun v => ?_)
  cases v with
  | none => rfl
  | some v => cases v <;> rfl

theorem parameterNote_of_empty {notes : Fields String} {name : String}
    (h : presentText (notes.get? name) = none) : parameterNote dialect notes name = .ok none := by
  rw [parameterNote, h]

theorem faultsOf_empty : faultsOf dialect "" = [.malformed] := by
  rw [faultsOf, dialect.limit?_empty]
  rfl

/-- The note on a parameter fails with the error that its text gives. -/
theorem parameterNote_reports (dialect : Literal.Dialect) (notes : Fields String)
    (name : String) :
    Reports (parameterNote dialect notes name)
      ((notes.get? name).bind (noteError? dialect)).toList := by
  cases hraw : notes.get? name with
  | none =>
    rw [parameterNote_of_empty (congrArg presentText hraw)]
    exact .ok _
  | some raw =>
    rw [Option.bind_some]
    by_cases hempty : raw = ""
    · subst hempty
      rw [parameterNote_of_empty (congrArg presentText hraw), noteError?, faultsOf_empty]
      exact .ok _
    · rw [parameterNote_eq hraw hempty]
      refine .map fun err => ?_
      rw [structuredNote_eq_error_iff, Option.head?_toList]

theorem harmless_empty : Harmless dialect "" := by
  refine ⟨by rw [noteError?, faultsOf_empty]; rfl, fun t v h => ?_⟩
  exact absurd (faultsOf_empty.symm.trans h.faultless) (by simp)

/-- The note on a parameter is a text exactly if its text is harmless. Whether the value is a text
can be seen on its term, before anything is evaluated. -/
theorem parameterNote_isText_iff {notes : Fields String} {name raw : String}
    (h : notes.get? name = some raw) :
    (∃ note, parameterNote dialect notes name = .ok note ∧ ∀ n ∈ note, n.isText = true) ↔
      Harmless dialect raw := by
  by_cases hempty : raw = ""
  · subst hempty
    exact iff_of_true ⟨none, parameterNote_of_empty (congrArg presentText h), by simp⟩
      harmless_empty
  rw [parameterNote_eq h hempty]
  constructor
  · rintro ⟨note, hnote, htext⟩
    obtain ⟨w, hw, rfl⟩ := exists_of_map_eq_ok hnote
    refine ⟨Option.eq_none_iff_forall_ne_some.2 fun err herr => ?_, fun t v hdescribed => ?_⟩
    · exact absurd (hw.symm.trans (structuredNote_eq_error_iff.2 herr)) (by simp)
    · have hsome := structuredNote_eq_some_iff.2 ⟨t, hdescribed⟩
      obtain rfl := Except.ok.inj (hw.symm.trans hsome)
      rw [← Literal.Term.isText_of_eval hdescribed.value, ← Literal.isText_note]
      exact htext _ rfl
  · intro hharmless
    cases hstructured : structuredNote dialect raw with
    | error err =>
      have herr := structuredNote_eq_error_iff.1 hstructured
      exact absurd (hharmless.passed.symm.trans herr) (by simp)
    | ok w =>
      refine ⟨_, rfl, ?_⟩
      rintro n ⟨⟩
      cases w with
      | none => rfl
      | some v =>
        obtain ⟨t, hdescribed⟩ := structuredNote_eq_some_iff.1 hstructured
        change v.note.isText = true
        rw [Literal.isText_note, Literal.Term.isText_of_eval hdescribed.value]
        exact hharmless.worded t v hdescribed

/-! ## Tasks and workflows -/

/-- Inputs fail with the first of the errors that their notes give. -/
theorem mapM_ofDecl_reports (dialect : Literal.Dialect) (notes : Fields MetaValue)
    (ds : List Decl) :
    Reports (ds.mapM (InputInfo.ofDecl dialect (metaTexts notes)))
      (noteErrors dialect notes ds) := by
  refine .mapM (fun d => .map ?_) ds
  have hnote := parameterNote_reports dialect (metaTexts notes) d.name
  rwa [get?_metaTexts, Option.bind_map] at hnote

theorem ne_unprintable_of_mem_noteErrors {notes : Fields MetaValue} {ds : List Decl}
    {err : SurveyError} (h : err ∈ noteErrors dialect notes ds) : err ≠ .unprintable := by
  obtain ⟨d, -, hd⟩ := List.mem_flatMap.1 h
  obtain ⟨v, -, hv⟩ := Option.bind_eq_some_iff.1 (Option.mem_toList.1 hd)
  obtain ⟨f, -, hf⟩ := Option.bind_eq_some_iff.1 hv
  rintro rfl
  cases f <;> exact absurd hf (by simp [Literal.Fault.error?])

/-- No note gives the error of an expression that does not print, so a failure with another error
is told apart from it by the notes. -/
theorem eq_error_and_ne_iff {α : Type} {r : Except SurveyError α} {notes : Fields MetaValue}
    {ds : List Decl} {err : SurveyError}
    (h : err ≠ .unprintable → (r = .error err ↔ (noteErrors dialect notes ds).head? = some err)) :
    r = .error err ∧ err ≠ .unprintable ↔ (noteErrors dialect notes ds).head? = some err := by
  constructor
  · rintro ⟨hr, herr⟩
    exact (h herr).1 hr
  · intro hhead
    have herr := ne_unprintable_of_mem_noteErrors (List.mem_of_head? hhead)
    exact ⟨(h herr).2 hhead, herr⟩

section Unprintable

variable {err : SurveyError} (herr : err ≠ .unprintable)

include herr

theorem printed_ne_error (e : Expr) : printed e ≠ .error err := by
  rw [printed]
  split
  · simp
  · exact fun h => herr (Except.error.inj h).symm

theorem OutputInfo.ofDecl_ne_error (d : Decl) : OutputInfo.ofDecl d ≠ .error err :=
  ne_error_map (ne_error_option_mapM (printed_ne_error herr) d.expr)

/-- Apart from expressions that do not print, only notes stop the documentation of a task. -/
theorem TaskInfo.ofSource_eq_error_iff (t : TaskSource) :
    TaskInfo.ofSource dialect t = .error err ↔
      (noteErrors dialect t.parameterMeta t.inputs).head? = some err := by
  refine (mapM_ofDecl_reports dialect t.parameterMeta t.inputs).bind_eq_error_iff fun inputs => ?_
  refine ne_error_bind (ne_error_mapM (OutputInfo.ofDecl_ne_error herr) _) fun outputs => ?_
  refine ne_error_bind (ne_error_option_mapM (printed_ne_error herr) _) fun command => ?_
  simp [pure, Except.pure]

/-- Apart from expressions that do not print, only notes stop the documentation of a workflow. -/
theorem WorkflowInfo.ofSource_eq_error_iff (cwd root : Path) (doc : DocumentSource)
    (imports : List ImportInfo) (w : WorkflowSource) :
    WorkflowInfo.ofSource dialect cwd root doc imports w = .error err ↔
      (noteErrors dialect w.parameterMeta w.inputs).head? = some err := by
  refine (mapM_ofDecl_reports dialect w.parameterMeta w.inputs).bind_eq_error_iff fun inputs => ?_
  refine ne_error_bind (ne_error_mapM (OutputInfo.ofDecl_ne_error herr) _) fun outputs => ?_
  dsimp only
  split
  · simp [bind, Except.bind, pure, Except.pure]
  · exact fun h => herr (Except.error.inj h).symm

end Unprintable

/-- **Harmless notes.** The description of a parameter is a text, or there is none, exactly if the
text of its note is harmless. The documentation of a task or of a workflow fails with an error other
than that of an expression that does not print exactly if the notes on its inputs give errors, and
then with the first of these. -/
theorem notes_harmless_iff (dialect : Literal.Dialect) (notes : Fields String) (name : String)
    (t : TaskSource) (cwd root : Path) (doc : DocumentSource) (imports : List ImportInfo)
    (w : WorkflowSource) (err : SurveyError) :
    ((∃ note, parameterNote dialect notes name = .ok note ∧ ∀ n ∈ note, n.isText = true) ↔
      ∀ raw, notes.get? name = some raw → Harmless dialect raw) ∧
    (TaskInfo.ofSource dialect t = .error err ∧ err ≠ .unprintable ↔
      (noteErrors dialect t.parameterMeta t.inputs).head? = some err) ∧
    (WorkflowInfo.ofSource dialect cwd root doc imports w = .error err ∧ err ≠ .unprintable ↔
      (noteErrors dialect w.parameterMeta w.inputs).head? = some err) := by
  refine ⟨?_, ?_, ?_⟩
  · cases hraw : notes.get? name with
    | none =>
      have hnone : parameterNote dialect notes name = .ok none :=
        parameterNote_of_empty (congrArg presentText hraw)
      exact iff_of_true ⟨none, hnone, by simp⟩ (by simp)
    | some raw =>
      rw [parameterNote_isText_iff hraw]
      exact ⟨fun h raw' heq => Option.some.inj heq ▸ h, fun h => h raw rfl⟩
  · exact eq_error_and_ne_iff fun herr => TaskInfo.ofSource_eq_error_iff herr t
  · exact eq_error_and_ne_iff fun herr =>
      WorkflowInfo.ofSource_eq_error_iff herr cwd root doc imports w

/-- A dictionary with a list as a key. -/
def listKeyNote : String :=
  "\x7b[1]: 2\x7d"

/-- A dictionary with a number as the description. -/
def numberNote : String :=
  "\x7b'description': 5\x7d"

/-- A task with a note on its only input. -/
def notedTask (note : String) : TaskSource where
  name := "t"
  inputs := [⟨"x", .primitive .int false, none⟩]
  parameterMeta := [("x", .string note)]

theorem noteErrors_notedTask (note : String) :
    noteErrors dialect (notedTask note).parameterMeta (notedTask note).inputs =
      (noteError? dialect note).toList := by
  rw [noteErrors, notedTask, List.flatMap_singleton, Fields.get?_cons, if_pos rfl]
  rfl

/-- A note with a list as a key is no description, and stops the documentation of its task; a note
with a number under `description` gives one that is no text. -/
theorem list_key_stops_documentation :
    parameterNote .standard [("x", listKeyNote)] "x" = .error (.unhashableKey .list) ∧
      TaskInfo.ofSource .standard (notedTask listKeyNote) = .error (.unhashableKey .list) ∧
      (parameterNote .standard [("x", numberNote)] "x").toOption.join.map Note.isText =
        some false := by
  have herror : noteError? .standard listKeyNote = some (.unhashableKey .list) := by decide +kernel
  refine ⟨?_, ?_, by decide +kernel⟩
  · rw [parameterNote_reports, Fields.get?_cons, if_pos rfl, Option.bind_some, herror]
    rfl
  · rw [TaskInfo.ofSource_eq_error_iff (by decide), noteErrors_notedTask, herror]
    rfl

end WorkflowDocs
