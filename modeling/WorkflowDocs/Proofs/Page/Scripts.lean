import WorkflowDocs.Proofs.Flowchart.Labels
import WorkflowDocs.Proofs.Html.Components
import WorkflowDocs.Proofs.Results
import WorkflowDocs.Proofs.Workspace.Entries

/-!
# Scripts on document pages

The page of a document opens six scripts of its own, and one more if its workflow has a graph. All
other text of the document is shown as text, except for the graph, which is put into the page as it
is: the page opens every script that a name or an expression in the graph opens. So two pages with a
graph open the same number of scripts exactly if their graphs do.

## Main definitions

* `Page.scripts`: the number of places where a page opens a script
* `DocumentInfo.graph?`, `DocumentInfo.graphScripts`: the graph that a page shows, and its scripts

## Main results

* `scripts_documentPage`: the scripts of a page
* `scripts_agree_iff`: when two pages open the same number of scripts
* `condition_opens_script`: a condition that changes the number
-/

namespace WorkflowDocs

open Html (scriptTag Opens Inert)

/-! ## Pages and their graphs -/

/-- The number of places where a page opens a script. -/
def Page.scripts (page : Page) : Nat :=
  Text.occurrences ('<' :: scriptTag) page.content.render.toList

namespace DocumentInfo

/-- The graph that the page of a document shows. -/
def graph? (d : DocumentInfo) : Option String :=
  d.workflow.bind fun w => presentText w.graph

/-- The number of places where the graph of a document opens a script. -/
def graphScripts (d : DocumentInfo) : Nat :=
  d.graph?.elim 0 fun graph => Text.occurrences ('<' :: scriptTag) graph.toList

end DocumentInfo

namespace Html

theorem opens_documentModals (d : DocumentInfo) :
    Opens scriptTag (d.graph?.elim 0 fun graph =>
      Text.occurrences ('<' :: scriptTag) graph.toList + 1) (documentModals d) := by
  refine Opens.append_inert ?_ (inert_elim fun _ => inert_sourceModal)
  rw [DocumentInfo.graph?]
  cases d.workflow with
  | none => exact inert_nil.opens
  | some w =>
    rw [Option.elim_some, Option.bind_some]
    cases presentText w.graph with
    | none => exact inert_nil.opens
    | some graph =>
      have hindent : Inert scriptTag (markup "        ") := .ofList (by decide)
      exact (hindent.append_opens opens_graphModal).append_inert (.ofList (by decide))

theorem opens_of_documentContent {d : DocumentInfo} {callers : List Caller} {top : String}
    {h : Html} (hcontent : documentContent d callers top = .ok h) :
    Opens scriptTag (d.graph?.elim 0 fun graph =>
      Text.occurrences ('<' :: scriptTag) graph.toList + 1) h := by
  obtain ⟨workflow, hworkflow, hcontent⟩ := exists_of_bind_eq_ok hcontent
  obtain ⟨tasks, htasks, hcontent⟩ := exists_of_bind_eq_ok hcontent
  obtain rfl := Except.ok.inj hcontent
  have hworkflow : Inert scriptTag workflow := by
    cases hw : d.workflow with
    | none =>
      rw [hw] at hworkflow
      obtain rfl := Except.ok.inj hworkflow
      exact inert_nil
    | some w =>
      rw [hw] at hworkflow
      exact inert_of_workflowSection hworkflow
  refine Inert.append_opens ?_ (opens_documentModals d)
  simp only [inert_append, inert_documentCard, inert_importsSection, hworkflow,
    inert_of_tasksSection htasks, inert_text, true_and, and_true]
  and_intros <;> exact .ofList (by decide)

end Html

/-- A page opens six scripts, and one more with those of the graph if it shows one. The layout has
six scripts, and what it is given has those of the content only. -/
theorem scripts_documentPage {look : Appearance} {d : DocumentInfo} {all : List DocumentInfo}
    {page : Page} (h : documentPage look d all = .ok page) :
    page.scripts = if d.graph?.isSome then 7 + d.graphScripts else 6 := by
  obtain ⟨path, -, h⟩ := exists_of_bind_eq_ok h
  obtain ⟨-, -, h⟩ := exists_of_bind_eq_ok h
  obtain ⟨callers, -, h⟩ := exists_of_bind_eq_ok h
  obtain ⟨content, hcontent, h⟩ := exists_of_bind_eq_ok h
  obtain ⟨-, -, h⟩ := exists_of_bind_eq_ok h
  split at h
  · exact absurd h (by simp)
  · obtain rfl := Except.ok.inj h
    have htitle : Inert scriptTag (Html.documentTitle d) :=
      Html.inert_append.2 ⟨Html.inert_text, .ofList (by decide)⟩
    have hpage : Opens scriptTag _ (Html.layout look d.relativePath.wayToTop (Html.documentTitle d)
        (Html.documentHeader d) (Html.documentNavigation d) content) :=
      Html.opens_layout htitle Html.inert_documentHeader Html.inert_documentNavigation
        (Html.opens_of_documentContent hcontent)
    rw [Page.scripts, hpage.count, DocumentInfo.graphScripts]
    cases d.graph? with
    | none => rfl
    | some graph =>
      simp only [Option.elim_some, Option.isSome_some, if_true]
      omega

/-! ## Graphs of sources -/

theorem Flowchart.render_ne_empty {wf : WorkflowSource} (hbody : wf.body ≠ []) :
    Flowchart.render wf ≠ "" := by
  intro h
  have hchars := congrArg String.toList h
  rw [Flowchart.render, if_neg (by simpa using hbody)] at hchars
  simp [Flowchart.Chart.lines, Text.joinWith] at hchars

/-- The page of a source shows a graph unless the workflow has no body, and the graph opens the
scripts of its labels. -/
theorem Workspace.graphScripts_of_parse {ws : Workspace} {root file : Path} {d : DocumentInfo}
    {doc : DocumentSource} {wf : WorkflowSource} (hparse : ws.parse root file = .ok d)
    (hload : ws.load file = .ok doc) (hworkflow : doc.workflow = some wf) :
    d.graph?.isSome = !wf.body.isEmpty ∧
    d.graphScripts = if wf.body.isEmpty then 0 else
      Text.occurrencesIn ('<' :: scriptTag) (Flowchart.Chart.ofBody wf.name wf.body).labels := by
  have hentries := (entries_of_parse hparse hload).1
  rw [hworkflow] at hentries
  cases hinfo : d.workflow with
  | none => rw [hinfo] at hentries; cases hentries
  | some info =>
    rw [hinfo] at hentries
    cases hentries with
    | some hsource =>
    have hgraph : d.graph? = presentText (some (Flowchart.render wf)) := by
      rw [DocumentInfo.graph?, hinfo, Option.bind_some, (inputs_and_graph_of_ofSource hsource).2]
    rw [DocumentInfo.graphScripts, hgraph]
    by_cases hbody : wf.body = []
    · have hempty : presentText (some "") = none := rfl
      simp [Flowchart.render, hbody, hempty]
    · have hletters : ∀ c ∈ scriptTag, c.isAlpha = true := by simp [scriptTag]
      rw [presentText_of_ne (Flowchart.render_ne_empty hbody), Option.elim_some,
        Flowchart.occurrences_render hletters hbody]
      simp [hbody]

/-! ## Two pages -/

/-- **The scripts of document pages.** Two pages that agree on whether they show a graph open the
same number of scripts exactly if their graphs do; the page of a source opens those of the labels in
its chart. Without a graph, neither side has scripts to differ in. -/
theorem scripts_agree_iff {look look' : Appearance} {d d' : DocumentInfo}
    {all all' : List DocumentInfo} {page page' : Page}
    (hpage : documentPage look d all = .ok page) (hpage' : documentPage look' d' all' = .ok page')
    (hgraph : d.graph?.isSome = d'.graph?.isSome) :
    (page.scripts = page'.scripts ↔ d.graphScripts = d'.graphScripts) ∧
    page.scripts = (if d.graph?.isSome then 7 + d.graphScripts else 6) ∧
    ∀ (ws : Workspace) (root file : Path) (doc : DocumentSource) (wf : WorkflowSource),
      ws.parse root file = .ok d → ws.load file = .ok doc → doc.workflow = some wf →
      d.graph?.isSome = !wf.body.isEmpty ∧
      d.graphScripts = if wf.body.isEmpty then 0 else
        Text.occurrencesIn ('<' :: scriptTag) (Flowchart.Chart.ofBody wf.name wf.body).labels := by
  have hscripts := scripts_documentPage hpage
  refine ⟨?_, hscripts, fun _ _ _ _ _ => Workspace.graphScripts_of_parse⟩
  rw [hscripts, scripts_documentPage hpage', ← hgraph]
  by_cases hsome : d.graph?.isSome = true
  · rw [if_pos hsome, if_pos hsome]
    omega
  · have hnone : d.graph? = none := by simpa using hsome
    have hnone' : d'.graph? = none := by
      rw [hnone] at hgraph
      simpa using hgraph.symm
    rw [DocumentInfo.graphScripts, DocumentInfo.graphScripts, hnone, hnone']
    simp

/-- A source with a description, and a call under a condition that compares with a text. -/
def guardedSource (description compared : String) : DocumentSource where
  workflow := some
    { name := "w"
      metadata := [("description", .string description)]
      body := [.conditional
        (some (.apply "_eqeq" [.get (.ident "s") none,
          .string [.text "\"", .text compared, .text "\""]]))
        [.call { path := ["t"], name := "t", inputs := [], callee := some ⟨.task, "t"⟩ }]] }

/-- A project with three such sources: a plain one, one that describes a script, and one that
compares with a script. -/
def guardedWorkspace : Workspace where
  tree := ⟨[(["p"], .directory), (["p", "plain.wdl"], .file .empty),
    (["p", "described.wdl"], .file .empty), (["p", "compared.wdl"], .file .empty)]⟩
  sources := [(["p", "plain.wdl"], .ok (guardedSource "" "x")),
    (["p", "described.wdl"], .ok (guardedSource "<script>" "x")),
    (["p", "compared.wdl"], .ok (guardedSource "" "<script>"))]

/-- The source of a name in the project has the document `d` with the page `page`. -/
def GuardedPage (name : String) (d : DocumentInfo) (page : Page) : Prop :=
  guardedWorkspace.parse ⟨.slash, ["p"]⟩ ⟨.slash, ["p", name]⟩ = .ok d ∧
    documentPage {} d [] = .ok page

theorem exists_guardedPage :
    (∃ d page, GuardedPage "plain.wdl" d page) ∧ (∃ d page, GuardedPage "described.wdl" d page) ∧
      ∃ d page, GuardedPage "compared.wdl" d page :=
  ⟨⟨_, _, rfl, rfl⟩, ⟨_, _, rfl, rfl⟩, _, _, rfl, rfl⟩

theorem scripts_agree_iff_described :
    ∃ d d' page page', GuardedPage "plain.wdl" d page ∧ GuardedPage "described.wdl" d' page' ∧
      d.graph?.isSome = d'.graph?.isSome ∧ page.scripts = 7 ∧ page.scripts = page'.scripts := by
  obtain ⟨⟨d, page, hparse, hpage⟩, ⟨d', page', hparse', hpage'⟩, -⟩ := exists_guardedPage
  obtain ⟨hsome, hscripts⟩ := Workspace.graphScripts_of_parse hparse rfl rfl
  obtain ⟨hsome', hscripts'⟩ := Workspace.graphScripts_of_parse hparse' rfl rfl
  have hgraph : d.graph?.isSome = d'.graph?.isSome := hsome.trans hsome'.symm
  obtain ⟨hiff, hcount, hsource⟩ := scripts_agree_iff hpage hpage' hgraph
  have hzero : d.graphScripts = 0 := (hsource _ _ _ _ _ hparse rfl rfl).2.trans (by decide)
  have hzero' : d'.graphScripts = 0 := hscripts'.trans (by decide)
  refine ⟨d, d', page, page', ⟨hparse, hpage⟩, ⟨hparse', hpage'⟩, hgraph, ?_, ?_⟩
  · rw [hcount, hsome, hzero]
    rfl
  · exact hiff.2 (hzero.trans hzero'.symm)

/-- A condition that compares with a script opens it on the page. -/
theorem condition_opens_script :
    ∃ d d' page page', GuardedPage "plain.wdl" d page ∧ GuardedPage "compared.wdl" d' page' ∧
      d.graph?.isSome = d'.graph?.isSome ∧ page.scripts = 7 ∧ page'.scripts = 8 := by
  obtain ⟨⟨d, page, hparse, hpage⟩, -, d', page', hparse', hpage'⟩ := exists_guardedPage
  obtain ⟨hsome, hscripts⟩ := Workspace.graphScripts_of_parse hparse rfl rfl
  obtain ⟨hsome', hscripts'⟩ := Workspace.graphScripts_of_parse hparse' rfl rfl
  refine ⟨d, d', page, page', ⟨hparse, hpage⟩, ⟨hparse', hpage'⟩, hsome.trans hsome'.symm, ?_, ?_⟩
  · rw [scripts_documentPage hpage, hsome, hscripts]
    decide
  · rw [scripts_documentPage hpage', hsome', hscripts']
    decide

end WorkflowDocs
