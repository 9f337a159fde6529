import Mathlib.Data.List.Forall2
import WorkflowDocs.Proofs.Results
import WorkflowDocs.Proofs.Site.Links

/-!
# The entries of a document

A source that has a document was read, and each of its parts was documented on its own: the document
has a workflow if the source has one, and a task for each task of the source.

## Main results

* `entries_of_parse`: the workflow and the tasks of a document
* `inputs_and_graph_of_ofSource`: the inputs and the graph of a documented workflow
-/

namespace WorkflowDocs.Workspace

variable {w : Workspace} {root file : Path} {d : DocumentInfo}

/-- The workflow and the tasks of a document are those of its source. -/
theorem entries_of_parse {doc : DocumentSource} (h : w.parse root file = .ok d)
    (hload : w.load file = .ok doc) :
    Option.Rel
      (fun wf info => WorkflowInfo.ofSource w.dialect w.cwd root doc d.imports wf = .ok info)
      doc.workflow d.workflow ∧
    List.Forall₂ (fun t info => TaskInfo.ofSource w.dialect t = .ok info) doc.tasks d.tasks := by
  obtain ⟨doc', hdoc, h⟩ := exists_of_bind_eq_ok h
  obtain rfl : doc = doc' := Except.ok.inj (hload.symm.trans (eq_ok_of_mapError hdoc))
  obtain ⟨workflow, hworkflow, h⟩ := exists_of_bind_eq_ok h
  obtain ⟨tasks, htasks, h⟩ := exists_of_bind_eq_ok h
  obtain rfl := Except.ok.inj h
  refine ⟨?_, (forall₂_of_mapM htasks).imp fun _ _ => eq_ok_of_mapError⟩
  cases hsource : doc.workflow with
  | none =>
    rw [hsource] at hworkflow
    obtain rfl := Except.ok.inj hworkflow
    exact .none
  | some wf =>
    rw [hsource] at hworkflow
    obtain ⟨info, hinfo, hsome⟩ := exists_of_bind_eq_ok hworkflow
    obtain rfl := Except.ok.inj hsome
    exact .some (eq_ok_of_mapError hinfo)

/-- A documented workflow has the inputs that its source declares, and its chart as the graph. -/
theorem inputs_and_graph_of_ofSource {dialect : Literal.Dialect} {cwd : Path}
    {doc : DocumentSource} {imports : List ImportInfo} {wf : WorkflowSource} {info : WorkflowInfo}
    (h : WorkflowInfo.ofSource dialect cwd root doc imports wf = .ok info) :
    wf.inputs.mapM (InputInfo.ofDecl dialect (metaTexts wf.parameterMeta)) = .ok info.inputs ∧
      info.graph = some (Flowchart.render wf) := by
  obtain ⟨inputs, hinputs, h⟩ := exists_of_bind_eq_ok h
  obtain ⟨outputs, -, h⟩ := exists_of_bind_eq_ok h
  cases himages : Images.images? doc wf with
  | none => simp [himages, bind, Except.bind] at h
  | some images =>
    rw [himages] at h
    obtain rfl := Except.ok.inj h
    exact ⟨hinputs, rfl⟩

end WorkflowDocs.Workspace
