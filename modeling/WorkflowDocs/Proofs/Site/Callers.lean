import WorkflowDocs.Proofs.Grouping
import WorkflowDocs.Proofs.Lists
import WorkflowDocs.Proofs.Page.Rendering

/-!
# How often a workflow is called

The index shows how often the workflows of a name are called, and the page of a workflow lists its
callers. Both go through the calls of all documents, the index once for all names, and a page for
its own name, without the documents that agree with its own. As agreeing documents call the same,
the two numbers are equal unless a workflow calls its own name.

What is counted is calls. A document that calls a workflow several times, under different names, is
counted and listed for each of them.

## Main definitions

* `DocumentInfo.callees`: what a document calls, by kind and name
* `DocumentInfo.Calls`: a document that calls a workflow

## Main results

* `getD_callerCounts`: the number on the index is that of all calls
* `length_of_callers?`: the callers on a page are the calls of the other documents
* `callers_length_eq_callerCount`: the page and the index agree
* `callerCount_eq_callers_iff`: when the number of calls is that of the documents that call
-/

namespace WorkflowDocs

/-! ## What a document calls -/

namespace DocumentInfo

/-- What a document calls: the kind and the name of the target of each call. -/
def callees (d : DocumentInfo) : List (CallKind × String) :=
  (d.workflow.elim [] (·.calls)).map fun c => (c.kind, c.target)

/-- A document calls a workflow if its own workflow has a workflow call to this name. -/
def Calls (d : DocumentInfo) (name : String) : Prop :=
  ∃ w, d.workflow = some w ∧ ∃ c ∈ w.calls, c.kind = .workflow ∧ c.target = name

variable {d e : DocumentInfo} {name : String}

theorem length_callsTo (d : DocumentInfo) (name : String) :
    (d.callsTo name).length = d.callees.count (.workflow, name) := by
  rw [callsTo, workflowCalls, List.filter_filter, callees, List.count_eq_countP, List.countP_map,
    List.countP_eq_length_filter]
  congr 1
  refine List.filter_congr fun c _ => ?_
  exact Bool.and_comm _ _

theorem calls_iff : d.Calls name ↔ d.callsTo name ≠ [] := by
  rw [← List.length_pos_iff, length_callsTo, List.count_pos_iff, callees, List.mem_map, Calls]
  cases d.workflow <;> simp

instance (d : DocumentInfo) (name : String) : Decidable (d.Calls name) :=
  decidable_of_iff (d.callsTo name ≠ []) calls_iff.symm

end DocumentInfo

/-- What agreeing members have in common is read off agreeing lists. -/
theorem map_eq_of_listsAgree {α β : Type} {same : α → α → Bool} {f : α → β}
    (hsame : ∀ a b, same a b = true → f a = f b) {as bs : List α}
    (h : listsAgree same as bs = true) : as.map f = bs.map f := by
  obtain ⟨hlength, hall⟩ := Bool.and_eq_true_iff.1 h
  refine map_eq_of_forall₂ (List.forall₂_iff_zip.2 ⟨by simpa using hlength, fun hab => ?_⟩)
  exact hsame _ _ (List.all_eq_true.1 hall _ hab)

/-- Agreeing documents call the same. -/
theorem DocumentInfo.callees_eq_of_agrees {d e : DocumentInfo} (h : e.agrees d = true) :
    e.callees = d.callees := by
  have hworkflow : optionsAgree WorkflowInfo.agrees e.workflow d.workflow = true := by
    simp only [agrees, Bool.and_eq_true] at h
    exact h.1.1.1.2
  rw [callees, callees]
  revert hworkflow
  cases e.workflow <;> cases d.workflow <;> intro hworkflow
  case none.none => rfl
  case none.some => exact absurd hworkflow Bool.false_ne_true
  case some.none => exact absurd hworkflow Bool.false_ne_true
  case some.some w v =>
    have hcalls : listsAgree CallInfo.agrees w.calls v.calls = true := by
      simp only [optionsAgree, WorkflowInfo.agrees, Bool.and_eq_true] at hworkflow
      exact hworkflow.1.1.1.1.1.2
    refine map_eq_of_listsAgree (fun a b hab => ?_) hcalls
    simp only [CallInfo.agrees, Bool.and_eq_true, beq_iff_eq] at hab
    rw [hab.2, hab.1.1.1.1.1.2]

/-! ## The number on the index -/

theorem foldl_succ (occurrences : List String) (n : Nat) :
    occurrences.foldl (fun n _ => n + 1) n = n + occurrences.length := by
  induction occurrences generalizing n with
  | nil => rfl
  | cons _ _ ih =>
    rw [List.foldl_cons, ih, List.length_cons]
    omega

/-- A tally has the number of occurrences of each name. -/
theorem getD_tally (names : List String) (name : String) :
    ((tally names).get? name).getD 0 = names.count name := by
  have htally : (tally names).get? name = Fields.gathered? (fun _ : String => 0) (fun _ n => n + 1)
      (names.filter fun n => n == name) :=
    Fields.get?_gather id _ _ names name
  rw [htally, List.count_eq_length_filter, Fields.gathered?]
  cases names.filter fun n => n == name with
  | nil => rfl
  | cons first rest => exact (foldl_succ _ _).trans (Nat.zero_add _)

/-- The index shows the number of calls to a workflow by all documents. -/
theorem getD_callerCounts {documents : List DocumentInfo} {name : String}
    (h : name ∈ workflowNames documents) :
    ((callerCounts documents).get? name).getD 0 =
      (documents.flatMap (·.callsTo name)).length := by
  have htargets : (documents.flatMap fun d => d.workflowCalls.map (·.target)) =
      (documents.flatMap (·.workflowCalls)).map (·.target) := List.map_flatMap.symm
  rw [callerCounts, getD_tally, calledNames, List.count_filter (by simpa using h), htargets,
    List.count_eq_countP, List.countP_map, List.countP_eq_length_filter, List.filter_flatMap]
  rfl

/-! ## The callers on a page -/

/-- A page lists a caller for each call from a document that does not agree with its own. -/
theorem length_of_callers? {documents : List DocumentInfo} {d : DocumentInfo} {w : WorkflowInfo}
    {callers : List Caller} (hw : d.workflow = some w) (h : callers? d documents = some callers) :
    callers.length =
      ((documents.filter fun e => !e.agrees d).flatMap (·.callsTo w.name)).length := by
  rw [callers?, hw] at h
  rw [← (forall₂_of_mapM_eq_some h).length_eq, List.length_flatMap, List.length_flatMap]
  simp only [List.length_map]

/-- **The page and the index agree.** For a workflow that does not call its own name, the page lists
as many callers as the index counts, if the places of the documents name files. What agrees with the
document calls its own name as little as it does. -/
theorem callers_length_eq_callerCount {documents : List DocumentInfo} {d : DocumentInfo}
    {w : WorkflowInfo} (hplaces : ∀ e ∈ documents, e.relativePath.NamesFile) (hd : d ∈ documents)
    (hw : d.workflow = some w) (hself : ¬ d.Calls w.name) :
    ∃ callers, callers? d documents = some callers ∧
      callers.length = ((callerCounts documents).get? w.name).getD 0 := by
  have hname : w.name ∈ workflowNames documents :=
    List.mem_filterMap.2 ⟨d, hd, by rw [hw, Option.map_some]⟩
  obtain ⟨callers, hcallers⟩ := exists_callers? (havePages_of_namesFile hplaces) d
  refine ⟨callers, hcallers, ?_⟩
  rw [length_of_callers? hw hcallers, getD_callerCounts hname, flatMap_filter_eq]
  intro e _ hagrees
  rw [DocumentInfo.calls_iff, not_not] at hself
  rw [← List.length_eq_zero_iff, DocumentInfo.length_callsTo,
    DocumentInfo.callees_eq_of_agrees (by simpa using hagrees), ← DocumentInfo.length_callsTo,
    hself, List.length_nil]

/-- A call to the workflow `sub`. -/
def subCall (aliasName : Option String) : CallInfo :=
  { name := "sub", target := "sub", aliasName, kind := .workflow }

/-- A document at a place, with a workflow that makes the given calls. -/
def callingDocument (place name : String) (calls : List CallInfo) : DocumentInfo where
  filePath := Path.ofText place
  relativePath := Path.ofText place
  workflow := some { name, calls }

/-- Two workflows of one name, and a document that calls this name twice and is itself listed
twice. -/
def repeatedCallers : List DocumentInfo :=
  [callingDocument "main.wdl" "main" [subCall none, subCall (some "again")],
   callingDocument "lib/sub.wdl" "sub" [], callingDocument "sub.wdl" "sub" [],
   callingDocument "main.wdl" "main" [subCall none, subCall (some "again")]]

/-- Four calls from a document that is listed twice, for the index and for each of the pages. -/
theorem callers_length_eq_callerCount_repeated :
    ((callerCounts repeatedCallers).get? "sub").getD 0 = 4 ∧
      ∃ callers, callers? (callingDocument "sub.wdl" "sub" []) repeatedCallers = some callers ∧
        callers.length = ((callerCounts repeatedCallers).get? "sub").getD 0 :=
  ⟨by decide +kernel, callers_length_eq_callerCount (w := { name := "sub" }) (by decide +kernel)
    (.tail _ (.tail _ (.head _))) rfl (by decide +kernel)⟩

/-! ## Calls and callers -/

/-- **Callers are counted once for each call.** The number on the index is the sum of the calls of
all documents. It is the number of documents that call the workflow exactly if none of them calls
it twice, and so is the number of callers on a page. -/
theorem callerCount_eq_callers_iff {documents : List DocumentInfo} {name : String}
    (h : name ∈ workflowNames documents) :
    ((callerCounts documents).get? name).getD 0 =
        (documents.map fun e => e.callees.count (.workflow, name)).foldr (· + ·) 0 ∧
      (((callerCounts documents).get? name).getD 0 =
          documents.countP (fun e => decide (e.Calls name)) ↔
        ∀ e ∈ documents, e.callees.count (.workflow, name) ≤ 1) ∧
      ∀ d w callers, d.workflow = some w → w.name = name → callers? d documents = some callers →
        (callers.length =
            (documents.filter fun e => !e.agrees d).countP (fun e => decide (e.Calls name)) ↔
          ∀ e ∈ documents, e.agrees d = false → e.callees.count (.workflow, name) ≤ 1) := by
  have hcalls : ∀ e : DocumentInfo, decide (e.Calls name) = true ↔ e.callsTo name ≠ [] :=
    fun e => decide_eq_true_iff.trans DocumentInfo.calls_iff
  simp only [← DocumentInfo.length_callsTo]
  refine ⟨?_, ?_, ?_⟩
  · rw [getD_callerCounts h, List.length_flatMap]
    rfl
  · rw [getD_callerCounts h, length_flatMap_eq_countP_iff hcalls]
  · intro d w callers hw hname hcallers
    subst hname
    rw [length_of_callers? hw hcallers, length_flatMap_eq_countP_iff hcalls]
    simp only [List.mem_filter, Bool.not_eq_true', and_imp]

/-- Two documents that call a workflow once each. -/
def separateCallers : List DocumentInfo :=
  [callingDocument "a.wdl" "a" [subCall none], callingDocument "b.wdl" "b" [subCall (some "again")],
   callingDocument "sub.wdl" "sub" []]

theorem callerCount_eq_callers_iff_separate :
    ((callerCounts separateCallers).get? "sub").getD 0 =
      separateCallers.countP (fun e => decide (e.Calls "sub")) :=
  (callerCount_eq_callers_iff (by decide)).2.1.2 (by decide)

/-- A document that calls a workflow under two names. -/
def aliasedCaller : List DocumentInfo :=
  [callingDocument "main.wdl" "main" [subCall (some "first"), subCall (some "second")],
   callingDocument "sub.wdl" "sub" []]

/-- One document calls the workflow, which counts as two callers and is listed twice. -/
theorem caller_counted_twice :
    "sub" ∈ workflowNames aliasedCaller ∧
      aliasedCaller.countP (fun e => decide (e.Calls "sub")) = 1 ∧
      ((callerCounts aliasedCaller).get? "sub").getD 0 = 2 ∧
      callers? (callingDocument "sub.wdl" "sub" []) aliasedCaller =
        some [⟨"main", "main.wdl", "main.html"⟩, ⟨"main", "main.wdl", "main.html"⟩] := by
  decide +kernel

end WorkflowDocs
