import Mathlib.Data.List.Perm.Basic
import WorkflowDocs.Page.Index
import WorkflowDocs.Proofs.Grouping

/-!
# What the index lists

The groups of the index list documents by their kind, the project's own apart from third-party ones.
Kinds exclude each other, so no document stands in two of the lists. There is no group for documents
with neither a workflow nor tasks: these are counted at the head of the index and in its tabs, and
they can be searched, but they stand in none of its lists. Of all other documents, the lists have
each exactly once.

## Main definitions

* `Index.internalLists`, `Index.externalLists`, `Index.lists`: the lists of the index

## Main results

* `documentsOfKinds_perm`: the lists for several kinds have the documents of these kinds
* `Index.lists_disjoint`: no document is in two lists
* `Index.lists_complete_iff`: which documents the lists have, and when these are all
* `Index.unlisted_document`: a document that is counted and not listed
-/

namespace WorkflowDocs

open scoped List

/-! ## Documents by kind -/

theorem DocumentInfo.kind_eq_empty_iff {d : DocumentInfo} :
    d.kind = .empty ↔ d.workflow = none ∧ d.tasks = [] := by
  rw [kind]
  cases d.workflow <;> cases d.tasks <;> simp

theorem documentsOfKind_perm (kind : DocumentKind) (documents : List DocumentInfo) :
    (documentsOfKind kind documents).Perm (documents.filter fun d => d.kind == kind) :=
  List.mergeSort_perm _ _

theorem mem_documentsOfKind {kind : DocumentKind} {documents : List DocumentInfo}
    {d : DocumentInfo} : d ∈ documentsOfKind kind documents ↔ d ∈ documents ∧ d.kind = kind := by
  rw [(documentsOfKind_perm kind documents).mem_iff, List.mem_filter, beq_iff_eq]

/-- The lists for several kinds have the documents of these kinds, each once. -/
theorem documentsOfKinds_perm {kinds : List DocumentKind} (h : kinds.Nodup)
    (documents : List DocumentInfo) :
    (kinds.flatMap fun kind => documentsOfKind kind documents).Perm
      (documents.filter fun d => decide (d.kind ∈ kinds)) := by
  refine List.Perm.trans ?_ (flatMap_filter_perm (·.kind) h documents)
  exact List.Perm.flatMap_left _ fun kind _ => documentsOfKind_perm kind documents

/-- The lists for all kinds but one have all documents but those of this kind. -/
theorem documentsOfKinds_perm_nonempty {kinds : List DocumentKind} (h : kinds.Nodup)
    (hkinds : ∀ kind, kind ∈ kinds ↔ kind ≠ .empty) (documents : List DocumentInfo) :
    (kinds.map fun kind => documentsOfKind kind documents).flatten ~
      documents.filter fun d => d.kind != .empty := by
  refine (documentsOfKinds_perm h documents).trans (.of_eq (List.filter_congr fun d _ => ?_))
  rw [Bool.eq_iff_iff, decide_eq_true_iff, hkinds, bne_iff_ne]

/-- No document is in the lists for two kinds. -/
theorem documentsOfKinds_disjoint {kinds : List DocumentKind} (h : kinds.Nodup)
    (documents : List DocumentInfo) :
    (kinds.map fun kind => documentsOfKind kind documents).Pairwise List.Disjoint := by
  rw [List.pairwise_map]
  refine h.imp fun {a b} hne d ha hb => hne ?_
  exact (mem_documentsOfKind.1 ha).2.symm.trans (mem_documentsOfKind.1 hb).2

namespace Index

variable (x : Index)

/-! ## The lists -/

/-- The lists of the project's documents, in the order of their groups. -/
def internalLists : List (List DocumentInfo) :=
  (Html.internalGroups.map (·.kind)).map x.internalOf

/-- The lists of third-party documents, in the order of their groups. -/
def externalLists : List (List DocumentInfo) :=
  (Html.externalGroups.map (·.kind)).map x.externalOf

/-- The lists of the index. -/
def lists : List (List DocumentInfo) :=
  x.internalLists ++ x.externalLists

theorem flatten_internalLists_perm :
    x.internalLists.flatten ~ x.internal.filter fun d => d.kind != .empty :=
  documentsOfKinds_perm_nonempty (by decide) (fun kind => by cases kind <;> decide) x.internal

theorem flatten_externalLists_perm :
    x.externalLists.flatten ~ x.external.filter fun d => d.kind != .empty :=
  documentsOfKinds_perm_nonempty (by decide) (fun kind => by cases kind <;> decide) x.external

/-- Each document is the project's or a third party's. -/
theorem internal_append_external_perm : x.internal ++ x.external ~ x.documents := by
  have hsplit := List.filter_append_perm (fun d : DocumentInfo => !d.isExternal) x.documents
  simp only [Bool.not_not] at hsplit
  exact hsplit

/-- The lists have the documents with a workflow or tasks, each once. -/
theorem flatten_lists_perm :
    x.lists.flatten ~ x.documents.filter fun d => d.kind != .empty := by
  rw [lists, List.flatten_append]
  refine (x.flatten_internalLists_perm.append x.flatten_externalLists_perm).trans ?_
  rw [← List.filter_append]
  exact x.internal_append_external_perm.filter _

/-- No document is in two of the lists. The lists of either side have external documents only, or
none. -/
theorem lists_disjoint : x.lists.Pairwise List.Disjoint := by
  rw [lists, List.pairwise_append]
  refine ⟨documentsOfKinds_disjoint (by decide) _, documentsOfKinds_disjoint (by decide) _, ?_⟩
  intro a ha b hb d hda hdb
  obtain ⟨kind, -, rfl⟩ := List.mem_map.1 ha
  obtain ⟨kind', -, rfl⟩ := List.mem_map.1 hb
  have hinternal := (List.mem_filter.1 (mem_documentsOfKind.1 hda).1).2
  have hexternal := (List.mem_filter.1 (mem_documentsOfKind.1 hdb).1).2
  rw [hexternal] at hinternal
  exact absurd hinternal (by simp)

/-! ## When all documents are listed -/

/-- Documents that are counted and not listed are those without a workflow and tasks. -/
theorem length_eq_add {documents listed : List DocumentInfo}
    (h : listed ~ documents.filter fun d => d.kind != .empty) :
    documents.length = listed.length + (documents.filter fun d => d.kind == .empty).length := by
  rw [h.length_eq, List.length_eq_length_filter_add fun d : DocumentInfo => d.kind != .empty]
  simp only [bne, Bool.not_not]

/-- **What the index lists.** No document stands in two of the six lists, and together they have the
documents with a workflow or tasks, each once. The numbers of documents that the index shows count
the others in addition. So the lists have all documents, and their lengths make up these numbers,
exactly if every document has a workflow or tasks. -/
theorem lists_complete_iff :
    x.lists.Pairwise List.Disjoint ∧
    (x.lists.flatten ~ x.documents.filter fun d => d.kind != .empty) ∧
    (x.internal.length =
      x.internalLists.flatten.length + (x.internal.filter fun d => d.kind == .empty).length) ∧
    (x.external.length =
      x.externalLists.flatten.length + (x.external.filter fun d => d.kind == .empty).length) ∧
    (x.lists.flatten ~ x.documents ∧ x.internal.length = x.internalLists.flatten.length ∧
        x.external.length = x.externalLists.flatten.length ↔
      ∀ d ∈ x.documents, d.workflow ≠ none ∨ d.tasks ≠ []) := by
  have hinternal := length_eq_add x.flatten_internalLists_perm
  have hexternal := length_eq_add x.flatten_externalLists_perm
  refine ⟨x.lists_disjoint, x.flatten_lists_perm, hinternal, hexternal, ?_⟩
  have hcontent : ∀ d : DocumentInfo,
      (d.workflow ≠ none ∨ d.tasks ≠ []) ↔ (d.kind != .empty) = true := by
    intro d
    simp only [bne_iff_ne, ne_eq, DocumentInfo.kind_eq_empty_iff, not_and_or]
  simp only [hcontent]
  constructor
  · rintro ⟨hperm, -, -⟩
    have hlength := (x.flatten_lists_perm.symm.trans hperm).length_eq
    exact List.length_filter_eq_length_iff.1 hlength
  · intro hall
    have hlost : ∀ part : List DocumentInfo, part ⊆ x.documents →
        (part.filter fun d => d.kind == .empty).length = 0 := by
      intro part hpart
      rw [List.length_eq_zero_iff, List.filter_eq_nil_iff]
      intro d hd
      simpa [bne] using hall d (hpart hd)
    rw [hlost x.internal List.filter_sublist.subset] at hinternal
    rw [hlost x.external List.filter_sublist.subset] at hexternal
    exact ⟨x.flatten_lists_perm.trans (.of_eq (List.filter_eq_self.2 hall)), hinternal, hexternal⟩

/-- A document without a workflow and tasks is counted, and stands in none of the lists. -/
theorem unlisted_document :
    let x : Index := ⟨[{ filePath := ⟨.slash, ["p", "structs.wdl"]⟩
                         relativePath := ⟨.relative, ["structs.wdl"]⟩ }], []⟩
    x.internal.length = 1 ∧ x.lists.flatten.length = 0 :=
  ⟨by decide, (flatten_lists_perm _).length_eq⟩

end Index

end WorkflowDocs
