import Mathlib.Data.List.Perm.Basic
import WorkflowDocs.Proofs.Grouping
import WorkflowDocs.Proofs.Page.Rendering

/-!
# What the image inventory lists

The images of a list of documents are filed one after the other, under their repository and there
under their key, and each brings the uses that its document makes of it. An entry is opened by the
first image with its key, and has the uses of all of them. The numbers that are kept on the way stay
the numbers of what is listed, so nothing is lost or counted twice, whatever keys coincide. Only at
the end are the entries and the repositories put in order.

## Main definitions

* `Filing`, `filings?`: an image with its uses, and those of a list of documents
* `repositoriesOf`, `imagesOf`: repositories and entries by what is filed under them
* `taskUses`: the calls that the images of documents list, with the names of their workflows
* `Shelf.Accounts`: a shelf with all that the documents have, counted and in order
* `Shelf.ListsUses`: a shelf with the uses that a document makes of an image

## Main results

* `repositories?_eq`: repositories are made by filing
* `mem_repositoriesOf`, `mem_imagesOf`: what stands under a repository and under a key
* `Shelf.accounts_of_filings`: the shelf of a list of documents
* `exists_listsUses`: where the uses of an image stand
* `inventory_accounts`: the inventory has all uses of the project and of third parties
-/

namespace WorkflowDocs

open scoped List

/-! ## Filing images -/

/-- An image of a document, with the uses that the document makes of it. -/
structure Filing where
  image : ImageInfo
  usages : List Usage

/-- The images of documents in the order of filing. Nothing when a use has nothing to link to. -/
def filings? (all documents : List DocumentInfo) : Option (List Filing) :=
  (imageUses documents).mapM fun use => (usages? use.2 use.1 all).map (Filing.mk use.2)

/-- The repositories after filing. -/
def repositoriesOf (filings : List Filing) : Fields Repository :=
  Fields.gather (·.image.placement.repository) (fun _ => {}) (fun f r => r.add f.image f.usages)
    filings

/-- The entries of a repository after filing. -/
def imagesOf (filings : List Filing) : Fields StoredImage :=
  Fields.gather (·.image.storeKey) (·.image.entry) (fun f s => s.addUsages f.usages) filings

/-- Repositories are made by filing. -/
theorem repositories?_eq (all documents : List DocumentInfo) :
    repositories? all documents = (filings? all documents).map repositoriesOf := by
  have hstep : addImage? all = fun repositories use =>
      ((usages? use.2 use.1 all).map (Filing.mk use.2)).map fun f =>
        Fields.update f.image.placement.repository {} (·.add f.image f.usages) repositories := by
    funext repositories use
    rw [addImage?, Option.map_map]
    rfl
  rw [repositories?, hstep]
  exact foldlM_map_eq _ (fun (repositories : Fields Repository) (f : Filing) =>
    Fields.update f.image.placement.repository {} (·.add f.image f.usages) repositories) _ _

/-! ## Entries -/

namespace StoredImage

variable (s : StoredImage)

theorem addUsages_nil : s.addUsages [] = s := by
  rw [addUsages, List.append_nil]
  rfl

theorem addUsages_addUsages (a b : List Usage) :
    (s.addUsages a).addUsages b = s.addUsages (a ++ b) := by
  simp only [addUsages, List.append_assoc, List.length_append, Nat.add_assoc]

theorem foldl_addUsages (filings : List Filing) :
    filings.foldl (fun s f => s.addUsages f.usages) s =
      s.addUsages (filings.flatMap (·.usages)) := by
  induction filings generalizing s with
  | nil => exact (addUsages_nil s).symm
  | cons f filings ih => rw [List.foldl_cons, ih, addUsages_addUsages, List.flatMap_cons]

end StoredImage

section Filings

variable {filings : List Filing}

/-- An entry is opened by an image with its key, and has the uses of all images with this key. -/
theorem mem_imagesOf {e : String × StoredImage} (h : e ∈ imagesOf filings) :
    ∃ f ∈ filings, f.image.storeKey = e.1 ∧
      e.2 = f.image.entry.addUsages
        ((filings.filter fun g => g.image.storeKey == e.1).flatMap (·.usages)) := by
  obtain ⟨f, hf, hkey, hentry⟩ := Fields.mem_gather _ _ _ _ h
  exact ⟨f, hf, hkey, hentry.trans (StoredImage.foldl_addUsages _ _)⟩

theorem usages_of_mem_imagesOf {e : String × StoredImage} (h : e ∈ imagesOf filings) :
    e.2.usages = (filings.filter fun g => g.image.storeKey == e.1).flatMap (·.usages) ∧
      e.2.usageCount = e.2.usages.length := by
  obtain ⟨f, -, -, hentry⟩ := mem_imagesOf h
  rw [hentry]
  exact ⟨List.nil_append _, Nat.zero_add _⟩

/-- The entries have all uses that were filed. -/
theorem flatMap_imagesOf_perm (filings : List Filing) :
    (imagesOf filings).flatMap (fun e => e.2.usages) ~ filings.flatMap (·.usages) :=
  Fields.flatMap_gather_perm _ _ _ _ StoredImage.usages Filing.usages fun _ he =>
    .of_eq (usages_of_mem_imagesOf he).1

/-! ## Repositories -/

/-- Filing in one repository makes its entries, and counts them. -/
theorem foldl_add (filings : List Filing) :
    filings.foldl (fun (r : Repository) f => r.add f.image f.usages) {} =
      ⟨imagesOf filings, (imagesOf filings).length⟩ := by
  induction filings using List.reverseRecOn with
  | nil => rfl
  | append_singleton filings f ih =>
    have himages : imagesOf (filings ++ [f]) =
        Fields.update f.image.storeKey f.image.entry (·.addUsages f.usages) (imagesOf filings) :=
      Fields.gather_append_singleton _ _ _ _ _
    rw [List.foldl_append, ih, himages, Fields.length_update]
    rfl

/-- A repository has the entries of what is filed under its name, and their number. -/
theorem mem_repositoriesOf {r : String × Repository} (h : r ∈ repositoriesOf filings) :
    r.2.images = imagesOf (filings.filter fun f => f.image.placement.repository == r.1) ∧
      r.2.imageCount = r.2.images.length := by
  obtain ⟨-, -, -, hr⟩ := Fields.mem_gather _ _ _ _ h
  rw [hr.trans (foldl_add _)]
  exact ⟨rfl, rfl⟩

/-- The repositories have all uses that were filed. -/
theorem flatMap_repositoriesOf_perm (filings : List Filing) :
    (repositoriesOf filings).flatMap (fun r => r.2.images.flatMap fun e => e.2.usages) ~
      filings.flatMap (·.usages) := by
  refine Fields.flatMap_gather_perm _ _ _ _
    (fun r : Repository => r.images.flatMap fun e => e.2.usages) Filing.usages fun r hr => ?_
  rw [(mem_repositoriesOf hr).1]
  exact flatMap_imagesOf_perm _

end Filings

/-! ## The calls of documents -/

/-- The images of the workflows of documents. -/
def workflowImages (documents : List DocumentInfo) : List ImageInfo :=
  (documents.filterMap (·.workflow)).flatMap (·.images)

/-- The calls that the images of a workflow list, with the name of the workflow. -/
def WorkflowInfo.taskUses (w : WorkflowInfo) : List (String × String) :=
  w.images.flatMap fun i => i.tasks.map fun task => (task, w.name)

/-- The calls that the images of documents list, with the names of their workflows. -/
def taskUses (documents : List DocumentInfo) : List (String × String) :=
  (documents.filterMap (·.workflow)).flatMap WorkflowInfo.taskUses

/-- The call and the workflow of a use. -/
def Usage.call (u : Usage) : String × String :=
  (u.task, u.workflow)

theorem length_taskUses (documents : List DocumentInfo) :
    (taskUses documents).length =
      ((workflowImages documents).map (·.taskCount)).foldr (· + ·) 0 := by
  rw [taskUses, workflowImages]
  induction documents.filterMap (·.workflow) with
  | nil => rfl
  | cons w ws ih =>
    have hworkflow : w.taskUses.length = (w.images.map (·.taskCount)).sum := by
      rw [WorkflowInfo.taskUses, List.length_flatMap]
      simp only [List.length_map, ImageInfo.taskCount]
    rw [List.flatMap_cons, List.length_append, ih, hworkflow, List.flatMap_cons, List.map_append]
    exact List.sum_append.symm

section Filings

variable {all documents : List DocumentInfo} {filings : List Filing}

/-- The uses of an image are the calls that it lists, in order. -/
theorem map_call_usages {i : ImageInfo} {d : DocumentInfo} {usages : List Usage}
    (h : usages? i d all = some usages) :
    usages.map Usage.call = i.tasks.map fun task => (task, d.workflow.elim "" (·.name)) := by
  refine map_eq_of_mapM_eq_some (fun task u hu => ?_) h
  obtain ⟨link, -, rfl⟩ := Option.map_eq_some_iff.1 hu
  rfl

/-- The calls of the images, each taken with its document. -/
theorem flatMap_imageUses (documents : List DocumentInfo) :
    ((imageUses documents).flatMap fun use =>
        use.2.tasks.map fun task => (task, use.1.workflow.elim "" (·.name))) =
      taskUses documents := by
  induction documents with
  | nil => rfl
  | cons d documents ih =>
    rw [imageUses, List.flatMap_cons, List.flatMap_append, ← imageUses, ih, taskUses, taskUses]
    cases hworkflow : d.workflow with
    | none => rw [List.filterMap_cons_none hworkflow]; rfl
    | some w =>
      rw [List.filterMap_cons_some hworkflow, List.flatMap_cons, Option.elim_some, List.flatMap_map]
      simp only [hworkflow, Option.elim_some]
      rfl

/-- What is filed has the calls of the documents. -/
theorem map_call_filings (h : filings? all documents = some filings) :
    (filings.flatMap (·.usages)).map Usage.call = taskUses documents := by
  have hcalls : filings.map (fun f => f.usages.map Usage.call) = (imageUses documents).map
      fun use => use.2.tasks.map fun task => (task, use.1.workflow.elim "" (·.name)) := by
    refine map_eq_of_mapM_eq_some (fun use f hf => ?_) h
    obtain ⟨usages, husages, rfl⟩ := Option.map_eq_some_iff.1 hf
    exact map_call_usages husages
  rw [List.map_flatMap, List.flatMap_def, hcalls, ← List.flatMap_def]
  exact flatMap_imageUses documents

end Filings

/-! ## Shelves -/

namespace Shelf

/-- The entries on a shelf. -/
def images (shelf : Shelf) : List StoredImage :=
  shelf.flatMap (·.2.images)

/-- The uses that a shelf lists. -/
def usages (shelf : Shelf) : List Usage :=
  shelf.images.flatMap (·.usages)

/-- A shelf that accounts for the images of documents: its numbers are those of what it lists and of
what the documents have, it lists the calls of the documents, and its images and repositories are in
order, with the repository of parameters at the end. -/
structure Accounts (documents : List DocumentInfo) (shelf : Shelf) : Prop where
  imageCount : ∀ r ∈ shelf, r.2.imageCount = r.2.images.length
  usageCount : ∀ i ∈ shelf.images, i.usageCount = i.usages.length
  imageTotal : shelf.imageTotal = shelf.images.length
  usageTotal : shelf.usageTotal =
    ((workflowImages documents).map (·.taskCount)).foldr (· + ·) 0
  calls : shelf.usages.map Usage.call ~ taskUses documents
  imageOrder : ∀ r ∈ shelf, r.2.images.Pairwise fun a b => a.name ≤ b.name
  repositoryOrder : shelf.names.Pairwise fun a b =>
    a ≠ parameterRepository ∧ (b = parameterRepository ∨ a < b)

theorem images_perm (repositories : Fields Repository) :
    (ofRepositories repositories).images ~ repositories.flatMap (·.2.images.values) := by
  rw [images, ofRepositories, List.flatMap_map]
  refine (List.Perm.flatMap_left _ fun r _ => ?_).trans
    ((List.mergeSort_perm _ _).flatMap_right _)
  exact List.mergeSort_perm _ _

theorem imageTotal_eq {shelf : Shelf} (h : ∀ r ∈ shelf, r.2.imageCount = r.2.images.length) :
    shelf.imageTotal = shelf.images.length := by
  rw [imageTotal, List.map_congr_left h, images, List.length_flatMap]
  rfl

theorem usageTotal_eq {shelf : Shelf} (h : ∀ i ∈ shelf.images, i.usageCount = i.usages.length) :
    shelf.usageTotal = shelf.usages.length := by
  rw [usageTotal, ← List.map_flatMap, ← images, List.map_congr_left h, usages, List.length_flatMap]
  rfl

/-! ## Order -/

theorem repositoryLe_iff {a b : String} :
    repositoryLe a b = true ↔ b = parameterRepository ∨ a ≠ parameterRepository ∧ a ≤ b := by
  by_cases ha : a = parameterRepository <;> by_cases hb : b = parameterRepository <;>
    simp [repositoryLe, ha, hb]

theorem repositoryLe_trans {a b c : String} (hab : repositoryLe a b = true)
    (hbc : repositoryLe b c = true) : repositoryLe a c = true := by
  rw [repositoryLe_iff] at hab hbc ⊢
  rcases hbc with hc | ⟨hb, hbc⟩
  · exact .inl hc
  · obtain ⟨ha, hab⟩ := hab.resolve_left hb
    exact .inr ⟨ha, String.le_trans hab hbc⟩

theorem repositoryLe_total (a b : String) : (repositoryLe a b || repositoryLe b a) = true := by
  rw [Bool.or_eq_true, repositoryLe_iff, repositoryLe_iff]
  by_cases ha : a = parameterRepository
  · exact .inr (.inl ha)
  · by_cases hb : b = parameterRepository
    · exact .inl (.inl hb)
    · exact (String.le_total a b).imp (fun h => .inr ⟨ha, h⟩) fun h => .inr ⟨hb, h⟩

/-- Of two repositories in order, only the second can be that of parameters. -/
theorem lt_of_repositoryLe {a b : String} (h : repositoryLe a b = true) (hne : a ≠ b) :
    a ≠ parameterRepository ∧ (b = parameterRepository ∨ a < b) := by
  rcases repositoryLe_iff.1 h with rfl | ⟨ha, hab⟩
  · exact ⟨hne, .inl rfl⟩
  · exact ⟨ha, .inr (String.not_le.1 fun hba => hne (String.le_antisymm hab hba))⟩

/-- The names on a shelf are in order. -/
theorem names_ofRepositories {repositories : Fields Repository} (h : repositories.names.Nodup) :
    (ofRepositories repositories).names.Pairwise fun a b =>
      a ≠ parameterRepository ∧ (b = parameterRepository ∨ a < b) := by
  have hnames : (ofRepositories repositories).names =
      (repositories.mergeSort fun a b => repositoryLe a.1 b.1).map (·.1) := by
    rw [ofRepositories, Fields.names, List.map_map]
    rfl
  have hdistinct : ((repositories.mergeSort fun a b => repositoryLe a.1 b.1).map (·.1)).Nodup :=
    ((List.mergeSort_perm _ _).map _).nodup_iff.2 h
  have hsorted : (repositories.mergeSort fun a b => repositoryLe a.1 b.1).Pairwise
      fun a b => repositoryLe a.1 b.1 = true := by
    apply List.pairwise_mergeSort
    · intro a b c hab hbc
      exact repositoryLe_trans hab hbc
    · intro a b
      exact repositoryLe_total a.1 b.1
  rw [hnames]
  refine List.Pairwise.imp₂ (fun a b hle hne => lt_of_repositoryLe hle hne) ?_ hdistinct
  exact List.pairwise_map.2 hsorted

theorem pairwise_sortedImages (r : Repository) :
    r.sortedImages.Pairwise fun a b => a.name ≤ b.name := by
  refine (List.pairwise_mergeSort (fun a b c hab hbc => ?_) (fun a b => ?_) _).imp
    fun h => of_decide_eq_true h
  · exact decide_eq_true (String.le_trans (of_decide_eq_true hab) (of_decide_eq_true hbc))
  · simpa using String.le_total a.name b.name

/-- What is on a shelf was in a repository. -/
theorem mem_ofRepositories {repositories : Fields Repository} {r : String × Listing} :
    r ∈ ofRepositories repositories ↔
      ∃ repository ∈ repositories, r = (repository.1, ⟨repository.2.sortedImages,
        repository.2.imageCount⟩) := by
  rw [ofRepositories, List.mem_map]
  simp only [List.mem_mergeSort, eq_comm]

section Filings

variable {filings : List Filing}

theorem imageCount_of_mem {r : String × Listing} (h : r ∈ ofRepositories (repositoriesOf filings)) :
    r.2.imageCount = r.2.images.length := by
  obtain ⟨repository, hmem, rfl⟩ := mem_ofRepositories.1 h
  rw [(mem_repositoriesOf hmem).2, Repository.sortedImages, List.length_mergeSort, Fields.values,
    List.length_map]

theorem usageCount_of_mem {i : StoredImage}
    (h : i ∈ (ofRepositories (repositoriesOf filings)).images) :
    i.usageCount = i.usages.length := by
  obtain ⟨repository, hmem, hvalue⟩ :=
    List.mem_flatMap.1 ((images_perm (repositoriesOf filings)).mem_iff.1 h)
  rw [(mem_repositoriesOf hmem).1] at hvalue
  obtain ⟨e, he, rfl⟩ := List.mem_map.1 hvalue
  exact (usages_of_mem_imagesOf he).2

/-- A shelf lists the uses that were filed, each once. -/
theorem usages_perm (filings : List Filing) :
    (ofRepositories (repositoriesOf filings)).usages ~ filings.flatMap (·.usages) := by
  have hentries : ((repositoriesOf filings).flatMap (·.2.images.values)).flatMap (·.usages) =
      (repositoriesOf filings).flatMap fun r => r.2.images.flatMap fun e => e.2.usages := by
    rw [List.flatMap_assoc]
    simp only [Fields.values, List.flatMap_map]
  have hrepositories := flatMap_repositoriesOf_perm filings
  rw [← hentries] at hrepositories
  exact ((images_perm _).flatMap_right _).trans hrepositories

/-- The shelf of a list of documents accounts for their images. -/
theorem accounts_of_filings {all documents : List DocumentInfo}
    (h : filings? all documents = some filings) :
    (ofRepositories (repositoriesOf filings)).Accounts documents := by
  have hcalls : (ofRepositories (repositoriesOf filings)).usages.map Usage.call ~
      taskUses documents := by
    rw [← map_call_filings h]
    exact (usages_perm filings).map _
  refine ⟨fun r => imageCount_of_mem, fun i => usageCount_of_mem,
    imageTotal_eq fun r => imageCount_of_mem, ?_, hcalls, fun r hr => ?_,
    names_ofRepositories (Fields.nodup_names_gather _ _ _ _)⟩
  · rw [usageTotal_eq fun i => usageCount_of_mem, ← length_taskUses, ← hcalls.length_eq,
      List.length_map]
  · obtain ⟨repository, -, rfl⟩ := mem_ofRepositories.1 hr
    exact pairwise_sortedImages repository.2

/-- The uses of an image stand together on a shelf, in an entry of its repository. -/
def ListsUses (shelf : Shelf) (i : ImageInfo) (usages : List Usage) : Prop :=
  ∃ r ∈ shelf, r.1 = i.placement.repository ∧ ∃ e ∈ r.2.images, usages <:+: e.usages

/-- What is filed stands together on the shelf. There the image has an entry with its key, whose
uses are those of all images with this key. -/
theorem listsUses_of_mem {f : Filing} (hf : f ∈ filings) :
    (ofRepositories (repositoriesOf filings)).ListsUses f.image f.usages := by
  have hrepository : f.image.placement.repository ∈ (repositoriesOf filings).names :=
    Fields.mem_names_gather _ _ _ hf
  obtain ⟨r, hr, hname⟩ := List.mem_map.1 hrepository
  refine ⟨_, mem_ofRepositories.2 ⟨r, hr, rfl⟩, hname, ?_⟩
  have hunder : f ∈ filings.filter fun g => g.image.placement.repository == r.1 :=
    List.mem_filter.2 ⟨hf, beq_iff_eq.2 hname.symm⟩
  have hentry : f.image.storeKey ∈
      (imagesOf (filings.filter fun g => g.image.placement.repository == r.1)).names :=
    Fields.mem_names_gather _ _ _ hunder
  obtain ⟨e, he, hkey⟩ := List.mem_map.1 hentry
  have hvalue : e.2 ∈ r.2.images.values := by
    rw [(mem_repositoriesOf hr).1]
    exact List.mem_map_of_mem he
  refine ⟨e.2, List.mem_mergeSort.2 hvalue, ?_⟩
  rw [(usages_of_mem_imagesOf he).1]
  have hsame : f ∈ (filings.filter fun g => g.image.placement.repository == r.1).filter
      fun g => g.image.storeKey == e.1 :=
    List.mem_filter.2 ⟨hunder, beq_iff_eq.2 hkey.symm⟩
  obtain ⟨before, after, hsplit⟩ := List.append_of_mem hsame
  rw [hsplit, List.flatMap_append, List.flatMap_cons]
  exact ⟨_, _, List.append_assoc _ _ _⟩

end Filings

end Shelf

/-! ## Inventories -/

/-- The shelf with the images of a document. -/
def Inventory.shelfOf (inventory : Inventory) (d : DocumentInfo) : Shelf :=
  if d.isExternal then inventory.external else inventory.internal

section Inventories

variable {documents : List DocumentInfo} {inventory : Inventory}

/-- An inventory is made by filing the images of the project and those of the others. -/
theorem exists_filings_of_inventory? (h : inventory? documents = some inventory) :
    ∃ internal external, filings? documents (documents.filter (!·.isExternal)) = some internal ∧
      filings? documents (documents.filter (·.isExternal)) = some external ∧
      inventory = ⟨.ofRepositories (repositoriesOf internal),
        .ofRepositories (repositoriesOf external)⟩ := by
  obtain ⟨_, hinternal, h⟩ := Option.bind_eq_some_iff.1 h
  obtain ⟨_, hexternal, h⟩ := Option.bind_eq_some_iff.1 h
  rw [repositories?_eq] at hinternal hexternal
  obtain ⟨internal, hfiled, rfl⟩ := Option.map_eq_some_iff.1 hinternal
  obtain ⟨external, hfiled', rfl⟩ := Option.map_eq_some_iff.1 hexternal
  exact ⟨internal, external, hfiled, hfiled', (Option.some.inj h).symm⟩

/-- The shelf of a document is made by filing the images of some documents, and its own ones. -/
theorem exists_filings_of_mem {d : DocumentInfo} (h : inventory? documents = some inventory)
    (hd : d ∈ documents) :
    ∃ part filings, d ∈ part ∧ filings? documents part = some filings ∧
      inventory.shelfOf d = .ofRepositories (repositoriesOf filings) := by
  obtain ⟨internal, external, hinternal, hexternal, rfl⟩ := exists_filings_of_inventory? h
  by_cases hplace : d.isExternal = true
  · refine ⟨_, external, List.mem_filter.2 ⟨hd, hplace⟩, hexternal, ?_⟩
    rw [Inventory.shelfOf, if_pos hplace]
  · refine ⟨_, internal, List.mem_filter.2 ⟨hd, by simpa using hplace⟩, hinternal, ?_⟩
    rw [Inventory.shelfOf, if_neg hplace]

/-- The uses that a document makes of an image are listed on its shelf. -/
theorem exists_listsUses {d : DocumentInfo} {info : WorkflowInfo} {i : ImageInfo}
    (h : inventory? documents = some inventory) (hd : d ∈ documents)
    (hinfo : d.workflow = some info) (hi : i ∈ info.images) :
    ∃ usages, usages? i d documents = some usages ∧ (inventory.shelfOf d).ListsUses i usages := by
  obtain ⟨part, filings, hmem, hfilings, hshelf⟩ := exists_filings_of_mem h hd
  have huse : (d, i) ∈ imageUses part := by
    refine List.mem_flatMap.2 ⟨d, hmem, List.mem_map.2 ⟨i, ?_, rfl⟩⟩
    rw [hinfo]
    exact hi
  obtain ⟨f, hf, hfiled⟩ := (mem_of_mapM_eq_some hfilings).1 _ huse
  obtain ⟨usages, husages, rfl⟩ := Option.map_eq_some_iff.1 hfiled
  rw [hshelf]
  exact ⟨usages, husages, Shelf.listsUses_of_mem hf⟩

end Inventories

/-- **The inventory has all uses of images, counted and in order.** The inventory of documents is
made if their places name files. Its shelf for the project accounts for the images of the project's
documents, and its shelf for third parties for those of the others. -/
theorem inventory_accounts (documents : List DocumentInfo) :
    ((∀ d ∈ documents, d.relativePath.NamesFile) →
      ∃ inventory, inventory? documents = some inventory) ∧
    ∀ inventory, inventory? documents = some inventory →
      inventory.internal.Accounts (documents.filter (!·.isExternal)) ∧
        inventory.external.Accounts (documents.filter (·.isExternal)) := by
  refine ⟨fun h => exists_inventory? (havePages_of_namesFile h), fun inventory hinventory => ?_⟩
  obtain ⟨internal, external, hinternal, hexternal, rfl⟩ := exists_filings_of_inventory? hinventory
  exact ⟨Shelf.accounts_of_filings hinternal, Shelf.accounts_of_filings hexternal⟩

/-- Three documents that use one image, the first also under a parameter without a default, and the
last from a third party. -/
def sharedImageDocuments : List DocumentInfo :=
  [{ filePath := Path.ofText "main.wdl", relativePath := Path.ofText "main.wdl",
     workflow := some { name := "main", images :=
      [{ image := "image", tasks := ["sort"], isParameterized := true, parameter := some "image" },
       { image := "quay.io/lab/tools:1", tasks := ["align", "align"] }] } },
   { filePath := Path.ofText "wf/sub.wdl", relativePath := Path.ofText "wf/sub.wdl",
     workflow := some { name := "sub", images :=
      [{ image := "quay.io/lab/tools:1", tasks := ["align"] }] } },
   { filePath := Path.ofText "external/lib.wdl", relativePath := Path.ofText "external/lib.wdl",
     workflow := some { name := "lib", images :=
      [{ image := "quay.io/lab/tools:1", tasks := ["align"] }] } }]

/-- Three uses of one image by two documents of the project and one by a third party, which are
kept apart. -/
theorem inventory_accounts_shared : ∃ inventory,
    inventory? sharedImageDocuments = some inventory ∧
      inventory.internal.usageTotal = 4 ∧ inventory.external.usageTotal = 1 ∧
      inventory.internal.usages.map Usage.call ~
        [("sort", "main"), ("align", "main"), ("align", "main"), ("align", "sub")] ∧
      inventory.internal.imageTotal = inventory.internal.images.length := by
  have hplaces : ∀ d ∈ sharedImageDocuments, d.relativePath.NamesFile := by decide +kernel
  obtain ⟨inventory, hinventory⟩ := (inventory_accounts sharedImageDocuments).1 hplaces
  obtain ⟨hinternal, hexternal⟩ := (inventory_accounts sharedImageDocuments).2 _ hinventory
  exact ⟨inventory, hinventory, hinternal.usageTotal.trans (by decide),
    hexternal.usageTotal.trans (by decide), hinternal.calls.trans (.of_eq (by decide)),
    hinternal.imageTotal⟩

end WorkflowDocs
