import WorkflowDocs.Proofs.Images.Groups

/-!
# Images of the tasks that are called

A call names a task of its own document, or a task of an import by the scope of the import. The
image that it is listed under is looked up by the name of the task alone, among the tasks of the
document and of all imports. Where several tasks have that name, the last one is found: a task of
an import hides those of the document itself and those of the imports before it.

So a call is listed as the task that it calls asks for when the last task of that name has the same
key as that task, and only then.

## Main definitions

* `lastTask?`: the last task that a document has under a name
* `CallsTask`: a call of a task
* `imageKey?`: the key of the image of a task
* `Lists`: a list of images with the calls that use them
* `ListedAs`: a call is listed under the key of a task, if the task has an image

## Main results

* `get?_taskMap`: the task that a name is looked up as
* `exists_lists`: which calls are listed under which images
* `listed_as_called_iff`: when a call is listed as the task that it calls
-/

namespace WorkflowDocs

/-- The key of the group that shows an image. -/
def ImageInfo.key (i : ImageInfo) : String :=
  TaskImage.key ⟨i.image, i.isParameterized, i.parameter, i.default⟩

namespace Images

/-! ## Tasks by name -/

/-- The tasks of an import by name, each with the name of the scope and without it. -/
def importedTasks (i : ImportSource) : List (String × TaskSource) :=
  (i.target.elim [] (·.tasks)).flatMap fun t =>
    ((presentText i.scope).map fun scope => (scope ++ "." ++ t.name, t)).toList ++ [(t.name, t)]

/-- The tasks of a document by name: its own, and those of its imports after them. -/
def namedTasks (doc : DocumentSource) : List (String × TaskSource) :=
  doc.tasks.map (fun t => (t.name, t)) ++ doc.imports.flatMap importedTasks

/-- The last task that a document has under a name. -/
def lastTask? (doc : DocumentSource) (name : String) : Option TaskSource :=
  Fields.get? (namedTasks doc).reverse name

theorem taskMap_eq (doc : DocumentSource) : taskMap doc = Fields.ofPairs (namedTasks doc) := by
  rw [taskMap, namedTasks, Fields.ofPairs, Fields.ofPairs, List.foldl_append, List.foldl_flatMap]
  congr
  funext map i
  rw [importedTasks, List.foldl_flatMap]
  congr
  funext map t
  cases presentText i.scope <;> rfl

/-- The task that a name is looked up as is the last of that name. -/
theorem get?_taskMap (doc : DocumentSource) (name : String) :
    (taskMap doc).get? name = lastTask? doc name := by
  rw [taskMap_eq, Fields.get?_ofPairs, lastTask?]

theorem callImage?_eq_none_iff {doc : DocumentSource} {c : CallNode} :
    callImage? (taskMap doc) c = none ↔ ∃ last,
      (c.callee.bind fun callee => lastTask? doc callee.name) = some last ∧
        TaskImage.ofTask? last = none := by
  simp only [callImage?, get?_taskMap]
  cases c.callee.bind fun callee => lastTask? doc callee.name with
  | none => simp
  | some last => simp

/-- A call of a task: a task of the document itself is called by its name, and a task of an import
by the scope of the import and its name. -/
inductive CallsTask (doc : DocumentSource) (c : CallNode) (t : TaskSource) : Prop
  | own (htask : t ∈ doc.tasks) (hpath : c.path = [t.name])
      (hcallee : c.callee = some ⟨.task, t.name⟩)
  | imported {i : ImportSource} {scope : String} {target : ModuleSource} (himport : i ∈ doc.imports)
      (hscope : i.scope = some scope) (htarget : i.target = some target) (htask : t ∈ target.tasks)
      (hpath : c.path = [scope, t.name]) (hcallee : c.callee = some ⟨.task, t.name⟩)

section CallsTask

variable {doc : DocumentSource} {c : CallNode} {t : TaskSource}

theorem CallsTask.callee (h : CallsTask doc c t) : c.callee = some ⟨.task, t.name⟩ := by
  cases h with
  | own _ _ hcallee => exact hcallee
  | imported _ _ _ _ _ hcallee => exact hcallee

theorem CallsTask.mem_namedTasks (h : CallsTask doc c t) : (t.name, t) ∈ namedTasks doc := by
  rw [namedTasks, List.mem_append]
  cases h with
  | own htask => exact .inl (List.mem_map_of_mem htask)
  | @imported i _ _ himport _ htarget htask =>
    refine .inr (List.mem_flatMap.2 ⟨i, himport, List.mem_flatMap.2 ⟨t, ?_, ?_⟩⟩)
    · rw [htarget]
      exact htask
    · exact List.mem_append_right _ List.mem_cons_self

/-- A call of a task is looked up as the last task of that name. -/
theorem CallsTask.exists_callImage? (h : CallsTask doc c t) :
    ∃ last, lastTask? doc t.name = some last ∧
      callImage? (taskMap doc) c = TaskImage.ofTask? last := by
  have hname : t.name ∈ Fields.names (namedTasks doc).reverse :=
    List.mem_map.2 ⟨_, List.mem_reverse.2 h.mem_namedTasks, rfl⟩
  obtain ⟨last, hlast⟩ := Option.isSome_iff_exists.1 (Fields.get?_isSome_iff.2 hname)
  refine ⟨last, hlast, ?_⟩
  rw [callImage?, h.callee, Option.bind_some, get?_taskMap]
  dsimp only
  rw [lastTask?, hlast]

end CallsTask

/-! ## Keys of tasks -/

/-- The key of the image of a task; `some none` when it names none, and `none` when the image does
not print. -/
def imageKey? (t : TaskSource) : Option (Option String) :=
  (TaskImage.ofTask? t).map (Option.map TaskImage.key)

/-- Whether a task names an image. -/
def hasImage (t : TaskSource) : Bool :=
  (TaskImage.expr? t.runtime).isSome

theorem imageKey?_eq_some_none_iff {t : TaskSource} :
    imageKey? t = some none ↔ hasImage t = false := by
  rw [imageKey?, hasImage, TaskImage.ofTask?, TaskImage.ofRuntime?]
  cases hexpr : TaskImage.expr? t.runtime with
  | none => simp
  | some e => cases hread : TaskImage.analyze? e <;> simp

/-! ## Listed calls -/

/-- The images with the calls that use them: their keys are different, and each lists the names of
its calls, which are calls of the workflow in order. -/
structure Lists (w : WorkflowSource) (images : List ImageInfo)
    (listing : List (ImageInfo × List CallNode)) : Prop where
  images : listing.map (·.1) = images
  keys : (listing.map (·.1.key)).Nodup
  calls : ∀ entry ∈ listing, entry.2.Sublist (callsByDepth w.body)
  names : ∀ entry ∈ listing, entry.1.tasks = entry.2.map (·.name)

/-- The call is listed under the key of the task, and it is listed if the task has an image. -/
def ListedAs (listing : List (ImageInfo × List CallNode)) (c : CallNode) (t : TaskSource) : Prop :=
  (∀ entry ∈ listing, c ∈ entry.2 → imageKey? t = some (some entry.1.key)) ∧
    ((∃ entry ∈ listing, c ∈ entry.2) ↔ hasImage t = true)

section Listing

variable {doc : DocumentSource} {w : WorkflowSource} {uses : List Use} {groups : Fields ImageInfo}

/-- The groups of a list of uses, each with its calls. -/
def listingOf (uses : List Use) (groups : Fields ImageInfo) : List (ImageInfo × List CallNode) :=
  groups.map fun g => (g.2, callsUnder uses g.1)

theorem Groups.key_eq (h : Groups uses groups) {g : String × ImageInfo} (hg : g ∈ groups) :
    g.2.key = g.1 := by
  obtain ⟨u, -, hkey, -, hinfo⟩ := h.exists_first hg
  rw [hinfo, ← hkey]
  rfl

theorem Groups.lists (h : Groups uses groups)
    (huses : uses? (taskMap doc) (callsByDepth w.body) = some uses) :
    Lists w groups.values (listingOf uses groups) where
  images := by
    rw [listingOf, List.map_map]
    rfl
  keys := by
    have hnames : (listingOf uses groups).map (·.1.key) = groups.names := by
      rw [listingOf, List.map_map]
      exact List.map_congr_left fun g hg => h.key_eq hg
    rw [hnames]
    exact h.nodup
  calls := by
    rintro entry hentry
    obtain ⟨g, -, rfl⟩ := List.mem_map.1 hentry
    exact (callsUnder_sublist uses g.1).trans (calls_sublist huses)
  names := by
    rintro entry hentry
    obtain ⟨g, hg, rfl⟩ := List.mem_map.1 hentry
    obtain ⟨u, -, -, -, hinfo⟩ := h.exists_first hg
    rw [hinfo]
    rfl

/-- A call is listed for each of its uses, and for nothing else. -/
theorem Groups.listed_iff (h : Groups uses groups) {c : CallNode} {key : String} :
    (∃ entry ∈ listingOf uses groups, c ∈ entry.2 ∧ entry.1.key = key) ↔
      ∃ u ∈ uses, u.call = c ∧ u.image.key = key := by
  constructor
  · rintro ⟨entry, hentry, hc, rfl⟩
    obtain ⟨g, hg, rfl⟩ := List.mem_map.1 hentry
    obtain ⟨u, hu, hkey, hcall⟩ := mem_callsUnder.1 hc
    exact ⟨u, hu, hcall, hkey.trans (h.key_eq hg).symm⟩
  · rintro ⟨u, hu, rfl, rfl⟩
    obtain ⟨info, hinfo⟩ := h.exists_group hu
    have hlisted : u.call ∈ callsUnder uses u.image.key := mem_callsUnder.2 ⟨u, hu, rfl, rfl⟩
    exact ⟨_, List.mem_map_of_mem hinfo, hlisted, h.key_eq hinfo⟩

/-- What a run returns lists a call under the key of the image that was looked up for it, if there
is one, and nowhere else. -/
theorem exists_lists {images : List ImageInfo} (h : images? doc w = some images) :
    ∃ listing, Lists w images listing ∧
      ∀ c ∈ Node.callsOf w.body, ∃ image, callImage? (taskMap doc) c = some image ∧
        ∀ key, (∃ entry ∈ listing, c ∈ entry.2 ∧ entry.1.key = key) ↔
          image.map TaskImage.key = some key := by
  obtain ⟨uses, groups, huses, hgroups, rfl⟩ := exists_groups_of_images? h
  refine ⟨listingOf uses groups, hgroups.lists huses, fun c hc => ?_⟩
  have hmem : c ∈ callsByDepth w.body := (callsByDepth_perm w.body).mem_iff.2 hc
  have hprints : callImage? (taskMap doc) c ≠ none := by
    intro hnone
    have huses' := uses?_eq_none_iff.2 ⟨c, hmem, hnone⟩
    rw [huses] at huses'
    cases huses'
  obtain ⟨image, himage⟩ := Option.ne_none_iff_exists'.1 hprints
  refine ⟨image, himage, fun key => ?_⟩
  rw [hgroups.listed_iff, exists_use_iff huses hmem, callKey?, himage, Option.join_some]

end Listing

/-- A call that is listed under a key, if there is one, is listed as a task asks for when the task
has that key. -/
theorem listedAs_iff {listing : List (ImageInfo × List CallNode)} {c : CallNode} {t : TaskSource}
    {listed : Option String}
    (h : ∀ key, (∃ entry ∈ listing, c ∈ entry.2 ∧ entry.1.key = key) ↔ listed = some key) :
    ListedAs listing c t ↔ imageKey? t = some listed := by
  cases listed with
  | none =>
    have hnowhere : ¬ ∃ entry ∈ listing, c ∈ entry.2 := by
      rintro ⟨entry, hentry, hc⟩
      cases (h entry.1.key).1 ⟨entry, hentry, hc, rfl⟩
    rw [imageKey?_eq_some_none_iff, ListedAs, iff_false_left hnowhere, Bool.not_eq_true]
    exact and_iff_right fun entry hentry hc => absurd ⟨entry, hentry, hc⟩ hnowhere
  | some key =>
    obtain ⟨entry, hentry, hc, hkey⟩ := (h key).2 rfl
    constructor
    · intro hlisted
      rw [hlisted.1 entry hentry hc, hkey]
    · intro ht
      refine ⟨fun entry' hentry' hc' => ?_, iff_of_true ⟨entry, hentry, hc⟩ ?_⟩
      · rw [ht, (h entry'.1.key).1 ⟨entry', hentry', hc', rfl⟩]
      · rw [← Bool.not_eq_false, ← imageKey?_eq_some_none_iff, ht]
        exact fun heq => nomatch heq

/-- **Calls are listed as the tasks that they call ask for, unless another task of the name comes
later**: the images of a workflow are found unless one that is looked up does not print. If they are
found, they list the calls of the workflow such that a call of a task is listed under the key of
that very task, and is listed if that task has an image, exactly when the last task of its name has
the same key. -/
theorem listed_as_called_iff (doc : DocumentSource) (w : WorkflowSource) :
    (images? doc w = none ↔ ∃ c ∈ Node.callsOf w.body, ∃ last,
      (c.callee.bind fun callee => lastTask? doc callee.name) = some last ∧
        TaskImage.ofTask? last = none) ∧
    ∀ images, images? doc w = some images → ∃ listing, Lists w images listing ∧
      ∀ c ∈ Node.callsOf w.body, ∀ t, CallsTask doc c t →
        (ListedAs listing c t ↔ (lastTask? doc t.name).map imageKey? = some (imageKey? t)) := by
  refine ⟨?_, fun images himages => ?_⟩
  · simp only [images?_eq_none_iff, callImage?_eq_none_iff]
  · obtain ⟨listing, hlists, hcalls⟩ := exists_lists himages
    refine ⟨listing, hlists, fun c hc t ht => ?_⟩
    obtain ⟨image, himage, hlisted⟩ := hcalls c hc
    obtain ⟨last, hlast, hlookup⟩ := ht.exists_callImage?
    have hkey : imageKey? last = some (image.map TaskImage.key) := by
      rw [imageKey?, ← hlookup, himage, Option.map_some]
    rw [listedAs_iff hlisted, hlast, Option.map_some, hkey, Option.some_inj]
    exact eq_comm

/-- A task with a fixed image. -/
def imageTask (name image : String) : TaskSource where
  name := name
  runtime := [("docker", .string [.text "\"", .text image, .text "\""])]

/-- A task whose image is given by an input with a default. -/
def parameterTask (name : String) (default : Expr) : TaskSource where
  name := name
  inputs := [⟨"image", .primitive .string false, some default⟩]
  runtime := [("docker", .get (.ident "image") none)]

/-- A call of the task `align`. -/
def alignCall : CallNode :=
  ⟨["align"], "align", [], some ⟨.task, "align"⟩⟩

/-- A workflow that calls the task `align` inside a block. -/
def alignWorkflow : WorkflowSource where
  name := "aligning"
  body := [.scatter "read" none [.call alignCall]]

/-- A document with a task `align` of its own, and with a task of an import. -/
def aligningDocument (other : TaskSource) : DocumentSource where
  tasks := [imageTask "align" "aligner:1"]
  imports := [⟨"tools.wdl", some "tools", some { tasks := [other] }⟩]

theorem callsTask_align (other : TaskSource) :
    CallsTask (aligningDocument other) alignCall (imageTask "align" "aligner:1") :=
  .own List.mem_cons_self rfl rfl

theorem listed_as_called_iff_distinct :
    CallsTask (aligningDocument (imageTask "sort" "sorter:2")) alignCall
      (imageTask "align" "aligner:1") ∧
    ∃ listing,
      Lists alignWorkflow [⟨"aligner:1", ["align"], false, none, none⟩] listing ∧
        ListedAs listing alignCall (imageTask "align" "aligner:1") := by
  refine ⟨callsTask_align _, ?_⟩
  obtain ⟨listing, hlists, hlisted⟩ :=
    (listed_as_called_iff (aligningDocument (imageTask "sort" "sorter:2")) alignWorkflow).2
      [⟨"aligner:1", ["align"], false, none, none⟩] (by decide)
  exact ⟨listing, hlists,
    (hlisted alignCall List.mem_cons_self _ (callsTask_align _)).2 (by decide)⟩

/-- A task of an import hides the task of the document itself that is called. -/
theorem called_task_hidden :
    CallsTask (aligningDocument (imageTask "align" "other:2")) alignCall
      (imageTask "align" "aligner:1") ∧
    imageKey? (imageTask "align" "aligner:1") = some (some "aligner:1") ∧
    images? (aligningDocument (imageTask "align" "other:2")) alignWorkflow =
      some [⟨"other:2", ["align"], false, none, none⟩] :=
  ⟨callsTask_align _, by decide, by decide⟩

end Images

end WorkflowDocs
