import WorkflowDocs.Proofs.Grouping
import WorkflowDocs.Proofs.Images.Called

/-!
# The search for images

The images of a workflow can also be found with a queue of elements that wait. In each round the
first one is taken from the queue: a call is listed, and the elements of a block are put at the end
of the queue. So outer calls are met before inner ones, and the search ends after one round for each
element of the body, at any depth. What it lists are the calls that are looked up as tasks with an
image, each once, and two of them together exactly when their images have the same key.

## Main definitions

* `Node.elementCount`, `Node.elementCountOf`: the number of elements at any depth
* `Search`, `Search.step?`, `Search.rounds?`: the search
* `calledTask?`, `namesImage`, `imagePrints`: the task that a call is looked up as, and its image

## Main results

* `TaskImage.isSome_ofTask?`, `TaskImage.isSome_of_ofTask?`: when the image of a task is found
* `callsByDepth_append`: elements at the end of a queue come after those that wait
* `Search.rounds?_eq`: the search ends, and lists the calls by depth
* `images_conserve_calls`: no call is lost and none is listed twice
-/

namespace WorkflowDocs

mutual

/-- The number of elements that an element of a body consists of, itself included. -/
def Node.elementCount : Node → Nat
  | .decl _ => 1
  | .call _ => 1
  | .scatter _ _ body => Node.elementCountOf body + 1
  | .conditional _ body => Node.elementCountOf body + 1

/-- The number of elements of a body, at any depth. -/
def Node.elementCountOf : List Node → Nat
  | [] => 0
  | n :: ns => n.elementCount + Node.elementCountOf ns

end

theorem Node.elementCountOf_append (a b : List Node) :
    Node.elementCountOf (a ++ b) = Node.elementCountOf a + Node.elementCountOf b := by
  induction a with
  | nil => simp [Node.elementCountOf]
  | cons n a ih => rw [List.cons_append, elementCountOf, elementCountOf, ih, Nat.add_assoc]

/-! ## Images of tasks -/

namespace TaskImage

theorem isSome_analyze? (e : Expr) : (analyze? e).isSome = e.text?.isSome := by
  cases htext : e.text? with
  | none => simp [analyze?, htext]
  | some s =>
    simp only [analyze?, htext, Option.bind_eq_bind, Option.bind_some]
    split
    · rfl
    · split <;> rfl

theorem isSome_expr? (runtime : Fields Expr) :
    (expr? runtime).isSome = runtimeKeys.any runtime.has := by
  rw [Bool.eq_iff_iff, expr?, List.findSome?_isSome_iff, List.any_eq_true]
  simp only [Fields.get?_isSome_iff, Fields.has_iff_mem_names]

/-- The image of a task is found if the expression that names it prints. -/
theorem isSome_ofTask? (t : TaskSource) :
    (ofTask? t).isSome = (expr? t.runtime).all (·.text?.isSome) := by
  rw [ofTask?, ofRuntime?]
  cases expr? t.runtime with
  | none => rfl
  | some e => rw [Option.all_some, Option.isSome_map, isSome_analyze?]

/-- A task has an image if there is an attribute that names one. -/
theorem isSome_of_ofTask? {t : TaskSource} {image : Option TaskImage}
    (h : ofTask? t = some image) :
    image.isSome = runtimeKeys.any (Fields.has t.runtime) := by
  rw [ofTask?, ofRuntime?] at h
  rw [← isSome_expr?]
  cases hexpr : expr? t.runtime with
  | none =>
    rw [hexpr] at h
    obtain rfl := Option.some.inj h
    rfl
  | some e =>
    rw [hexpr] at h
    obtain ⟨i, -, rfl⟩ := Option.map_eq_some_iff.1 h
    rfl

end TaskImage

namespace Images

open scoped List

/-! ## Levels of a queue -/

theorem zipLevels_nil (as : List (List CallNode)) : zipLevels as [] = as := by
  cases as <;> rfl

theorem zipLevels_assoc (as bs cs : List (List CallNode)) :
    zipLevels (zipLevels as bs) cs = zipLevels as (zipLevels bs cs) := by
  induction as generalizing bs cs with
  | nil => rfl
  | cons a as ih =>
    rcases bs with _ | ⟨b, bs⟩
    · rfl
    · rcases cs with _ | ⟨c, cs⟩
      · rfl
      · simp only [zipLevels, ih, List.append_assoc]

theorem callLevels_append (a b : List Node) :
    callLevels (a ++ b) = zipLevels (callLevels a) (callLevels b) := by
  induction a with
  | nil => rfl
  | cons n a ih => rw [List.cons_append, callLevels, callLevels, ih, zipLevels_assoc]

/-- The first level comes first, and then the levels take turns, those of the other list first. The
two lists change places, so it is their common length that gets less. -/
theorem flatten_zipLevels_cons (a : List CallNode) (as : List (List CallNode)) :
    ∀ bs, (zipLevels (a :: as) bs).flatten = a ++ (zipLevels bs as).flatten
  | [] => rfl
  | b :: bs => by
    rw [zipLevels, List.flatten_cons, flatten_zipLevels_cons b bs as, List.append_assoc]
  termination_by bs => as.length + bs.length

theorem callsByDepth_call (c : CallNode) (rest : List Node) :
    callsByDepth (.call c :: rest) = c :: callsByDepth rest := by
  rw [callsByDepth, callLevels, nodeLevels, flatten_zipLevels_cons, zipLevels_nil]
  rfl

/-- The elements of a block can as well wait behind everything else. -/
theorem callsByDepth_append (rest body : List Node) :
    (zipLevels ([] :: callLevels body) (callLevels rest)).flatten =
      callsByDepth (rest ++ body) := by
  rw [callsByDepth, callLevels_append, flatten_zipLevels_cons, List.nil_append]

/-! ## The search -/

/-- The state of the search: the elements that wait, and the groups so far. -/
structure Search where
  queue : List Node
  groups : Fields ImageInfo

namespace Search

variable (tasks : Fields TaskSource)

/-- The search at its start: all elements of the body wait. -/
def start (w : WorkflowSource) : Search :=
  ⟨w.body, []⟩

/-- One round, with the first element that waits: a call is listed under the image of its task, and
the elements of a block go to the end of the queue. There is no next state when the image does not
print. -/
def step? (s : Search) : Option Search :=
  match s.queue with
  | [] => some s
  | .decl _ :: queue => some ⟨queue, s.groups⟩
  | .call c :: queue => do
    match ← callImage? tasks c with
    | some i => return ⟨queue, addUse s.groups i c.name⟩
    | none => return ⟨queue, s.groups⟩
  | .scatter _ _ body :: queue => some ⟨queue ++ body, s.groups⟩
  | .conditional _ body :: queue => some ⟨queue ++ body, s.groups⟩

/-- The state after a number of rounds. -/
def rounds? : Nat → Search → Option Search
  | 0, s => some s
  | n + 1, s => (s.step? tasks).bind (rounds? n)

/-- The groups that are left in the end: the calls that wait are listed by depth. -/
def outcome? (s : Search) : Option (Fields ImageInfo) :=
  addCalls tasks s.groups (callsByDepth s.queue)

variable {tasks}

/-- A round takes one element from the queue. -/
theorem elementCountOf_step? {s s' : Search} (h : s.step? tasks = some s') :
    Node.elementCountOf s'.queue = Node.elementCountOf s.queue - 1 := by
  obtain ⟨queue, groups⟩ := s
  rcases queue with _ | ⟨_ | c | ⟨item, source, body⟩ | ⟨condition, body⟩, queue⟩
  · obtain rfl := Option.some.inj h
    rfl
  · obtain rfl := Option.some.inj h
    simp [Node.elementCountOf, Node.elementCount]
  · obtain ⟨image, -, h⟩ := Option.bind_eq_some_iff.1 h
    cases image <;> obtain rfl := Option.some.inj h <;>
      simp [Node.elementCountOf, Node.elementCount]
  · obtain rfl := Option.some.inj h
    simp only [Node.elementCountOf, Node.elementCount, Node.elementCountOf_append]
    omega
  · obtain rfl := Option.some.inj h
    simp only [Node.elementCountOf, Node.elementCount, Node.elementCountOf_append]
    omega

/-- A round does not change what is left in the end. -/
theorem outcome?_step? (s : Search) : (s.step? tasks).bind (outcome? tasks) = s.outcome? tasks := by
  obtain ⟨queue, groups⟩ := s
  rcases queue with _ | ⟨_ | c | ⟨item, source, body⟩ | ⟨condition, body⟩, queue⟩
  · rfl
  · rfl
  · rw [outcome?, callsByDepth_call, addCalls, step?]
    dsimp only
    cases himage : callImage? tasks c with
    | none => rfl
    | some image => cases image <;> rfl
  · exact congrArg (addCalls tasks groups) (callsByDepth_append queue body).symm
  · exact congrArg (addCalls tasks groups) (callsByDepth_append queue body).symm

/-- The search ends after as many rounds as elements wait at any depth, with the calls listed by
depth. Every element counts itself, so nothing waits where none is counted. -/
theorem rounds?_eq (s : Search) :
    rounds? tasks (Node.elementCountOf s.queue) s = (s.outcome? tasks).map (Search.mk []) := by
  generalize hcount : Node.elementCountOf s.queue = n
  induction n generalizing s with
  | zero =>
    obtain ⟨_ | ⟨n, queue⟩, groups⟩ := s
    · rfl
    · cases n <;> simp [Node.elementCountOf, Node.elementCount] at hcount
  | succ n ih =>
    have hround : ∀ s', s.step? tasks = some s' →
        rounds? tasks n s' = (s'.outcome? tasks).map (Search.mk []) := by
      intro s' hs'
      refine ih s' ?_
      rw [elementCountOf_step? hs', hcount, Nat.add_sub_cancel]
    rw [rounds?, ← outcome?_step? s]
    cases hstep : s.step? tasks with
    | none => rfl
    | some s' => exact hround s' hstep

end Search

/-! ## Calls with an image -/

section Calls

variable (tasks : Fields TaskSource)

/-- The task that a call is looked up as. -/
def calledTask? (c : CallNode) : Option TaskSource :=
  c.callee.bind fun callee => tasks.get? callee.name

/-- Whether a call is looked up as a task with an image: one of the attributes that name an image is
there. -/
def namesImage (c : CallNode) : Bool :=
  (calledTask? tasks c).any fun t => TaskImage.runtimeKeys.any (Fields.has t.runtime)

/-- Whether the expression that names the image of the task prints, if there is one. -/
def imagePrints (c : CallNode) : Bool :=
  (calledTask? tasks c).all fun t => (TaskImage.expr? t.runtime).all (·.text?.isSome)

variable {tasks} {calls : List CallNode} {uses : List Use} {groups : Fields ImageInfo}

theorem isSome_callImage? (c : CallNode) : (callImage? tasks c).isSome = imagePrints tasks c := by
  rw [callImage?, ← calledTask?, imagePrints]
  cases calledTask? tasks c with
  | none => rfl
  | some t => exact TaskImage.isSome_ofTask? t

theorem isSome_image {c : CallNode} {image : Option TaskImage}
    (h : callImage? tasks c = some image) : image.isSome = namesImage tasks c := by
  rw [callImage?, ← calledTask?] at h
  rw [namesImage]
  cases htask : calledTask? tasks c with
  | none =>
    rw [htask] at h
    obtain rfl := Option.some.inj h
    rfl
  | some t =>
    rw [htask] at h
    exact TaskImage.isSome_of_ofTask? h

/-- The calls with an image are those that are looked up as tasks with one. -/
theorem calls_uses (h : uses? tasks calls = some uses) :
    uses.map (·.call) = calls.filter (namesImage tasks) := by
  induction calls generalizing uses with
  | nil =>
    obtain rfl := Option.some.inj h
    rfl
  | cons c cs ih =>
    obtain ⟨image, rest, himage, hrest, rfl⟩ := exists_of_uses?_cons h
    rw [List.map_append, ih hrest, List.filter_cons, ← isSome_image himage]
    cases image <;> rfl

theorem keys_uses (h : uses? tasks calls = some uses) :
    uses.map (·.image.key) = calls.filterMap (callKey? tasks) := by
  induction calls generalizing uses with
  | nil =>
    obtain rfl := Option.some.inj h
    rfl
  | cons c cs ih =>
    obtain ⟨image, rest, himage, hrest, rfl⟩ := exists_of_uses?_cons h
    have hkey : callKey? tasks c = image.map TaskImage.key := by
      rw [callKey?, himage, Option.join_some]
    rw [List.map_append, ih hrest, List.filterMap_cons, hkey]
    cases image <;> rfl

theorem Groups.map_key (h : Groups uses groups) :
    groups.values.map ImageInfo.key = (uses.map (·.image.key)).eraseDups := by
  rw [← h.names, Fields.values, List.map_map]
  exact List.map_congr_left fun g hg => h.key_eq hg

/-- The groups have the calls with an image, each once. -/
theorem Groups.flatMap_calls_perm (h : Groups uses groups) :
    (listingOf uses groups).flatMap (·.2) ~ uses.map (·.call) := by
  have hcalls : (listingOf uses groups).flatMap (·.2) =
      (groups.names.flatMap fun key => uses.filter (·.image.key == key)).map (·.call) := by
    rw [listingOf, List.flatMap_map, Fields.names, List.flatMap_map, List.map_flatMap]
    rfl
  have hall : uses.filter (fun u => decide (u.image.key ∈ groups.names)) = uses := by
    refine List.filter_eq_self.2 fun u hu => decide_eq_true ?_
    rw [h.names, List.mem_eraseDups]
    exact List.mem_map_of_mem hu
  rw [hcalls]
  refine List.Perm.map _ ((flatMap_filter_perm (·.image.key) h.nodup uses).trans ?_)
  rw [hall]

/-- Two calls are in one group if they are used with the same key. -/
theorem Groups.together_iff (h : Groups uses groups) {c c' : CallNode} :
    (∃ entry ∈ listingOf uses groups, c ∈ entry.2 ∧ c' ∈ entry.2) ↔
      ∃ key, (∃ u ∈ uses, u.call = c ∧ u.image.key = key) ∧
        ∃ u ∈ uses, u.call = c' ∧ u.image.key = key := by
  constructor
  · rintro ⟨entry, hentry, hc, hc'⟩
    exact ⟨entry.1.key, h.listed_iff.1 ⟨entry, hentry, hc, rfl⟩,
      h.listed_iff.1 ⟨entry, hentry, hc', rfl⟩⟩
  · rintro ⟨key, ⟨u, hu, rfl, rfl⟩, ⟨u', hu', rfl, hkey⟩⟩
    obtain ⟨info, hinfo⟩ := h.exists_group hu
    exact ⟨_, List.mem_map_of_mem hinfo, mem_callsUnder.2 ⟨u, hu, rfl, rfl⟩,
      mem_callsUnder.2 ⟨u', hu', hkey, rfl⟩⟩

end Calls

/-- The calls of a workflow that are looked up as tasks with an image, at any depth. -/
def imageCalls (doc : DocumentSource) (w : WorkflowSource) : List CallNode :=
  (Node.callsOf w.body).filter (namesImage (taskMap doc))

section Runs

variable {doc : DocumentSource} {w : WorkflowSource} {images : List ImageInfo} {uses : List Use}

theorem Lists.flatMap_tasks {listing : List (ImageInfo × List CallNode)}
    (h : Lists w images listing) :
    images.flatMap (·.tasks) = (listing.flatMap (·.2)).map (·.name) := by
  rw [← h.images, List.flatMap_map, List.map_flatMap, List.flatMap_def, List.flatMap_def,
    List.map_congr_left h.names]

/-- The search ends with the images of the workflow, if these are found. -/
theorem exists_rounds? (h : images? doc w = some images) :
    ∃ groups, Search.rounds? (taskMap doc) (Node.elementCountOf w.body) (Search.start w) =
      some ⟨[], groups⟩ ∧ groups.values = images := by
  obtain ⟨groups, hgroups, hvalues⟩ := Option.map_eq_some_iff.1 h
  refine ⟨groups, ?_, hvalues⟩
  have hends : (Search.start w).outcome? (taskMap doc) = some groups := hgroups
  exact (Search.rounds?_eq (Search.start w)).trans (congrArg (Option.map (Search.mk [])) hends)

theorem calls_perm (h : uses? (taskMap doc) (callsByDepth w.body) = some uses) :
    uses.map (·.call) ~ imageCalls doc w := by
  rw [calls_uses h]
  exact (callsByDepth_perm w.body).filter _

/-- Calls with an image are used with the same key if their images have the same key. -/
theorem callKey?_eq_iff (h : uses? (taskMap doc) (callsByDepth w.body) = some uses)
    {c c' : CallNode} (hc : c ∈ imageCalls doc w) (hc' : c' ∈ imageCalls doc w) :
    callKey? (taskMap doc) c = callKey? (taskMap doc) c' ↔
      ∃ key, (∃ u ∈ uses, u.call = c ∧ u.image.key = key) ∧
        ∃ u ∈ uses, u.call = c' ∧ u.image.key = key := by
  have hmem : ∀ {c}, c ∈ imageCalls doc w → c ∈ callsByDepth w.body := fun hc =>
    (callsByDepth_perm w.body).mem_iff.2 (List.mem_filter.1 hc).1
  simp only [exists_use_iff h (hmem hc), exists_use_iff h (hmem hc')]
  obtain ⟨u, hu, rfl⟩ := List.mem_map.1 ((calls_perm h).mem_iff.2 hc)
  have hkey : callKey? (taskMap doc) u.call = some u.image.key :=
    (exists_use_iff h (hmem hc)).1 ⟨u, hu, rfl, rfl⟩
  constructor
  · intro heq
    exact ⟨u.image.key, hkey, heq.symm.trans hkey⟩
  · rintro ⟨key, hfirst, hsecond⟩
    exact hfirst.trans hsecond.symm

end Runs

/-- **No call is lost and none is listed twice**: if the images of the tasks that are called print,
the images of the workflow are found, and the search with a queue ends with them after one round for
each element of the body. They list the calls that are looked up as tasks with an image, each once.
Two of these calls stand together exactly when their images have the same key, and the images are in
the order in which their keys are first met, outer calls before inner ones. -/
theorem images_conserve_calls (doc : DocumentSource) (w : WorkflowSource)
    (hprints : ∀ c ∈ Node.callsOf w.body, imagePrints (taskMap doc) c = true) :
    ∃ images listing, images? doc w = some images ∧ Lists w images listing ∧
      (∃ groups, Search.rounds? (taskMap doc) (Node.elementCountOf w.body) (Search.start w) =
        some ⟨[], groups⟩ ∧ groups.values = images) ∧
      images.flatMap (·.tasks) ~ (imageCalls doc w).map (·.name) ∧
      listing.flatMap (·.2) ~ imageCalls doc w ∧
      (∀ c ∈ imageCalls doc w, ∀ c' ∈ imageCalls doc w,
        (∃ entry ∈ listing, c ∈ entry.2 ∧ c' ∈ entry.2) ↔
          callKey? (taskMap doc) c = callKey? (taskMap doc) c') ∧
      images.map ImageInfo.key =
        ((callsByDepth w.body).filterMap (callKey? (taskMap doc))).eraseDups := by
  have hfound : images? doc w ≠ none := by
    rw [ne_eq, images?_eq_none_iff]
    rintro ⟨c, hc, hnone⟩
    have hsome := hprints c hc
    rw [← isSome_callImage?, hnone] at hsome
    cases hsome
  obtain ⟨images, himages⟩ := Option.ne_none_iff_exists'.1 hfound
  have hsearch := exists_rounds? himages
  obtain ⟨uses, groups, huses, hgroups, rfl⟩ := exists_groups_of_images? himages
  have hlists := hgroups.lists huses
  have hcalls : (listingOf uses groups).flatMap (·.2) ~ imageCalls doc w :=
    hgroups.flatMap_calls_perm.trans (calls_perm huses)
  refine ⟨groups.values, listingOf uses groups, himages, hlists, hsearch, ?_, hcalls, ?_, ?_⟩
  · rw [hlists.flatMap_tasks]
    exact hcalls.map _
  · intro c hc c' hc'
    rw [hgroups.together_iff, callKey?_eq_iff huses hc hc']
  · rw [hgroups.map_key, keys_uses huses]

/-- A document with two tasks. -/
def sortingDocument : DocumentSource where
  tasks := [imageTask "align" "aligner:1", imageTask "sort" "sorter:2"]

/-- A call of the task `sort`. -/
def sortCall : CallNode :=
  ⟨["sort"], "sort", [], some ⟨.task, "sort"⟩⟩

/-- A second call of the task `align`. -/
def realignCall : CallNode :=
  ⟨["align"], "realign", [], some ⟨.task, "align"⟩⟩

/-- A workflow whose first call stands behind a block with the other two. -/
def sortingWorkflow : WorkflowSource where
  name := "sorting"
  body := [.scatter "read" none [.conditional none [.call realignCall], .call sortCall],
    .call alignCall]

theorem images_conserve_calls_nested :
    (∀ c ∈ Node.callsOf sortingWorkflow.body, imagePrints (taskMap sortingDocument) c = true) ∧
    ∃ listing,
      Lists sortingWorkflow [⟨"aligner:1", ["align", "realign"], false, none, none⟩,
        ⟨"sorter:2", ["sort"], false, none, none⟩] listing ∧
      listing.flatMap (·.2) ~ [realignCall, sortCall, alignCall] := by
  have hprints : ∀ c ∈ Node.callsOf sortingWorkflow.body,
      imagePrints (taskMap sortingDocument) c = true := by decide
  refine ⟨hprints, ?_⟩
  obtain ⟨images, listing, himages, hlists, -, -, hcalls, -⟩ :=
    images_conserve_calls sortingDocument sortingWorkflow hprints
  have hfound : images? sortingDocument sortingWorkflow =
      some [⟨"aligner:1", ["align", "realign"], false, none, none⟩,
        ⟨"sorter:2", ["sort"], false, none, none⟩] := by decide
  obtain rfl := Option.some.inj (himages.symm.trans hfound)
  exact ⟨listing, hlists, hcalls⟩

end Images

end WorkflowDocs
