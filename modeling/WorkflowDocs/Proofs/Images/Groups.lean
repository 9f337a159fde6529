import WorkflowDocs.Images.Inventory
import WorkflowDocs.Proofs.Grouping

/-!
# Images and the calls that use them

The images of a workflow are found by going through its calls, outer ones before inner ones, and
looking up the task of each. Such a run finds nothing if it meets an image that does not print.
Otherwise it has a list of uses, the calls with the images of their tasks, and what it returns is
the list of uses grouped by key.

## Main definitions

* `Use`, `uses?`: a call with the image of its task, and all such calls
* `callKey?`: the key that a call is used with
* `callsUnder`, `groupOf?`: the calls with a key, and the group that they make
* `Groups`: the groups of a list of uses, in order of first use

## Main results

* `callsByDepth_perm`: going through a body by depth meets each call once
* `groups_foldl`: adding uses one after the other groups them by key
* `images?_eq_none_iff`, `exists_groups_of_images?`: what a run returns
-/

namespace WorkflowDocs.Images

/-! ## Calls by depth -/

theorem flatten_zipLevels_perm (as bs : List (List CallNode)) :
    (zipLevels as bs).flatten.Perm (as.flatten ++ bs.flatten) := by
  fun_induction zipLevels as bs with
  | case1 bs => exact .refl _
  | case2 as _ => rw [List.flatten_nil, List.append_nil]
  | case3 a as b bs ih =>
    have hswap : (b ++ (as.flatten ++ bs.flatten)).Perm (as.flatten ++ (b ++ bs.flatten)) :=
      List.perm_append_comm_assoc b as.flatten bs.flatten
    rw [List.flatten_cons, List.flatten_cons, List.flatten_cons, List.append_assoc,
      List.append_assoc]
    exact ((ih.append_left b).trans hswap).append_left a

mutual

theorem flatten_nodeLevels_perm : ∀ n : Node, (nodeLevels n).flatten.Perm n.calls
  | .decl _ => .refl _
  | .call _ => .refl _
  | .scatter _ _ body => callsByDepth_perm body
  | .conditional _ body => callsByDepth_perm body

/-- Going through a body by depth meets each call once. -/
theorem callsByDepth_perm : ∀ body : List Node, (callsByDepth body).Perm (Node.callsOf body)
  | [] => .refl _
  | n :: ns =>
    (flatten_zipLevels_perm _ _).trans
      ((flatten_nodeLevels_perm n).append (callsByDepth_perm ns))

end

/-! ## Uses -/

/-- A call with the image of its task. -/
structure Use where
  image : TaskImage
  call : CallNode

/-- The calls that use an image; `none` when an image does not print. -/
def uses? (tasks : Fields TaskSource) : List CallNode → Option (List Use)
  | [] => some []
  | c :: cs => do
    let image ← callImage? tasks c
    let uses ← uses? tasks cs
    return (image.map (⟨·, c⟩ : TaskImage → Use)).toList ++ uses

/-- The key of the image that is looked up for a call. -/
def callKey? (tasks : Fields TaskSource) (c : CallNode) : Option String :=
  (callImage? tasks c).join.map TaskImage.key

section Uses

variable {tasks : Fields TaskSource} {calls : List CallNode} {uses : List Use}

theorem uses?_eq_none_iff :
    uses? tasks calls = none ↔ ∃ c ∈ calls, callImage? tasks c = none := by
  induction calls with
  | nil => simp [uses?]
  | cons c cs ih =>
    rw [List.exists_mem_cons_iff, ← ih, uses?]
    cases himage : callImage? tasks c with
    | none => simp
    | some image => cases huses : uses? tasks cs <;> simp

theorem exists_of_uses?_cons {c : CallNode} (h : uses? tasks (c :: calls) = some uses) :
    ∃ image rest, callImage? tasks c = some image ∧ uses? tasks calls = some rest ∧
      uses = (image.map (⟨·, c⟩ : TaskImage → Use)).toList ++ rest := by
  obtain ⟨image, himage, h⟩ := Option.bind_eq_some_iff.1 h
  obtain ⟨rest, hrest, h⟩ := Option.bind_eq_some_iff.1 h
  exact ⟨image, rest, himage, hrest, (Option.some.inj h).symm⟩

/-- The uses are the calls whose task has an image, with that image. -/
theorem mem_uses_iff (h : uses? tasks calls = some uses) {u : Use} :
    u ∈ uses ↔ u.call ∈ calls ∧ callImage? tasks u.call = some (some u.image) := by
  induction calls generalizing uses with
  | nil =>
    obtain rfl := Option.some.inj h
    simp
  | cons c cs ih =>
    obtain ⟨image, rest, himage, hrest, rfl⟩ := exists_of_uses?_cons h
    obtain ⟨i, call⟩ := u
    rw [List.mem_append, ih hrest, List.mem_cons, or_and_right]
    refine or_congr_left ?_
    rw [Option.mem_toList, Option.map_eq_some_iff]
    constructor
    · rintro ⟨i', rfl, huse⟩
      obtain ⟨rfl, rfl⟩ := Use.mk.inj huse
      exact ⟨rfl, himage⟩
    · rintro ⟨rfl, hcall⟩
      exact ⟨i, Option.some.inj (himage.symm.trans hcall), rfl⟩

/-- A call is used with a key if that is the key of its image. -/
theorem exists_use_iff (h : uses? tasks calls = some uses) {c : CallNode} (hc : c ∈ calls)
    {key : String} :
    (∃ u ∈ uses, u.call = c ∧ u.image.key = key) ↔ callKey? tasks c = some key := by
  rw [callKey?, Option.map_eq_some_iff]
  simp only [mem_uses_iff h, Option.join_eq_some_iff]
  constructor
  · rintro ⟨u, ⟨-, himage⟩, rfl, hkey⟩
    exact ⟨u.image, himage, hkey⟩
  · rintro ⟨i, himage, hkey⟩
    exact ⟨⟨i, c⟩, ⟨hc, himage⟩, rfl, hkey⟩

theorem calls_sublist (h : uses? tasks calls = some uses) :
    (uses.map (·.call)).Sublist calls := by
  induction calls generalizing uses with
  | nil =>
    obtain rfl := Option.some.inj h
    exact .slnil
  | cons c cs ih =>
    obtain ⟨image, rest, -, hrest, rfl⟩ := exists_of_uses?_cons h
    cases image with
    | none => exact (ih hrest).cons c
    | some i => exact (ih hrest).cons_cons c

/-- Going through the calls adds their uses one after the other. -/
theorem addCalls_eq (groups : Fields ImageInfo) :
    addCalls tasks groups calls =
      (uses? tasks calls).map (List.foldl (fun groups u => addUse groups u.image u.call.name)
        groups) := by
  induction calls generalizing groups with
  | nil => rfl
  | cons c cs ih =>
    rw [addCalls, uses?]
    cases himage : callImage? tasks c with
    | none => rfl
    | some image =>
      cases image with
      | none =>
        dsimp only [Option.bind_eq_bind, Option.bind_some]
        rw [ih]
        cases uses? tasks cs <;> rfl
      | some i =>
        dsimp only [Option.bind_eq_bind, Option.bind_some]
        rw [ih]
        cases uses? tasks cs <;> rfl

end Uses

/-! ## Groups -/

/-- The calls that use an image with a key, in order. -/
def callsUnder (uses : List Use) (key : String) : List CallNode :=
  (uses.filter (·.image.key == key)).map (·.call)

/-- What is shown of an image that calls use. -/
def imageInfo (i : TaskImage) (calls : List CallNode) : ImageInfo :=
  ⟨i.image, calls.map (·.name), i.isParameterized, i.parameter, i.default⟩

/-- The group of a key: it shows the image of the first use, and lists all calls. -/
def groupOf? (uses : List Use) (key : String) : Option ImageInfo :=
  (uses.find? (·.image.key == key)).map fun u => imageInfo u.image (callsUnder uses key)

/-- The groups of a list of uses, in order of first use. -/
structure Groups (uses : List Use) (groups : Fields ImageInfo) : Prop where
  names : groups.names = (uses.map (·.image.key)).eraseDups
  get? : ∀ key, groups.get? key = groupOf? uses key

section Groups

variable {uses : List Use} {groups : Fields ImageInfo}

theorem mem_callsUnder {key : String} {c : CallNode} :
    c ∈ callsUnder uses key ↔ ∃ u ∈ uses, u.image.key = key ∧ u.call = c := by
  simp [callsUnder, and_assoc]

theorem callsUnder_sublist (uses : List Use) (key : String) :
    (callsUnder uses key).Sublist (uses.map (·.call)) :=
  List.filter_sublist.map _

/-- The calls of further uses are listed behind those that a group has. -/
theorem foldl_addCall (i : TaskImage) (calls : List CallNode) (more : List Use) :
    more.foldl (fun (g : ImageInfo) u => { g with tasks := g.tasks ++ [u.call.name] })
        (imageInfo i calls) = imageInfo i (calls ++ more.map (·.call)) := by
  induction more generalizing calls with
  | nil => rw [List.foldl_nil, List.map_nil, List.append_nil]
  | cons u more ih =>
    have hadd : { imageInfo i calls with tasks := (imageInfo i calls).tasks ++ [u.call.name] } =
        imageInfo i (calls ++ [u.call]) := by
      simp [imageInfo]
    rw [List.foldl_cons, hadd, ih, List.append_assoc]
    rfl

/-- Adding uses one after the other gathers them by key. -/
theorem groups_foldl (uses : List Use) :
    Groups uses (uses.foldl (fun groups u => addUse groups u.image u.call.name) []) where
  names := Fields.names_gather (fun u : Use => u.image.key) (fun u => imageInfo u.image [])
    (fun u g => { g with tasks := g.tasks ++ [u.call.name] }) uses
  get? key := by
    refine (Fields.get?_gather (fun u : Use => u.image.key) (fun u => imageInfo u.image [])
      (fun u g => { g with tasks := g.tasks ++ [u.call.name] }) uses key).trans ?_
    rw [groupOf?, Fields.gathered?, List.head?_filter]
    simp only [foldl_addCall, List.nil_append]
    rfl

theorem Groups.nodup (h : Groups uses groups) : groups.names.Nodup := by
  rw [h.names]
  exact nodup_eraseDups _

/-- A group shows the image of its first call, and lists the calls with its key. -/
theorem Groups.exists_first (h : Groups uses groups) {key : String} {info : ImageInfo}
    (hmem : (key, info) ∈ groups) :
    ∃ u ∈ uses, u.image.key = key ∧ (callsUnder uses key).head? = some u.call ∧
      info = imageInfo u.image (callsUnder uses key) := by
  have hget := (Fields.get?_eq_some_iff h.nodup).2 hmem
  rw [h.get?, groupOf?, Option.map_eq_some_iff] at hget
  obtain ⟨u, hfirst, rfl⟩ := hget
  refine ⟨u, List.mem_of_find?_eq_some hfirst, by simpa using List.find?_some hfirst, ?_, rfl⟩
  rw [callsUnder, List.head?_map, List.head?_filter, hfirst, Option.map_some]

/-- Each use has a group. -/
theorem Groups.exists_group (h : Groups uses groups) {u : Use} (hu : u ∈ uses) :
    ∃ info, (u.image.key, info) ∈ groups := by
  have hname : u.image.key ∈ groups.names := by
    rw [h.names, List.mem_eraseDups]
    exact List.mem_map_of_mem hu
  obtain ⟨⟨key, info⟩, hmem, rfl⟩ := List.mem_map.1 hname
  exact ⟨info, hmem⟩

end Groups

/-! ## Runs -/

variable {doc : DocumentSource} {w : WorkflowSource}

theorem images?_eq :
    images? doc w = (uses? (taskMap doc) (callsByDepth w.body)).map fun uses =>
      Fields.values (uses.foldl (fun groups u => addUse groups u.image u.call.name) []) := by
  rw [images?, addCalls_eq, Option.map_map]
  rfl

/-- A run finds nothing when it meets an image that does not print. -/
theorem images?_eq_none_iff :
    images? doc w = none ↔ ∃ c ∈ Node.callsOf w.body, callImage? (taskMap doc) c = none := by
  rw [images?_eq, Option.map_eq_none_iff, uses?_eq_none_iff]
  simp only [(callsByDepth_perm w.body).mem_iff]

/-- Otherwise it finds the groups of the uses. -/
theorem exists_groups_of_images? {images : List ImageInfo} (h : images? doc w = some images) :
    ∃ uses groups, uses? (taskMap doc) (callsByDepth w.body) = some uses ∧ Groups uses groups ∧
      images = groups.values := by
  rw [images?_eq] at h
  obtain ⟨uses, huses, rfl⟩ := Option.map_eq_some_iff.1 h
  exact ⟨uses, _, huses, groups_foldl uses, rfl⟩

end WorkflowDocs.Images
