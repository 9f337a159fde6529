import WorkflowDocs.Proofs.Images.Search

/-!
# Fixed and parameterized images in one group

Calls are grouped by the key of their image. For a fixed image that is its text, and for an image
given by a parameter it is the default of the parameter, or words with its name. All of these are
texts, so that a fixed image can have the key of a parameter. The group of both then shows whether
the first of its calls has a parameterized image, and this is wrong for some other call. Without
such a collision, every group shows what holds of all its calls.

## Main definitions

* `TaskImage.collides`: a fixed image with the key of an image that is given by a parameter
* `callFlag?`: whether the image that is looked up for a call is parameterized
* `usedImages`: the images that are looked up for the calls of a workflow

## Main results

* `flags_agree_iff`: when all groups show what holds of their calls
* `parameter_listed_as_fixed`: a parameterized image in the group of a fixed one
-/

namespace WorkflowDocs

/-- The fixed image is written like the key of an image given by a parameter: like the default of
the parameter, or like the words that stand for a parameter without one. -/
def TaskImage.collides (fixed given : TaskImage) : Bool :=
  !fixed.isParameterized && given.isParameterized &&
    match presentText given.default with
    | some d => fixed.image == d
    | none => fixed.image == "parameterized:" ++ (presentText given.parameter).getD "unknown"

theorem TaskImage.collides_iff {fixed given : TaskImage} :
    fixed.collides given = true ↔
      fixed.isParameterized = false ∧ given.isParameterized = true ∧ fixed.key = given.key := by
  obtain ⟨image, isParameterized, parameter, default⟩ := fixed
  obtain ⟨image', isParameterized', parameter', default'⟩ := given
  cases isParameterized
  · cases isParameterized'
    · simp [collides]
    · cases hdefault : presentText default' <;> simp [collides, key, hdefault]
  · simp [collides]

namespace Images

open scoped List

/-- Whether the image that is looked up for a call is parameterized; `none` when there is no
image. -/
def callFlag? (tasks : Fields TaskSource) (c : CallNode) : Option Bool :=
  (callImage? tasks c).join.map (·.isParameterized)

/-- The images that are looked up for the calls of a workflow. -/
def usedImages (doc : DocumentSource) (w : WorkflowSource) : List TaskImage :=
  (Node.callsOf w.body).filterMap fun c => (callImage? (taskMap doc) c).join

section Flags

variable {doc : DocumentSource} {w : WorkflowSource} {uses : List Use} {groups : Fields ImageInfo}

theorem callFlag?_of_mem {tasks : Fields TaskSource} {calls : List CallNode}
    (h : uses? tasks calls = some uses) {u : Use} (hu : u ∈ uses) :
    callFlag? tasks u.call = some u.image.isParameterized := by
  rw [callFlag?, ((mem_uses_iff h).1 hu).2, Option.join_some, Option.map_some]

theorem mem_usedImages_iff (h : uses? (taskMap doc) (callsByDepth w.body) = some uses)
    {i : TaskImage} : i ∈ usedImages doc w ↔ ∃ u ∈ uses, u.image = i := by
  rw [usedImages, List.mem_filterMap]
  constructor
  · rintro ⟨c, hc, himage⟩
    refine ⟨⟨i, c⟩, (mem_uses_iff h).2 ⟨(callsByDepth_perm w.body).mem_iff.2 hc, ?_⟩, rfl⟩
    exact Option.join_eq_some_iff.1 himage
  · rintro ⟨u, hu, rfl⟩
    obtain ⟨hc, himage⟩ := (mem_uses_iff h).1 hu
    exact ⟨u.call, (callsByDepth_perm w.body).mem_iff.1 hc, Option.join_eq_some_iff.2 himage⟩

/-- If no fixed image collides with a parameter, uses with the same key have the same flag. -/
theorem flag_eq_of_key_eq {u u' : Use} (hkey : u.image.key = u'.image.key)
    (hfixed : u.image.collides u'.image = false) (hgiven : u'.image.collides u.image = false) :
    u.image.isParameterized = u'.image.isParameterized := by
  cases hu : u.image.isParameterized <;> cases hu' : u'.image.isParameterized
  · rfl
  · have hcollides := TaskImage.collides_iff.2 ⟨hu, hu', hkey⟩
    rw [hfixed] at hcollides
    cases hcollides
  · have hcollides := TaskImage.collides_iff.2 ⟨hu', hu, hkey.symm⟩
    rw [hgiven] at hcollides
    cases hcollides
  · rfl

/-- All groups show what holds of their calls if no fixed image collides with a parameter. Two
images with one key have their calls in one group, and a group shows the flag of its first call. -/
theorem Groups.flags_eq_iff (h : Groups uses groups)
    (huses : uses? (taskMap doc) (callsByDepth w.body) = some uses) :
    (∀ entry ∈ listingOf uses groups, ∀ c ∈ entry.2,
      callFlag? (taskMap doc) c = some entry.1.isParameterized) ↔
        ∀ u ∈ uses, ∀ u' ∈ uses, u.image.collides u'.image = false := by
  constructor
  · intro hflags u hu u' hu'
    refine Bool.eq_false_iff.2 fun hcollides => ?_
    obtain ⟨hfixed, hgiven, hkey⟩ := TaskImage.collides_iff.1 hcollides
    obtain ⟨entry, hentry, hc, hc'⟩ :=
      h.together_iff.2 ⟨u.image.key, ⟨u, hu, rfl, rfl⟩, ⟨u', hu', rfl, hkey.symm⟩⟩
    have hflag := hflags entry hentry u.call hc
    have hflag' := hflags entry hentry u'.call hc'
    rw [callFlag?_of_mem huses hu, hfixed] at hflag
    rw [callFlag?_of_mem huses hu', hgiven, ← hflag] at hflag'
    cases hflag'
  · intro hcollides entry hentry c hc
    obtain ⟨⟨key, info⟩, hg, rfl⟩ := List.mem_map.1 hentry
    obtain ⟨first, hfirst, hkey, -, rfl⟩ := h.exists_first hg
    obtain ⟨u, hu, hkey', rfl⟩ := mem_callsUnder.1 hc
    rw [callFlag?_of_mem huses hu, flag_eq_of_key_eq (hkey'.trans hkey.symm)
      (hcollides u hu first hfirst) (hcollides first hfirst u hu)]
    rfl

end Flags

/-- **Groups show what holds of all their calls, unless a fixed image collides with a parameter**:
the images that are found list the calls with an image, each once, and show of each group whether
its first call has a parameterized image. That holds of all calls of all groups exactly when no
fixed image that is used has the key of an image that is used and given by a parameter. -/
theorem flags_agree_iff {doc : DocumentSource} {w : WorkflowSource} {images : List ImageInfo}
    (h : images? doc w = some images) :
    ∃ listing, Lists w images listing ∧ listing.flatMap (·.2) ~ imageCalls doc w ∧
      (∀ entry ∈ listing, ∃ first, entry.2.head? = some first ∧
        callFlag? (taskMap doc) first = some entry.1.isParameterized) ∧
      ((∀ entry ∈ listing, ∀ c ∈ entry.2,
        callFlag? (taskMap doc) c = some entry.1.isParameterized) ↔
          ∀ fixed ∈ usedImages doc w, ∀ given ∈ usedImages doc w,
            fixed.collides given = false) := by
  obtain ⟨uses, groups, huses, hgroups, rfl⟩ := exists_groups_of_images? h
  refine ⟨listingOf uses groups, hgroups.lists huses,
    hgroups.flatMap_calls_perm.trans (calls_perm huses), ?_, ?_⟩
  · intro entry hentry
    obtain ⟨⟨key, info⟩, hg, rfl⟩ := List.mem_map.1 hentry
    obtain ⟨u, hu, -, hfirst, rfl⟩ := hgroups.exists_first hg
    exact ⟨u.call, hfirst, callFlag?_of_mem huses hu⟩
  · rw [hgroups.flags_eq_iff huses]
    simp only [mem_usedImages_iff huses, forall_exists_index, and_imp, forall_apply_eq_imp_iff₂]

/-- A document with a fixed image and an image that is given by a parameter. -/
def choosingDocument (default : String) : DocumentSource where
  tasks := [imageTask "align" "aligner:1",
    parameterTask "sort" (.string [.text "\"", .text default, .text "\""])]

theorem flags_agree_iff_distinct :
    images? (choosingDocument "sorter:2") sortingWorkflow =
      some [⟨"aligner:1", ["align", "realign"], false, none, none⟩,
        ⟨"image", ["sort"], true, some "image", some "sorter:2"⟩] ∧
    ∃ listing,
      Lists sortingWorkflow [⟨"aligner:1", ["align", "realign"], false, none, none⟩,
        ⟨"image", ["sort"], true, some "image", some "sorter:2"⟩] listing ∧
      ∀ entry ∈ listing, ∀ c ∈ entry.2,
        callFlag? (taskMap (choosingDocument "sorter:2")) c = some entry.1.isParameterized := by
  have himages : images? (choosingDocument "sorter:2") sortingWorkflow =
      some [⟨"aligner:1", ["align", "realign"], false, none, none⟩,
        ⟨"image", ["sort"], true, some "image", some "sorter:2"⟩] := by decide
  obtain ⟨listing, hlists, -, -, hflags⟩ := flags_agree_iff himages
  exact ⟨himages, listing, hlists, hflags.2 (by decide)⟩

/-- A parameterized image whose default is a fixed image of another task is shown as fixed. -/
theorem parameter_listed_as_fixed :
    images? (choosingDocument "aligner:1") sortingWorkflow =
      some [⟨"aligner:1", ["align", "sort", "realign"], false, none, none⟩] ∧
    callFlag? (taskMap (choosingDocument "aligner:1")) sortCall = some true :=
  ⟨by decide, by decide⟩

end Images

end WorkflowDocs
