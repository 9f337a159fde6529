import WorkflowDocs.Proofs.Images.Called
import WorkflowDocs.Proofs.Wdl.Literals

/-!
# Defaults of image parameters

Where the image of a task is given by an input, the default of the input stands for the image: it is
shown, and calls are grouped by it. If the default has a literal value, it is shown by the text of
that value. If it cannot be asked for one, nothing is shown, and the calls are grouped by the name
of the input. But a default that is asked and has none is shown as `None`, whatever it is. So all
images with such defaults, which may have nothing to do with each other, belong to one group.

## Main definitions

* `TaskImage.GivenBy`: the image of a task is given by an input with a default
* `TaskImage.StandsFor`: what can be shown of a default

## Main results

* `TaskImage.GivenBy.ofTask?`: the image of a task that is given by an input
* `Images.default_stands_iff`: when the default is shown, and which tasks have the same key
* `Images.computed_defaults_merged`: two defaults without a literal value
-/

namespace WorkflowDocs

theorem ne_empty_of_isIdentName {name : String} (h : isIdentName name = true) : name ≠ "" := by
  rintro rfl
  exact absurd h (by decide)

namespace TaskImage

/-- The image of a task is given by an input: the expression that names it is a reference to the
input and nothing else, and `e` is the default of the input. -/
structure GivenBy (t : TaskSource) (name : String) (e : Expr) : Prop where
  image : expr? t.runtime = some (.get (.ident name) none) ∨ expr? t.runtime = some (.ident name)
  named : isIdentName name = true
  input : ∃ type, t.inputs.find? (·.name == name) = some ⟨name, type, some e⟩

/-- What can be shown of a default: the text of its literal value if it has one, and otherwise its
printed form or nothing, always without the quotation marks around it. -/
def StandsFor (e : Expr) (shown : Option String) : Prop :=
  match e.literal with
  | .ok v => shown = some (stripQuotes v.text)
  | .error _ => shown = none ∨ ∃ s, e.text? = some s ∧ shown = some (stripQuotes s)

section GivenBy

variable {t : TaskSource} {name : String} {e : Expr}

/-- The image is parameterized, with the default that the input has. -/
theorem GivenBy.ofTask? (h : GivenBy t name e) :
    TaskImage.ofTask? t = some (some ⟨name, true, some name, defaultOf? t.inputs name⟩) := by
  have hname := presentText_of_ne (ne_empty_of_isIdentName h.named)
  rw [TaskImage.ofTask?, ofRuntime?]
  rcases h.image with himage | himage
  · rw [himage]
    simp [analyze?, Expr.text?, isReference, referencedName?, withDefault, hname]
  · rw [himage]
    simp [analyze?, Expr.text?, isReference, referencedName?, withDefault, hname]

theorem GivenBy.defaultOf?_eq (h : GivenBy t name e) :
    defaultOf? t.inputs name =
      match e.literal with
      | .ok v => some (stripQuotes v.text)
      | .error .absent => some "None"
      | .error .unsupported => none := by
  obtain ⟨type, hinput⟩ := h.input
  rw [defaultOf?, hinput]
  rfl

theorem GivenBy.imageKey? (h : GivenBy t name e) :
    Images.imageKey? t = some (some ((presentText (defaultOf? t.inputs name)).getD
      ("parameterized:" ++ name))) := by
  have hname := presentText_of_ne (ne_empty_of_isIdentName h.named)
  rw [Images.imageKey?, h.ofTask?]
  simp [key, hname]

/-- A default that is asked for a literal value and has none is shown as `None`. -/
theorem GivenBy.default_of_lacks (h : GivenBy t name e) (he : e.LacksLiteral) :
    defaultOf? t.inputs name = some "None" := by
  rw [h.defaultOf?_eq, (Expr.literal_eq_absent_iff e).2 he]

/-- Nothing is shown of a default that cannot be asked for a literal value. -/
theorem GivenBy.default_of_not_lacks (h : GivenBy t name e) (hliteral : ¬ e.HasLiteral)
    (he : ¬ e.LacksLiteral) : defaultOf? t.inputs name = none := by
  rw [h.defaultOf?_eq]
  cases hasked : e.literal with
  | ok v => exact absurd ⟨v, hasked⟩ hliteral
  | error why =>
    cases why with
    | absent => exact absurd ((Expr.literal_eq_absent_iff e).1 hasked) he
    | unsupported => rfl

theorem GivenBy.imageKey?_of_lacks (h : GivenBy t name e) (he : e.LacksLiteral) :
    Images.imageKey? t = some (some "None") := by
  rw [h.imageKey?, h.default_of_lacks he]
  rfl

theorem GivenBy.imageKey?_of_not_lacks (h : GivenBy t name e) (hliteral : ¬ e.HasLiteral)
    (he : ¬ e.LacksLiteral) : Images.imageKey? t = some (some ("parameterized:" ++ name)) := by
  rw [h.imageKey?, h.default_of_not_lacks hliteral he]
  rfl

theorem GivenBy.standsFor_iff (h : GivenBy t name e) :
    StandsFor e (defaultOf? t.inputs name) ↔
      ¬ e.LacksLiteral ∨ e.text?.map stripQuotes = some "None" := by
  rw [StandsFor, h.defaultOf?_eq, ← Expr.literal_eq_absent_iff]
  cases e.literal with
  | ok v => simp
  | error why =>
    cases why with
    | absent => simp [eq_comm (a := "None")]
    | unsupported => simp

end GivenBy

end TaskImage

namespace Images

theorem none_ne_parameterized (name : String) : "None" ≠ "parameterized:" ++ name := by
  intro h
  have hchars := congrArg String.toList h
  simp at hchars

/-- **A default is shown as it is, unless it has to be computed**: where the image of a task is
given by an input, its default is shown by its literal value, by its printed form or not at all
exactly when it does not lack a literal value, or is itself written `None`. If it lacks one, `None`
is shown in its place. Two tasks whose defaults have no literal value have the same key if both
defaults lack one, and also if neither can be asked and the inputs have the same name; otherwise
their keys differ. The key is `None` for a default that is asked, and has the name of the input
otherwise. -/
theorem default_stands_iff {t : TaskSource} {name : String} {e : Expr}
    (h : TaskImage.GivenBy t name e) :
    (∃ i, TaskImage.ofTask? t = some (some i) ∧ i.parameter = some name ∧
      (TaskImage.StandsFor e i.default ↔
        ¬ e.LacksLiteral ∨ e.text?.map TaskImage.stripQuotes = some "None") ∧
      (e.LacksLiteral → i.default = some "None")) ∧
    ∀ t' name' e', TaskImage.GivenBy t' name' e' → ¬ e.HasLiteral → ¬ e'.HasLiteral →
      (imageKey? t = imageKey? t' ↔ (e.LacksLiteral ∧ e'.LacksLiteral) ∨
        (¬ e.LacksLiteral ∧ ¬ e'.LacksLiteral ∧ name = name')) := by
  refine ⟨⟨_, h.ofTask?, rfl, h.standsFor_iff, h.default_of_lacks⟩, ?_⟩
  intro t' name' e' h' hliteral hliteral'
  by_cases he : e.LacksLiteral <;> by_cases he' : e'.LacksLiteral
  · simp [h.imageKey?_of_lacks he, h'.imageKey?_of_lacks he', he, he']
  · simp [h.imageKey?_of_lacks he, h'.imageKey?_of_not_lacks hliteral' he', he, he',
      none_ne_parameterized]
  · simp [h.imageKey?_of_not_lacks hliteral he, h'.imageKey?_of_lacks he', he, he',
      (none_ne_parameterized _).symm]
  · simp [h.imageKey?_of_not_lacks hliteral he, h'.imageKey?_of_not_lacks hliteral' he', he, he',
      String.append_right_inj]

/-- A default that is put together from another input. -/
def taggedDefault : Expr :=
  .apply "_add" [.string [.text "\"", .text "sorter:", .text "\""], .get (.ident "tag") none]

/-- A default that another input decides on. -/
def chosenDefault : Expr :=
  .ifThenElse (.get (.ident "fast") none) (.string [.text "\"", .text "aligner:1", .text "\""])
    (.string [.text "\"", .text "aligner:2", .text "\""])

theorem givenBy_parameterTask (name : String) (default : Expr) :
    TaskImage.GivenBy (parameterTask name default) "image" default :=
  ⟨.inl rfl, by decide, _, rfl⟩

theorem default_stands_iff_computed :
    TaskImage.GivenBy (parameterTask "sort" taggedDefault) "image" taggedDefault ∧
    TaskImage.GivenBy (parameterTask "align" chosenDefault) "image" chosenDefault ∧
    imageKey? (parameterTask "sort" taggedDefault) =
      imageKey? (parameterTask "align" chosenDefault) := by
  have htagged := givenBy_parameterTask "sort" taggedDefault
  have hchosen := givenBy_parameterTask "align" chosenDefault
  refine ⟨htagged, hchosen, ?_⟩
  refine ((default_stands_iff htagged).2 _ _ _ hchosen ?_ ?_).2
    (.inl ⟨.computed rfl, .computed rfl⟩)
  · rintro ⟨v, hv⟩
    cases hv
  · rintro ⟨v, hv⟩
    cases hv

/-- Two defaults that have to be computed, of which neither is written `None`, are shown alike, and
so their tasks have one key. -/
theorem computed_defaults_merged :
    taggedDefault.text? = some "\"sorter:\" + tag" ∧
    chosenDefault.text? = some "if fast then \"aligner:1\" else \"aligner:2\"" ∧
    TaskImage.ofTask? (parameterTask "sort" taggedDefault) =
      some (some ⟨"image", true, some "image", some "None"⟩) ∧
    TaskImage.ofTask? (parameterTask "align" chosenDefault) =
      some (some ⟨"image", true, some "image", some "None"⟩) ∧
    imageKey? (parameterTask "sort" taggedDefault) = some (some "None") ∧
    imageKey? (parameterTask "align" chosenDefault) = some (some "None") :=
  ⟨by decide, by decide, by decide, by decide, by decide, by decide⟩

end Images

end WorkflowDocs
