import WorkflowDocs.Proofs.Literal.ReadBack
import WorkflowDocs.Proofs.Traversal
import WorkflowDocs.Proofs.Workspace.Entries

/-!
# Structured notes on parameters

The note on a parameter may be an object, of which only the text is kept in the catalogue. The
description of the parameter is found by reading that text as a literal. For texts, lists and
objects, which are written in the same way as literals, nothing is lost on that way: the description
is the text that the object has under its name, whatever characters are in it. Only an object that
is nested more deeply than a literal can be is shown as it is written.

## Main definitions

* `MetaValue.Structured`: texts, lists and objects with distinct names
* `MetaValue.literal`: the literal of a descriptive value
* `DescribedAs`: what an input with notes is described as

## Main results

* `MetaValue.text_object`: an object is written like its literal
* `structuredNote_object`: the description that the text of an object gives
* `structured_note_read_back`: how an input with a structured note is described
-/

namespace WorkflowDocs

namespace MetaValue

/-- Texts, and lists and objects of structured values; the names in an object are distinct. -/
inductive Structured : MetaValue → Prop where
  | string (s : String) : Structured (.string s)
  | list {items : List MetaValue} (h : ∀ v ∈ items, Structured v) : Structured (.list items)
  | object {members : Fields MetaValue} (hnames : members.names.Nodup)
      (h : ∀ m ∈ members, Structured m.2) : Structured (.object members)

mutual

/-- The literal of a descriptive value. -/
def literal : MetaValue → Literal
  | .string s => .string s
  | .int n => .int n
  | .float x => .float x
  | .boolean b => .boolean b
  | .list items => .list (literals items)
  | .object members => .dict (memberLiterals members)

/-- The literals of the items of a list. -/
def literals : List MetaValue → List Literal
  | [] => []
  | v :: vs => v.literal :: literals vs

/-- The literals of the members of an object. -/
def memberLiterals : List (String × MetaValue) → List (Literal × Literal)
  | [] => []
  | (name, v) :: ms => (.string name, v.literal) :: memberLiterals ms

end

theorem literals_eq_map (items : List MetaValue) : literals items = items.map literal := by
  induction items with
  | nil => rfl
  | cons v vs ih => rw [literals, ih, List.map_cons]

theorem nestedItems_eq_map (items : List MetaValue) : nestedItems items = items.map nested := by
  induction items with
  | nil => rfl
  | cons v vs ih => rw [nestedItems, ih, List.map_cons]

theorem memberLiterals_eq_map (members : List (String × MetaValue)) :
    memberLiterals members =
      (members.map fun m => (m.1, m.2.literal)).map fun f => (.string f.1, f.2) := by
  induction members with
  | nil => rfl
  | cons m ms ih => rw [memberLiterals, ih, List.map_cons, List.map_cons]

theorem nestedMembers_eq_map (members : List (String × MetaValue)) :
    nestedMembers members = members.map fun m => Text.quoted m.1 ++ ": " ++ m.2.nested := by
  induction members with
  | nil => rfl
  | cons m ms ih => rw [nestedMembers, ih, List.map_cons]

theorem Structured.literal {v : MetaValue} (h : v.Structured) : v.literal.Structured := by
  induction h with
  | string s => exact .string s
  | @list items _ ih =>
    rw [MetaValue.literal, literals_eq_map]
    exact .list (List.forall_mem_map.2 ih)
  | @object members hnames _ ih =>
    rw [MetaValue.literal, memberLiterals_eq_map]
    refine .dict ?_ (List.forall_mem_map.2 ih)
    rw [Fields.names, List.map_map]
    exact hnames

/-- A structured value is written like its literal. -/
theorem Structured.nested_eq {v : MetaValue} (h : v.Structured) : v.nested = v.literal.text := by
  induction h with
  | string s => rfl
  | @list items _ ih =>
    rw [nested, MetaValue.literal, Literal.text, literals_eq_map, Literal.texts_eq_map,
      nestedItems_eq_map, List.map_map]
    rw [List.map_congr_left ih]
    rfl
  | @object members _ _ ih =>
    rw [nested, MetaValue.literal, Literal.text, memberLiterals_eq_map, Literal.entryTexts_eq_map,
      nestedMembers_eq_map, List.map_map]
    rw [List.map_congr_left fun m hm => by rw [ih m hm]]
    rfl

/-- The text of an object is the written form of its literal. -/
theorem text_object {members : Fields MetaValue} (h : (object members).Structured) :
    (object members).text = (object members).literal.text := h.nested_eq

theorem text_object_ne (members : Fields MetaValue) : (object members).text ≠ "" := by
  change (object members).nested ≠ ""
  rw [nested]
  intro h
  have hchars := congrArg String.toList h
  rw [String.toList_append, String.toList_append] at hchars
  exact absurd hchars (List.cons_ne_nil _ _)

theorem lookup?_memberLiterals (members : Fields MetaValue) (name : String) :
    Literal.lookup? name (memberLiterals members) = (members.get? name).map literal := by
  induction members with
  | nil => rfl
  | cons m ms ih =>
    rw [memberLiterals, Literal.lookup?, ih, Fields.get?_cons]
    by_cases hname : name = m.1
    · rw [if_pos hname.symm, if_pos hname, Option.map_some]
    · rw [if_neg (Ne.symm hname), if_neg hname]

end MetaValue

/-! ## Descriptions -/

theorem get?_metaTexts (notes : Fields MetaValue) (name : String) :
    (metaTexts notes).get? name = (notes.get? name).map MetaValue.text := by
  induction notes with
  | nil => rfl
  | cons n ns ih =>
    have hcons : metaTexts (n :: ns) = (n.1, n.2.text) :: metaTexts ns := rfl
    rw [hcons, Fields.get?_cons, Fields.get?_cons, ih]
    split <;> rfl

section Description

variable {members : Fields MetaValue} {s : String}

/-- What the text of an object gives as a description. -/
theorem structuredNote_object (h : (MetaValue.object members).Structured)
    (hdescription : members.get? "description" = some (.string s)) (hs : s ≠ "") :
    structuredNote .standard (MetaValue.object members).text =
      .ok (if (MetaValue.object members).literal.depth ≤ Literal.maxDepth then some (.string s)
        else none) := by
  have hlookup : Literal.lookup? "description" (MetaValue.memberLiterals members) =
      some (.string s) := by
    rw [MetaValue.lookup?_memberLiterals, hdescription]
    rfl
  have htruthy : (Literal.string s).isTruthy = true := by
    simpa [Literal.isTruthy] using hs
  rw [structuredNote, MetaValue.text_object h,
    Literal.read_text h.literal (Literal.limit?_text h.literal)]
  by_cases hdepth : (MetaValue.object members).literal.depth ≤ Literal.maxDepth
  · rw [if_pos hdepth, if_pos hdepth, MetaValue.literal]
    dsimp only
    rw [hlookup, Option.filter_some, if_pos htruthy]
  · rw [if_neg hdepth, if_neg hdepth]

/-- The note on a parameter that is an object. -/
theorem parameterNote_object {notes : Fields MetaValue} {name : String}
    (hnote : notes.get? name = some (.object members))
    (h : (MetaValue.object members).Structured)
    (hdescription : members.get? "description" = some (.string s)) (hs : s ≠ "") :
    parameterNote .standard (metaTexts notes) name =
      .ok (some (.text (if (MetaValue.object members).literal.depth ≤ Literal.maxDepth then s
        else (MetaValue.object members).text))) := by
  rw [parameterNote, get?_metaTexts, hnote, Option.map_some,
    presentText_of_ne (MetaValue.text_object_ne members)]
  dsimp only
  rw [structuredNote_object h hdescription hs]
  split <;> rfl

end Description

/-- The input that becomes of a declaration with notes on parameters has a description, alone and
among the inputs of its task or workflow. -/
structure DescribedAs (dialect : Literal.Dialect) (notes : Fields MetaValue) (d : Decl)
    (description : String) : Prop where
  input : ∃ i, InputInfo.ofDecl dialect (metaTexts notes) d = .ok i ∧ i.name = d.name ∧
    i.description = some (.text description)
  inTask : ∀ (t : TaskSource) (info : TaskInfo) (k : Nat),
    TaskInfo.ofSource dialect t = .ok info → t.parameterMeta = notes → t.inputs[k]? = some d →
    ∃ i, info.inputs[k]? = some i ∧ i.name = d.name ∧ i.description = some (.text description)
  inWorkflow : ∀ (cwd root : Path) (doc : DocumentSource) (imports : List ImportInfo)
    (w : WorkflowSource) (info : WorkflowInfo) (k : Nat),
    WorkflowInfo.ofSource dialect cwd root doc imports w = .ok info → w.parameterMeta = notes →
    w.inputs[k]? = some d →
    ∃ i, info.inputs[k]? = some i ∧ i.name = d.name ∧ i.description = some (.text description)

/-- Inputs are documented one by one, so the description of an input is that of its declaration. -/
theorem describedAs_of_parameterNote {dialect : Literal.Dialect} {notes : Fields MetaValue}
    {d : Decl} {description : String}
    (h : parameterNote dialect (metaTexts notes) d.name = .ok (some (.text description))) :
    DescribedAs dialect notes d description := by
  have hinput : ∀ i, InputInfo.ofDecl dialect (metaTexts notes) d = .ok i →
      i.name = d.name ∧ i.description = some (.text description) := by
    intro i hi
    rw [InputInfo.ofDecl, h] at hi
    obtain rfl := Except.ok.inj hi
    exact ⟨rfl, rfl⟩
  refine ⟨?_, fun t info k hinfo hnotes hd => ?_, fun cwd root doc imports w info k hinfo hnotes hd
    => ?_⟩
  · have hmade : ∃ i, InputInfo.ofDecl dialect (metaTexts notes) d = .ok i := by
      rw [InputInfo.ofDecl, h]
      exact ⟨_, rfl⟩
    obtain ⟨i, hi⟩ := hmade
    exact ⟨i, hi, hinput i hi⟩
  · obtain ⟨inputs, hinputs, hinfo⟩ := exists_of_bind_eq_ok hinfo
    obtain ⟨outputs, -, hinfo⟩ := exists_of_bind_eq_ok hinfo
    obtain ⟨command, -, hinfo⟩ := exists_of_bind_eq_ok hinfo
    obtain rfl := Except.ok.inj hinfo
    subst hnotes
    obtain ⟨i, hi, hmade⟩ := exists_getElem?_of_forall₂ (forall₂_of_mapM hinputs) hd
    exact ⟨i, hi, hinput i hmade⟩
  · obtain ⟨hinputs, -⟩ := Workspace.inputs_and_graph_of_ofSource hinfo
    subst hnotes
    obtain ⟨i, hi, hmade⟩ := exists_getElem?_of_forall₂ (forall₂_of_mapM hinputs) hd
    exact ⟨i, hi, hinput i hmade⟩

/-- **A structured note is read back.** Of an input whose note is an object of texts, lists and
objects with a text under `description`, the description is that text, in whatever characters it is
written: the text of the object is read as the literal that it was written from. Only an object
whose brackets are nested too deeply for a literal is shown as it is written. -/
theorem structured_note_read_back {notes members : Fields MetaValue} {d : Decl} {s : String}
    (hnote : notes.get? d.name = some (.object members))
    (hstructured : (MetaValue.object members).Structured)
    (hdescription : members.get? "description" = some (.string s)) (hs : s ≠ "") :
    ((MetaValue.object members).literal.depth ≤ Literal.maxDepth →
      Literal.read .standard (MetaValue.object members).text =
          .ok (MetaValue.object members).literal ∧
        DescribedAs .standard notes d s) ∧
    (Literal.maxDepth < (MetaValue.object members).literal.depth →
      Literal.read .standard (MetaValue.object members).text = .error .malformed ∧
        DescribedAs .standard notes d (MetaValue.object members).text) := by
  have hread := Literal.read_text hstructured.literal (Literal.limit?_text hstructured.literal)
  have hdescribed := parameterNote_object hnote hstructured hdescription hs
  rw [← MetaValue.text_object hstructured] at hread
  constructor
  · intro hdepth
    rw [if_pos hdepth] at hread hdescribed
    exact ⟨hread, describedAs_of_parameterNote hdescribed⟩
  · intro hdepth
    rw [if_neg (Nat.not_le.2 hdepth)] at hread hdescribed
    exact ⟨hread, describedAs_of_parameterNote hdescribed⟩

/-- A text with both marks, a backslash, control characters and characters of all widths. -/
def markedText : String :=
  "it's \"so\" \\n\n\r\t\x00\x85é\u200b😀"

/-- A note with marks and brackets in the texts around the description. -/
def markedNote : Fields MetaValue :=
  [("it's", .list [.string "", .object [("\"\\", .string "\x7b'"), ("", .list [])]]),
   ("description", .string markedText)]

/-- A declaration with that note. -/
def markedDecl : Decl where
  name := "sample"
  type := .primitive .string false
  expr := none

theorem structured_note_read_back_marked :
    (MetaValue.object markedNote).literal.depth = 4 ∧
      Literal.read .standard (MetaValue.object markedNote).text =
        .ok (MetaValue.object markedNote).literal ∧
      DescribedAs .standard [("sample", .object markedNote)] markedDecl markedText := by
  have hinner : (MetaValue.object [("\"\\", .string "\x7b'"), ("", .list [])]).Structured :=
    .object (by decide) (List.forall_mem_cons.2 ⟨.string _,
      List.forall_mem_singleton.2 (.list (List.forall_mem_nil _))⟩)
  have hstructured : (MetaValue.object markedNote).Structured :=
    .object (by decide) (List.forall_mem_cons.2
      ⟨.list (List.forall_mem_cons.2 ⟨.string _, List.forall_mem_singleton.2 hinner⟩),
        List.forall_mem_singleton.2 (.string _)⟩)
  exact ⟨by decide, (structured_note_read_back rfl hstructured rfl (by decide)).1 (by decide)⟩

end WorkflowDocs
