import WorkflowDocs.Catalog.TypeInfo
import Mathlib.Data.List.Basic

/-!
# Documented types and their printed form

The documentation of a type keeps its name and the mark for optional values apart, and finds both by
cutting the printed form. Put together again they are the printed form, and this is so for every
field of a struct, at any depth. The mark at the end of a printed form says that the type is
optional, whatever stands before it: only a struct whose own name ends with a question mark is
taken for an optional one.

## Main definitions

* `WdlType.members`, `WdlType.hasMarkedName`: the members of a struct, and names that end like the
  printed form of an optional type
* `PrintsBack`: a type and its documentation, with all fields

## Main results

* `WdlType.endsWith_text`: which printed forms end with the mark
* `TypeInfo.text_plain`: the parts of a printed form put together
* `types_print_back`: every type is documented by its printed form
* `marked_name_counts_as_optional`: a struct that is taken for an optional one
-/

namespace WorkflowDocs

namespace Text

theorem endsWith_mark_iff {s : String} :
    endsWith s "?" = true ↔ s.toList.getLast? = some '?' := by
  have hmark : "?".toList.reverse = ['?'] := by decide
  rw [endsWith, hmark, ← List.head?_reverse]
  cases s.toList.reverse with
  | nil => exact iff_of_false (by decide) (by simp)
  | cons c cs =>
    rw [List.isPrefixOf_iff_prefix, List.singleton_prefix_cons_iff, List.head?_cons,
      Option.some_inj, eq_comm]

/-- A text ends with the mark if its last part does. -/
theorem endsWith_mark_append (s : String) {last : String} (h : last ≠ "") :
    endsWith (s ++ last) "?" = endsWith last "?" := by
  have hne : last.toList ≠ [] := fun hnil => h (String.toList_inj.1 hnil)
  rw [Bool.eq_iff_iff, endsWith_mark_iff, endsWith_mark_iff, String.toList_append,
    List.getLast?_append_of_ne_nil _ hne]

/-- A text with the mark of optional types behind it ends with that, or as it did. -/
theorem endsWith_optionalMark (s : String) (o : Bool) :
    endsWith (s ++ WdlType.optionalMark o) "?" = (o || endsWith s "?") := by
  cases o with
  | true =>
    rw [WdlType.optionalMark, if_pos rfl, endsWith_mark_append s (by decide), Bool.true_or]
    decide
  | false => rw [WdlType.optionalMark, if_neg (by decide), String.append_empty, Bool.false_or]

end Text

namespace WdlType

/-- The members of a struct; other types have none. -/
def members : WdlType → List (String × WdlType)
  | .struct _ (some ms) _ => ms
  | _ => []

/-- Whether the type is a struct with a name that ends like the printed form of an optional type. -/
def hasMarkedName : WdlType → Bool
  | .struct name _ _ => Text.endsWith name "?"
  | _ => false

/-- **Printed forms that end with the mark** are those of optional types and those of structs with
such a name. -/
theorem endsWith_text (t : WdlType) :
    Text.endsWith t.text "?" = (t.optional || t.hasMarkedName) := by
  have hbracket : Text.endsWith "]" "?" = false := by decide
  cases t with
  | primitive kind o =>
    have hname : Text.endsWith kind.text "?" = false := by cases kind <;> decide
    rw [text, Text.endsWith_optionalMark, hname]
    rfl
  | array item nonempty o =>
    rw [text, Text.endsWith_optionalMark]
    refine congrArg (o || ·) ?_
    cases nonempty with
    | true =>
      have hplus : Text.endsWith "+" "?" = false := by decide
      rw [if_pos rfl, Text.endsWith_mark_append _ (by decide), hplus]
      rfl
    | false =>
      rw [if_neg (by decide), String.append_empty, Text.endsWith_mark_append _ (by decide),
        hbracket]
      rfl
  | map key value o =>
    rw [text, Text.endsWith_optionalMark, Text.endsWith_mark_append _ (by decide), hbracket]
    rfl
  | pair left right o =>
    rw [text, Text.endsWith_optionalMark, Text.endsWith_mark_append _ (by decide), hbracket]
    rfl
  | struct name ms o =>
    rw [text, Text.endsWith_optionalMark]
    rfl

end WdlType

/-- The documentation of a type prints like the type, is optional if the type is or has a marked
name, and has the members of the type as its fields, each of which prints back in turn. -/
inductive PrintsBack : WdlType → TypeInfo → Prop
  | intro {t : WdlType} {i : TypeInfo}
      (text : i.text = t.text)
      (optional : i.optional = (t.optional || t.hasMarkedName))
      (count : i.fieldCount = t.members.length)
      (names : (i.fields.getD []).map (·.1) = t.members.map (·.1))
      (fields : ∀ p ∈ t.members.zip (i.fields.getD []), PrintsBack p.1.2 p.2.2) :
      PrintsBack t i

namespace TypeInfo

/-! ## The parts of a printed form -/

theorem splitMark_snd (s : String) : (splitMark s).2 = Text.endsWith s "?" := by
  rw [splitMark]
  split <;> simp_all

/-- The parts of a printed form put together are the printed form. -/
theorem splitMark_append (s : String) :
    (splitMark s).1 ++ WdlType.optionalMark (splitMark s).2 = s := by
  rw [splitMark]
  split
  · rename_i hmark
    have hlast := List.dropLast_append_getLast? _ (Text.endsWith_mark_iff.1 hmark)
    rw [← String.toList_inj, String.toList_append, String.toList_ofList, WdlType.optionalMark,
      if_pos rfl]
    exact hlast
  · simp [WdlType.optionalMark]

section Plain

variable (t : WdlType) (isStruct : Bool) (fields : Option (List (String × TypeInfo)))

theorem optional_plain : (plain t isStruct fields).optional = (t.optional || t.hasMarkedName) := by
  rw [plain, splitMark_snd, WdlType.endsWith_text]
  cases t.optional <;> rfl

theorem text_plain : (plain t isStruct fields).text = t.text := by
  rw [TypeInfo.text, optional_plain, ← WdlType.endsWith_text, ← splitMark_snd]
  exact splitMark_append t.text

end Plain

/-! ## Fields at any depth -/

theorem names_ofMembers (ms : List (String × WdlType)) :
    (ofMembers ms).map (·.1) = ms.map (·.1) := by
  induction ms with
  | nil => rw [ofMembers]; rfl
  | cons m ms ih => rw [ofMembers, List.map_cons, List.map_cons, ih]

/-- The documentation of a type lists that of its members. -/
theorem exists_ofType_eq (t : WdlType) :
    ∃ isStruct fields, ofType t = plain t isStruct fields ∧
      fields.getD [] = ofMembers t.members := by
  cases t with
  | struct name ms o =>
    rcases ms with - | (- | ⟨m, ms⟩)
    all_goals exact ⟨true, _, rfl, rfl⟩
  | _ => exact ⟨false, none, rfl, rfl⟩

/-- A type prints back if its members do. -/
theorem printsBack_of_members {t : WdlType}
    (h : ∀ p ∈ t.members.zip (ofMembers t.members), PrintsBack p.1.2 p.2.2) :
    PrintsBack t (ofType t) := by
  obtain ⟨isStruct, fields, heq, hfields⟩ := exists_ofType_eq t
  have hnames := names_ofMembers t.members
  rw [← hfields] at hnames h
  rw [heq]
  refine .intro (text_plain ..) (optional_plain ..) ?_ hnames h
  have hlength := congrArg List.length hnames
  rwa [List.length_map, List.length_map] at hlength

mutual

/-- The documentation of a type prints back. -/
theorem printsBack_ofType : ∀ t : WdlType, PrintsBack t (ofType t)
  | .struct _ (some ms) _ => printsBack_of_members (printsBack_ofMembers ms)
  | .struct _ none _ => printsBack_of_members (List.forall_mem_nil _)
  | .primitive _ _ => printsBack_of_members (List.forall_mem_nil _)
  | .array _ _ _ => printsBack_of_members (List.forall_mem_nil _)
  | .map _ _ _ => printsBack_of_members (List.forall_mem_nil _)
  | .pair _ _ _ => printsBack_of_members (List.forall_mem_nil _)

/-- The documented fields of a struct print back, one by one. -/
theorem printsBack_ofMembers : ∀ ms : List (String × WdlType),
    ∀ p ∈ ms.zip (ofMembers ms), PrintsBack p.1.2 p.2.2
  | [] => List.forall_mem_nil _
  | (_, t) :: ms => List.forall_mem_cons.2 ⟨printsBack_ofType t, printsBack_ofMembers ms⟩

end

end TypeInfo

/-- **Types print back.** The documentation of a type has the printed form of the type, as many
fields as the type has members, and their names in order; the same holds for each field. It is
optional if the type is, and for a struct with a name that ends with the mark; for such a struct
alone, when it is not optional, that is not as the type has it. -/
theorem types_print_back (t : WdlType) :
    PrintsBack t (TypeInfo.ofType t) ∧
      ((TypeInfo.ofType t).optional = t.optional ↔
        (t.hasMarkedName = true → t.optional = true)) := by
  have hback := TypeInfo.printsBack_ofType t
  refine ⟨hback, ?_⟩
  obtain ⟨-, hoptional, -, -, -⟩ := hback
  rw [hoptional]
  cases t.optional <;> simp

/-- A struct that is not optional, with a name that ends with the mark. -/
def markedStruct : WdlType :=
  .struct "S?" (some [("a", .primitive .int false)]) false

/-- The documentation of the struct prints like it but says that it is optional. -/
theorem marked_name_counts_as_optional :
    (TypeInfo.ofType markedStruct).text = markedStruct.text ∧
      (TypeInfo.ofType markedStruct).name = "S" ∧
      (TypeInfo.ofType markedStruct).optional = true ∧ markedStruct.optional = false := by
  decide

end WorkflowDocs
