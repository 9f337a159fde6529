import WorkflowDocs.Wdl.Type

/-!
# Documented types

The documentation shows a type by its name without the mark for optional values, which is kept
apart, and lists the fields of a struct.

## Main definitions

* `TypeInfo`: a documented type
* `TypeInfo.text`, `TypeInfo.fieldCount`: its text and the number of its fields
* `TypeInfo.ofType`: the documentation of a type
-/

namespace WorkflowDocs

/-- A documented type. -/
structure TypeInfo where
  name : String
  optional : Bool := false
  isStruct : Bool := false
  fields : Option (List (String × TypeInfo)) := none
  deriving Inhabited

namespace TypeInfo

/-- The name, with a question mark for an optional type. -/
def text (t : TypeInfo) : String :=
  t.name ++ WdlType.optionalMark t.optional

/-- The number of listed fields. -/
def fieldCount (t : TypeInfo) : Nat :=
  (t.fields.getD []).length

/-- The shown name of a type text, and whether it carries the mark of optional values: one
question mark at the end is taken off. -/
def splitMark (s : String) : String × Bool :=
  if Text.endsWith s "?" then (String.ofList s.toList.dropLast, true) else (s, false)

/-- A type that lists no fields. -/
def plain (t : WdlType) (isStruct : Bool) (fields : Option (List (String × TypeInfo))) :
    TypeInfo where
  name := (splitMark t.text).1
  optional := t.optional || (splitMark t.text).2
  isStruct := isStruct
  fields := fields

mutual

/-- The documentation of a type. A struct without members lists no fields. -/
def ofType : WdlType → TypeInfo
  | .struct name (some (m :: ms)) optional =>
    plain (.struct name (some (m :: ms)) optional) true (some (ofMembers (m :: ms)))
  | .struct name members optional => plain (.struct name members optional) true none
  | t => plain t false none

/-- The documented fields of a struct. -/
def ofMembers : List (String × WdlType) → List (String × TypeInfo)
  | [] => []
  | (name, t) :: ms => (name, ofType t) :: ofMembers ms

end

mutual

/-- Whether two documented types say the same; fields are compared by name. -/
def agrees (a b : TypeInfo) : Bool :=
  match a with
  | ⟨name, optional, isStruct, none⟩ =>
    name == b.name && optional == b.optional && isStruct == b.isStruct && b.fields.isNone
  | ⟨name, optional, isStruct, some fields⟩ =>
    name == b.name && optional == b.optional && isStruct == b.isStruct &&
      match b.fields with
      | none => false
      | some others => fields.length == others.length && fieldsAgree fields others

/-- Whether each field has a field of the same name that says the same. -/
def fieldsAgree (fields others : List (String × TypeInfo)) : Bool :=
  match fields with
  | [] => true
  | (name, t) :: rest =>
    (match others.lookup name with
      | some u => agrees t u
      | none => false) && fieldsAgree rest others

end

end TypeInfo

end WorkflowDocs
