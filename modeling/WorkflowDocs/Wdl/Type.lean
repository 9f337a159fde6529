import WorkflowDocs.Text.Cut

/-!
# Types of a workflow source

The types of the workflow description language, each with its mark for optional values, and
their printed form.

## Main definitions

* `WdlType`: primitive, array, map, pair and struct types
* `WdlType.text`: the printed form
-/

namespace WorkflowDocs

/-- The primitive types. -/
inductive Primitive where
  | int
  | float
  | boolean
  | string
  | file
  | directory
  | any
  deriving DecidableEq, Repr, Inhabited

/-- The printed name of a primitive type. -/
def Primitive.text : Primitive → String
  | .int => "Int"
  | .float => "Float"
  | .boolean => "Boolean"
  | .string => "String"
  | .file => "File"
  | .directory => "Directory"
  | .any => "Any"

/-- A type. The members of a struct are unknown when its definition was not found. -/
inductive WdlType where
  | primitive (kind : Primitive) (optional : Bool)
  | array (item : WdlType) (nonempty optional : Bool)
  | map (key value : WdlType) (optional : Bool)
  | pair (left right : WdlType) (optional : Bool)
  | struct (name : String) (members : Option (List (String × WdlType))) (optional : Bool)
  deriving Inhabited

namespace WdlType

/-- Whether values of the type may be absent. -/
def optional : WdlType → Bool
  | .primitive _ o | .array _ _ o | .map _ _ o | .pair _ _ o | .struct _ _ o => o

/-- Whether the type holds values of every type. -/
def isAny : WdlType → Bool
  | .primitive .any _ => true
  | _ => false

/-- The mark of an optional type. -/
def optionalMark (optional : Bool) : String :=
  if optional then "?" else ""

/-- The printed form: `Array[Int]+`, `Map[K,V]`, `Pair[L,R]`, a struct by its name, and a question
mark after an optional type. -/
def text : WdlType → String
  | .primitive kind o => kind.text ++ optionalMark o
  | .array item nonempty o =>
    "Array[" ++ item.text ++ "]" ++ (if nonempty then "+" else "") ++ optionalMark o
  | .map key value o => "Map[" ++ key.text ++ "," ++ value.text ++ "]" ++ optionalMark o
  | .pair left right o => "Pair[" ++ left.text ++ "," ++ right.text ++ "]" ++ optionalMark o
  | .struct name _ o => name ++ optionalMark o

end WdlType

end WorkflowDocs
