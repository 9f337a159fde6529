/-!
# Fields in order of appearance

A list of named values in which each name stands once. Writing a new name adds it at the end;
writing a name that is there replaces its value and moves nothing.

## Main definitions

* `Fields`: named values in order
* `Fields.get?`, `Fields.has`, `Fields.put`: look up and write
* `Fields.ofPairs`: the fields a list of writes leaves behind
* `Fields.agree`: equal as a mapping, whatever the order
-/

namespace WorkflowDocs

/-- Named values in order of first appearance. -/
abbrev Fields (α : Type) := List (String × α)

namespace Fields

variable {α : Type}

/-- The value of a name. -/
def get? (fields : Fields α) (name : String) : Option α :=
  List.lookup name fields

/-- Whether a name is there. -/
def has (fields : Fields α) (name : String) : Bool :=
  fields.any fun f => f.1 == name

/-- Writes a value: in place if the name is there, otherwise at the end. -/
def put (name : String) (value : α) : Fields α → Fields α
  | [] => [(name, value)]
  | f :: rest => if f.1 = name then (name, value) :: rest else f :: put name value rest

/-- Changes the value of a name, or writes the change of `default` when the name is new. -/
def update (name : String) (default : α) (change : α → α) (fields : Fields α) : Fields α :=
  put name (change ((get? fields name).getD default)) fields

/-- The fields that writing the pairs one after the other leaves behind. -/
def ofPairs (pairs : List (String × α)) : Fields α :=
  pairs.foldl (fun fields p => put p.1 p.2 fields) []

/-- The names in order. -/
def names (fields : Fields α) : List String :=
  fields.map (·.1)

/-- The values in order. -/
def values (fields : Fields α) : List α :=
  fields.map (·.2)

/-- Whether two mappings have the same names with the same values, in any order. -/
def agree (same : α → α → Bool) (a b : Fields α) : Bool :=
  a.length == b.length && a.all fun f =>
    match get? b f.1 with
    | some v => same f.2 v
    | none => false

end Fields

end WorkflowDocs
