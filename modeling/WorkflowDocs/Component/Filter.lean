import WorkflowDocs.Component.Datum

/-!
# Filters

A filter makes a text of the data it is given: a part of a path, a path in another form, or a link.

## Main definitions

* `Filter`, `Filter.apply`: the filters
-/

namespace WorkflowDocs

/-- A filter. -/
inductive Filter where
  /-- The last name of a path. -/
  | name
  /-- The directory of a path. -/
  | parent
  /-- The normal form of a path. -/
  | normal
  /-- A text, or nothing in place of what does not count as present. -/
  | code
  /-- The link to a page on the page of a source. -/
  | link
  /-- A path as it is read from a directory, which is the root unless it is given. -/
  | relative (root : Path)
  deriving DecidableEq, Repr, Inhabited

namespace Filter

/-- A path as it is read from the directory `start`; one that is not below it stays as it is. -/
def readFrom (start : Path) (d : Datum) : Except RenderError String := do
  let p ← d.toPath
  match p.relativeTo? start with
  | some place => return place.text
  | none => d.text

/-- The text that a filter makes of data. There may be neither too few nor too many of them. -/
def apply : Filter → List Datum → Except RenderError String
  | .name, [d] => d.toPath.map (·.name)
  | .parent, [d] => d.toPath.map (·.parent.text)
  | .normal, [d] => d.toPath.map (·.normalize.text)
  | .code, [d] => d.present.map (·.getD "")
  | .link, [target, source] => Datum.linkFrom source target
  | .relative root, [d] | .relative root, [d, .plain .null] => readFrom root d
  | .relative _, [d, start] => do readFrom (← start.toPath) d
  | _, _ => .error .unfitValue

end Filter

end WorkflowDocs
