import WorkflowDocs.Text.Cut

/-!
# Paths

A path is a sequence of names below a root, or relative to some directory. Reading a path from
text drops empty names and single dots; double dots stay, because what they mean depends on the
directory they are applied to.

## Main definitions

* `Path`, `Path.ofText`, `Path.text`: paths and their text
* `Path.parts`, `Path.ofParts`: the names with the root as the first part
* `Path.join`, `Path.parent`, `Path.lineage`, `Path.relativeTo?`: navigation
* `Path.name`, `Path.stem`, `Path.suffix`, `Path.withSuffix?`: the last name and its extension
* `Path.le`: the order by parts
-/

namespace WorkflowDocs

/-- Where a path starts. Two leading slashes are a root of their own. -/
inductive Root where
  | relative
  | slash
  | doubleSlash
  deriving DecidableEq, Repr, Inhabited

/-- The text of a root. -/
def Root.text : Root → String
  | .relative => ""
  | .slash => "/"
  | .doubleSlash => "//"

/-- A path: a root and the names below it. -/
structure Path where
  root : Root
  names : List String
  deriving DecidableEq, Repr, Inhabited

namespace Path

/-- Whether a component of a path text names something. -/
def isName (s : String) : Bool :=
  s != "" && s != "."

/-- The root of a path text, by its leading slashes. -/
def rootOf : List Char → Root
  | '/' :: '/' :: '/' :: _ => .slash
  | '/' :: '/' :: _ => .doubleSlash
  | '/' :: _ => .slash
  | _ => .relative

/-- The path that a text stands for. -/
def ofText (s : String) : Path where
  root := rootOf s.toList
  names := (Text.cutAt '/' s).filter isName

/-- The empty path, which stands for the directory it is applied to. -/
def here : Path := ⟨.relative, []⟩

/-- Whether the path starts at a root. -/
def isAbsolute (p : Path) : Bool :=
  p.root != .relative

/-- The names, after the root of an absolute path. -/
def parts (p : Path) : List String :=
  if p.root = .relative then p.names else p.root.text :: p.names

/-- The path with the given parts. -/
def ofParts : List String → Path
  | [] => here
  | p :: ps =>
    if p = "/" then ⟨.slash, ps⟩
    else if p = "//" then ⟨.doubleSlash, ps⟩
    else ⟨.relative, p :: ps⟩

/-- The text of a path; the empty path is written as a dot. -/
def text (p : Path) : String :=
  if p.root = .relative && p.names.isEmpty then "."
  else p.root.text ++ Text.joinWith "/" p.names

/-- The path `q` applied to the directory `p`. -/
def join (p q : Path) : Path :=
  if q.isAbsolute then q else ⟨p.root, p.names ++ q.names⟩

/-- The path of `name` in the directory `p`. -/
def child (p : Path) (name : String) : Path :=
  ⟨p.root, p.names ++ [name]⟩

/-- The path without its last name. -/
def parent (p : Path) : Path :=
  ⟨p.root, p.names.dropLast⟩

/-- The paths that lead to a path, from its root on, and the path itself. -/
def lineage (p : Path) : List Path :=
  (List.range (p.names.length + 1)).map fun n => ⟨p.root, p.names.take n⟩

/-- The last name, or nothing for a root and for the empty path. -/
def name (p : Path) : String :=
  p.names.getLast?.getD ""

/-- Splits a name before its last dot. A dot at either end of the name does not divide it. -/
def splitName (name : String) : String × String :=
  let cs := name.toList
  let tail := (cs.reverse.takeWhile (· != '.')).reverse
  let stem := cs.take (cs.length - tail.length - 1)
  if tail.length < cs.length && !stem.isEmpty && !tail.isEmpty then
    (String.ofList stem, String.ofList ('.' :: tail))
  else (name, "")

/-- The last name without its extension. -/
def stem (p : Path) : String :=
  (splitName p.name).1

/-- The extension of the last name, with its dot. -/
def suffix (p : Path) : String :=
  (splitName p.name).2

/-- The path with another extension; a path without a name has none. -/
def withSuffix? (p : Path) (suffix : String) : Option Path :=
  if p.name = "" then none else some ⟨p.root, p.names.dropLast ++ [p.stem ++ suffix]⟩

/-- What remains of `p` after the parts of `base`. An absolute path is not relative to the empty
one. -/
def relativeTo? (p base : Path) : Option Path :=
  if p.root = base.root && base.names.isPrefixOf p.names then
    some ⟨.relative, p.names.drop base.names.length⟩
  else none

/-- The order of parts: part by part, each by its characters. -/
def partsLe : List String → List String → Bool
  | [], _ => true
  | _ :: _, [] => false
  | a :: as, b :: bs => if a = b then partsLe as bs else decide (a < b)

/-- The order of paths by their parts. -/
def le (p q : Path) : Bool :=
  partsLe p.parts q.parts

/-- Paths in ascending order. -/
def sort (ps : List Path) : List Path :=
  ps.mergeSort le

end Path

end WorkflowDocs
