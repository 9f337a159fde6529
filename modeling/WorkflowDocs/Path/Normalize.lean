import WorkflowDocs.Path.Fault

/-!
# Normal paths

Pages are placed by the normal form of a source path. Everything before a directory named
`external` is cut off, so that third-party sources keep one place wherever they are stored;
otherwise each double dot takes away the part before it.

## Main definitions

* `Path.collapse`: parts with double dots applied
* `Path.normalize`: the normal form
* `Path.resolve`: the absolute path without double dots
* `Path.relativeToRoot`, `Path.relativeToRoot?`: the place of a source relative to a project root
-/

namespace WorkflowDocs.Path

/-- The directory name that marks third-party sources. -/
def externalName : String := "external"

/-- The parts with each double dot applied to the part before it. `kept` holds the parts that
stand so far, in reverse; a double dot with nothing before it is dropped. -/
def collapseOnto (kept : List String) : List String → List String
  | [] => kept.reverse
  | p :: ps => if p = ".." then collapseOnto kept.tail ps else collapseOnto (p :: kept) ps

/-- The parts with each double dot applied to the part before it. -/
def collapse (parts : List String) : List String :=
  collapseOnto [] parts

/-- The normal form of a path: from its first part `external`, if it has one; otherwise with
double dots applied, unless nothing remains then. -/
def normalize (p : Path) : Path :=
  if p.parts.contains externalName then ofParts (p.parts.dropWhile (· != externalName))
  else if (collapse p.parts).isEmpty then p
  else ofParts (collapse p.parts)

/-- The absolute path without double dots, for a path applied to the directory `cwd`. No name of it
is a link to another place. -/
def resolve (cwd p : Path) : Path :=
  ⟨.slash, collapse (cwd.join p).names⟩

/-- The last `n` members of a list. -/
def lastParts (n : Nat) (parts : List String) : List String :=
  parts.drop (parts.length - n)

/-- The place of a source outside the root: from `external` in its resolved path; otherwise below
the directory made of the root's parts that occur in its path, if it is below that; otherwise its
last two parts. -/
def outsideRoot (cwd file root : Path) : Path :=
  let resolved := (resolve cwd file).parts
  if resolved.contains externalName then ofParts (resolved.dropWhile (· != externalName))
  else
    let common := ofParts (root.parts.filter fun p => file.parts.contains p)
    (file.relativeTo? common).getD (ofParts (lastParts 2 file.parts))

/-- The place of a source relative to a project root, in normal form. -/
def relativeToRoot (cwd file root : Path) : Path :=
  normalize ((file.relativeTo? root).getD (outsideRoot cwd file root))

/-- The place of a source relative to a project root, unless the source is outside the root and its
path cannot be followed. -/
def relativeToRoot? (cwd file root : Path) : Option Path :=
  if (file.relativeTo? root).isSome || file.isFollowable then some (relativeToRoot cwd file root)
  else none

end WorkflowDocs.Path
