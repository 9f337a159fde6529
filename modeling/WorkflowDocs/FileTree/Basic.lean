import WorkflowDocs.Path.Fault

/-!
# File trees

A file tree holds directories and files under the names that lead to them from the root. The root
itself is always a directory.

There are no links in a tree, so each place has one path without double dots, and that is found from
any other path to it by its text alone. Names are texts of Unicode characters, all of which can be
encoded. What is said to hold exactly under a condition, of the sources of a project or of the files
of a site, is said of such trees.

## Main definitions

* `FileTree`, `FileTree.get?`: trees and what stands at a place
* `FileTree.walk`, `FileTree.locate?`: following the names of a path through the tree
* `FileTree.isUnanswerable`: the paths that cannot be followed
* `FileTree.put`, `FileTree.remove`, `FileTree.clear`: changes at one place
* `FileTree.childNames`, `FileTree.below`: what a directory contains
* `FileTree.makeDirs?`, `FileTree.writeFile?`: changes that respect what is there
-/

namespace WorkflowDocs

/-- A place in a tree: the names that lead to it from the root. -/
abbrev Place := List String

/-- A directory or a file with its content. -/
inductive Entry where
  | directory
  | file (content : ByteArray)
  deriving Inhabited

/-- Whether the entry is a directory. -/
def Entry.isDirectory : Entry → Bool
  | .directory => true
  | .file _ => false

/-- A tree of directories and files, in order of creation. -/
structure FileTree where
  entries : List (Place × Entry) := []
  deriving Inhabited

namespace FileTree

/-- What stands at a place. -/
def get? (t : FileTree) (p : Place) : Option Entry :=
  if p.isEmpty then some .directory else t.entries.lookup p

/-- Whether there is a directory at a place. -/
def isDirectory (t : FileTree) (p : Place) : Bool :=
  (t.get? p).any Entry.isDirectory

/-- Whether there is a file at a place. -/
def isFile (t : FileTree) (p : Place) : Bool :=
  (t.get? p).any fun e => !e.isDirectory

/-- The place that the names lead to from `here`, if each step is there: a name leads into a
directory, a double dot out of one. -/
def walk (t : FileTree) (here : Place) : List String → Option Place
  | [] => if (t.get? here).isSome then some here else none
  | name :: names =>
    if !t.isDirectory here then none
    else if name = ".." then t.walk here.dropLast names
    else t.walk (here ++ [name]) names

/-- The place of a path applied to the directory `cwd`, if it is there. -/
def locate? (t : FileTree) (cwd p : Path) : Option Place :=
  t.walk [] (cwd.join p).names

/-- Whether a path leads to something. -/
def pathExists (t : FileTree) (cwd p : Path) : Bool :=
  (t.locate? cwd p).isSome

/-- Whether the names lead from `here` through directories to one that is too long. -/
def meetsLongName (t : FileTree) (here : Place) : List String → Bool
  | [] => false
  | name :: names =>
    if !t.isDirectory here then false
    else if name = ".." then t.meetsLongName here.dropLast names
    else Path.isLongName name || t.meetsLongName (here ++ [name]) names

/-- Whether asking what a path leads to fails, because a name is too long for its directory or the
path for the file system. -/
def isUnanswerable (t : FileTree) (cwd p : Path) : Bool :=
  let whole := cwd.join p
  whole.isFollowable && (whole.isLong || t.meetsLongName [] whole.names)

/-- Whether an entry can be made under a name. -/
def isEntryName (name : String) : Bool :=
  name != "" && name != ".." && (Path.nameFault? name).isNone

/-- The tree with an entry at a place, in place of the one that is there. -/
def put (t : FileTree) (p : Place) (e : Entry) : FileTree where
  entries :=
    if t.entries.any (·.1 == p) then
      t.entries.map fun x => if x.1 == p then (p, e) else x
    else t.entries ++ [(p, e)]

/-- The tree without a place and all that is below it. -/
def remove (t : FileTree) (p : Place) : FileTree where
  entries := t.entries.filter fun x => !p.isPrefixOf x.1

/-- The tree without all that is below a place. -/
def clear (t : FileTree) (p : Place) : FileTree where
  entries := t.entries.filter fun x => !(p.isPrefixOf x.1 && x.1 != p)

/-- The names in a directory. -/
def childNames (t : FileTree) (dir : Place) : List String :=
  t.entries.filterMap fun x =>
    if x.1.dropLast == dir then x.1.getLast? else none

/-- The places below a directory, as names that lead to them from there. -/
def below (t : FileTree) (dir : Place) : List (List String) :=
  t.entries.filterMap fun x =>
    if dir.isPrefixOf x.1 && dir.length < x.1.length then some (x.1.drop dir.length) else none

/-- The content of the file at a place. -/
def read? (t : FileTree) (p : Place) : Option ByteArray :=
  match t.get? p with
  | some (.file content) => some content
  | _ => none

/-- The tree with directories along the names from `here`; nothing when a file is in the way or no
directory can have a name. -/
def makeDirsFrom? (t : FileTree) (here : Place) : List String → Option (FileTree × Place)
  | [] => some (t, here)
  | name :: names =>
    if name = ".." then t.makeDirsFrom? here.dropLast names
    else
      let next := here ++ [name]
      match t.get? next with
      | some .directory => t.makeDirsFrom? next names
      | some (.file _) => none
      | none =>
        if isEntryName name then (t.put next .directory).makeDirsFrom? next names else none

/-- The tree with the directory of a path and all directories above it, and its place; nothing when
the path is too long. -/
def makeDirs? (t : FileTree) (cwd p : Path) : Option (FileTree × Place) :=
  if (cwd.join p).isLong then none else t.makeDirsFrom? [] (cwd.join p).names

/-- The tree with a file at a place whose directory is there; nothing when a directory is in the
way. -/
def writeFile? (t : FileTree) (p : Place) (content : ByteArray) : Option FileTree :=
  if p.isEmpty || !t.isDirectory p.dropLast || t.isDirectory p then none
  else some (t.put p (.file content))

end FileTree

end WorkflowDocs
