import WorkflowDocs.FileTree.Basic
import WorkflowDocs.Path.Normalize

/-!
# The sources of a project

A project is a directory with workflow sources in it. Some of them are third-party sources: those
in a directory named as external, and those outside the project.

## Main definitions

* `Project`: a root directory with its patterns and external directories
* `Project.isExcluded`, `Project.isExternal`: the classes of files
* `Project.internalFiles`, `Project.externalFiles`, `Project.allFiles`: the sources
* `importChain`: the sources beside a list of sources
-/

namespace WorkflowDocs

/-- The ending of source files. -/
def sourceSuffix : String := ".wdl"

/-- A project: its root, the patterns of paths to leave out, and the names of directories with
third-party sources. -/
structure Project where
  root : Path
  exclude : List String
  externalDirs : List String
  deriving DecidableEq, Repr, Inhabited

namespace Project

/-- The patterns that are left out when none are given. -/
def standardExclude : List String := ["__pycache__/", ".git/"]

/-- The list, or the standard one in place of none or of an empty one. -/
def orStandard (standard : List String) : Option (List String) → List String
  | none | some [] => standard
  | some xs => xs

/-- A project with standard settings where none are given. -/
def make (root : Path) (exclude externalDirs : Option (List String)) : Project where
  root := root
  exclude := orStandard standardExclude exclude
  externalDirs := orStandard [Path.externalName] externalDirs

/-- Whether a path is left out: a pattern occurs in its text below the root, or it is not below
the root. -/
def isExcluded (p : Project) (patterns : List String) (file : Path) : Bool :=
  match file.relativeTo? p.root with
  | some place => patterns.any fun pattern => Text.contains place.text pattern
  | none => true

/-- The place of a file below the root; a file elsewhere keeps its path. -/
def placeOf (p : Project) (file : Path) : Path :=
  (file.relativeTo? p.root).getD file

/-- Whether a file is a third-party source: outside the root, or in an external directory. -/
def isExternal (p : Project) (file : Path) : Bool :=
  p.placeOf file == file || p.externalDirs.any fun dir => (p.placeOf file).parts.contains dir

/-- The paths at any depth below a directory whose name has the ending of sources. -/
def sourcesBelow (t : FileTree) (cwd dir : Path) : List Path :=
  match t.locate? cwd dir with
  | none => []
  | some place =>
    if !t.isDirectory place then []
    else
      ((t.below place).filter fun names => Text.endsWith (names.getLast?.getD "") sourceSuffix).map
        fun names => ⟨dir.root, dir.names ++ names⟩

/-- The sources of the project that are not in a directory `external`. -/
def internalFiles (p : Project) (t : FileTree) (cwd : Path) : List Path :=
  Path.sort ((sourcesBelow t cwd p.root).filter fun file =>
    !p.isExcluded (p.exclude ++ [Path.externalName ++ "/"]) file)

/-- All sources of the project. -/
def allFiles (p : Project) (t : FileTree) (cwd : Path) : List Path :=
  Path.sort ((sourcesBelow t cwd p.root).filter fun file => !p.isExcluded p.exclude file)

/-- The sources in the directory `external` of the root. -/
def externalFiles (p : Project) (t : FileTree) (cwd : Path) : List Path :=
  Path.sort ((sourcesBelow t cwd (p.root.child Path.externalName)).filter fun file =>
    !p.isExcluded p.exclude file)

end Project

/-- Whether a path leads to a source. -/
def isSource (t : FileTree) (cwd file : Path) : Bool :=
  t.pathExists cwd file && file.suffix == sourceSuffix

/-- The sources in a directory. -/
def sourcesIn (t : FileTree) (cwd dir : Path) : List Path :=
  match t.locate? cwd dir with
  | none => []
  | some place =>
    ((t.childNames place).filter fun name => Text.endsWith name sourceSuffix).map dir.child

/-- One step of `importChain`: the files found, the files visited, and the next file. -/
def importChainStep (t : FileTree) (cwd : Path) (state : Option (List Path) × List Path)
    (file : Path) : Option (List Path) × List Path :=
  match state with
  | (none, visited) => (none, visited)
  | (some found, visited) =>
    if visited.contains file then state
    else
      let visited := visited ++ [file]
      if t.isUnanswerable cwd file then (none, visited)
      else if isSource t cwd file then
        let beside := (sourcesIn t cwd file.parent).filter fun f =>
          !visited.contains f && !found.contains f
        (some (found ++ beside), visited)
      else (some found, visited)

/-- The files and the sources beside those of them that were not visited before; and the visited
files afterwards. There are no files when the path of one cannot be followed. -/
def importChain (t : FileTree) (cwd : Path) (start visited : List Path) :
    Option (List Path) × List Path :=
  start.foldl (importChainStep t cwd) (some start.eraseDups, visited)

/-- The file behind the address of an import, beside the file that imports it. -/
def resolveImport (t : FileTree) (cwd file : Path) (address : String) : Option Path :=
  let target := file.parent.join (Path.ofText address)
  if t.pathExists cwd target then some target else none

end WorkflowDocs
