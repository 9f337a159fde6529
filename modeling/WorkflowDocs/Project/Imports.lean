import WorkflowDocs.Catalog.Document
import WorkflowDocs.Project.Discovery

/-!
# Imports that leave a project

The imported files that lie in a directory `external` of the project and were not documented yet.

## Main definitions

* `inExternalDirectory`: whether a file lies in such a directory
* `externalImports?`: the imported files of a list of documents that do
-/

namespace WorkflowDocs

/-- Whether a file lies below the root in a directory `external`. -/
def inExternalDirectory (root file : Path) : Bool :=
  match file.relativeTo? root with
  | some place => place.parts.contains Path.externalName
  | none => false

/-- One step of `externalImports?`: the files found, the files known, and the next imported file. -/
def externalImportStep? (cwd root : Path) (state : List Path × List Path) (file : Path) :
    Option (List Path × List Path) :=
  let (found, known) := state
  if known.contains file then some state
  else if !file.isFollowable then none
  else
    let target := Path.resolve cwd file
    if known.contains target || !inExternalDirectory root target then some state
    else some (found ++ [target], known ++ [target])

/-- The imported files that lie in a directory `external` and are not known, in order; and the
files known afterwards. Nothing when the path of an import cannot be followed. -/
def externalImports? (cwd root : Path) (documents : List DocumentInfo) (known : List Path) :
    Option (List Path × List Path) :=
  (documents.flatMap fun d => d.imports.filterMap (·.resolved)).foldlM
    (externalImportStep? cwd root) ([], known)

end WorkflowDocs
