import WorkflowDocs.FileTree.Steps
import WorkflowDocs.Page.Document
import WorkflowDocs.Page.Index
import WorkflowDocs.Page.Inventory
import WorkflowDocs.Site.Assets
import WorkflowDocs.Workspace.Collect

/-!
# Making a site

A site is a directory with the files that all pages use, a page for each document, the index and
the image inventory.

## Main definitions

* `SiteJob`: what site is to be made, and where
* `SiteJob.generate`: the file tree with the site
* `SiteJob.document`: documenting a project and making its site
-/

namespace WorkflowDocs

/-- What site is to be made: its directory, its title and logo, and the files that all pages use,
by their names below the directory of these files. There are none of them when the installation is
not complete. -/
structure SiteJob where
  output : Path
  title : String := programTitle
  logo : Option Path := none
  assets : Option (List (Place × Entry)) := none
  deriving Inhabited

/-- The file of the index. -/
def indexName : String := "index.html"

/-- The file of the image inventory. -/
def inventoryName : String := "docker_images.html"

namespace SiteJob

variable (job : SiteJob) (cwd : Path)

/-- The directory of the files that all pages use. -/
def staticDir : Path :=
  job.output.child staticName

/-- The steps that take away the directory at a path, if something is there: first what is in it,
then the directory itself. The second step fails when the path leads through what was in it. -/
def clearSteps (dir : Path) (t : FileTree) : List FileTree.Step :=
  match t.locate? cwd dir with
  | none => []
  | some place =>
    [fun t => if t.isDirectory place then some (t.clear place) else none,
      fun t => if t.locate? cwd dir = some place then some (t.remove place) else none]

/-- Makes the directory of the files that all pages use, in the directory of the site; nothing when
something stands there. -/
def makeStatic : FileTree.Step := fun t => do
  let site ← t.locate? cwd job.output
  let place := site ++ [staticName]
  if t.isDirectory site && (t.get? place).isNone then some (t.put place .directory) else none

/-- Whether the path of a file that all pages use is not too long. -/
def takesAsset (asset : Place × Entry) : Bool :=
  !(cwd.join ⟨job.staticDir.root, job.staticDir.names ++ asset.1⟩).isLong

/-- Copies the files that all pages use to their directory, but for those with a path that is too
long. -/
def putAssets (assets : List (Place × Entry)) : FileTree.Step := fun t => do
  let dir ← t.locate? cwd job.staticDir
  return (assets.filter (job.takesAsset cwd)).foldl (fun t a => t.put (dir ++ a.1) a.2) t

/-- The steps that replace the directory of the files that all pages use. -/
def assetSteps (t : FileTree) : List FileTree.Step :=
  match job.assets with
  | none => [fun _ => none]
  | some assets =>
    [fun t => if t.isUnanswerable cwd job.staticDir then none else some t] ++
      clearSteps cwd job.staticDir t ++ job.output.lineage.map (FileTree.makeDirs cwd) ++
      [job.makeStatic cwd, job.putAssets cwd assets,
        fun t => if assets.all (job.takesAsset cwd) then some t else none]

/-- Replaces the directory of the files that all pages use. -/
def copyAssets : FileTree.Step := fun t =>
  match FileTree.run (job.assetSteps cwd t) t with
  | (t, true) => some t
  | (_, false) => none

/-- The file name of the logo of the site, if its file is there. -/
def logoName (t : FileTree) : Option String :=
  (job.logo.filter fun logo => t.pathExists cwd logo).map fun logo => "custom-logo" ++ logo.suffix

/-- Copies the logo beside the files that all pages use, if it is there. -/
def copyLogo : FileTree.Step := fun t =>
  if job.logo.any (t.isUnanswerable cwd) then none
  else match job.logo, job.logoName cwd t with
  | some logo, some name => do
    let place ← t.locate? cwd logo
    let content ← t.read? place
    FileTree.write cwd (job.staticDir.child name) content t
  | _, _ => some t

/-- Writes the page of a document. The file of a page that cannot be stored remains empty. -/
def writePage (look : Appearance) (all : List DocumentInfo) (d : DocumentInfo) :
    FileTree.Step := fun t =>
  match documentPage look d all with
  | .ok page => FileTree.writeText cwd (job.output.join page.path) page.content.render t
  | .error .halfCharacter => do
    let page ← Path.page? d.relativePath
    FileTree.writeText cwd (job.output.join page) "" t
  | .error _ => none

/-- The steps that make the page of a document. -/
def pageSteps (look : Appearance) (all : List DocumentInfo) (d : DocumentInfo) :
    List FileTree.Step :=
  [fun t => do
      let page ← Path.page? d.relativePath
      FileTree.makeDirs cwd (job.output.join page).parent t,
    job.writePage cwd look all d,
    fun t => if d.showsHalf then none else some t]

/-- The steps that make the index and the image inventory. -/
def overviewSteps (look : Appearance) (documents : List DocumentInfo)
    (failures : List ParseFailure) : List FileTree.Step :=
  [FileTree.writeText cwd (job.output.child indexName)
      (indexPage look ⟨documents, failures⟩).render,
    fun t => do
      let inventory ← inventory? documents
      FileTree.writeText cwd (job.output.child inventoryName)
        (inventoryPage look inventory).render t]

/-- The file tree with the site of a list of documents and reports, and whether it is complete. -/
def generate (documents : List DocumentInfo) (failures : List ParseFailure) (t : FileTree) :
    FileTree × Bool :=
  match FileTree.run (job.assetSteps cwd t) t with
  | (t, false) => (t, false)
  | (t, true) =>
    let look : Appearance := ⟨job.title, job.logoName cwd t⟩
    FileTree.run ([job.copyLogo cwd] ++ documents.flatMap (job.pageSteps cwd look documents) ++
      job.overviewSteps cwd look documents failures) t

/-- What documenting a project does: the file tree afterwards, whether the site is complete, and
the documents and reports if there were documents to make a site of. -/
structure Run where
  tree : FileTree
  complete : Bool
  collected : Option (List DocumentInfo × List ParseFailure)
  deriving Inhabited

/-- Documents a project and makes its site. There is none without a source that can be
documented. -/
def document (w : Workspace) (p : Project) : Run :=
  if (p.internalFiles w.tree w.cwd).isEmpty then ⟨w.tree, false, none⟩
  else
    let (documents, failures) := w.collect p
    if documents.isEmpty then ⟨w.tree, false, none⟩
    else
      let (tree, complete) := job.generate w.cwd documents failures w.tree
      ⟨tree, complete, some (documents, failures)⟩

end SiteJob

end WorkflowDocs
