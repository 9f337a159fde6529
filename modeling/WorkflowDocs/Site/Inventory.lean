import WorkflowDocs.Catalog.Document
import WorkflowDocs.Path.Link

/-!
# The image inventory

The images that workflows run in, grouped by the repository they are stored in. Each image lists
the calls that use it, with a link to the task that is called.

## Main definitions

* `ImageInfo.placement`: the repository and the entry of an image
* `findTask?`: the page where a task is documented
* `Usage`, `StoredImage`, `Repository`: the entries
* `addImage?`, `inventory?`: the repositories of a list of documents
-/

namespace WorkflowDocs

/-- A use of an image by a call of a workflow. -/
structure Usage where
  task : String
  workflow : String
  url : String
  file : String
  isExternal : Bool
  deriving DecidableEq, Repr, Inhabited

/-- An image with its uses and their number. -/
structure StoredImage where
  name : String
  tag : Option String
  fullName : String
  isParameterized : Bool
  default : Option String
  parameter : Option String
  usages : List Usage := []
  usageCount : Nat := 0
  deriving DecidableEq, Repr, Inhabited

/-- A repository: its images by their keys, and their number. -/
structure Repository where
  images : Fields StoredImage := []
  imageCount : Nat := 0
  deriving DecidableEq, Repr, Inhabited

/-- The repository of images that only a parameter gives. -/
def parameterRepository : String := "Parameterized Images"

/-- The repository of images without a registry. -/
def libraryRepository : String := "Docker Hub (library)"

/-- Splits a text at its last slash, if it has one. -/
def splitLastSlash? (s : String) : Option (String × String) :=
  match (Text.cutAt '/' s).reverse with
  | [] | [_] => none
  | last :: rest => some (Text.joinWith "/" rest.reverse, last)

/-- The name and the tag of an image: they are divided by the first colon, and an image without
one has the tag `latest`. -/
def splitTag (s : String) : String × String :=
  let name := Text.before ':' s
  if name = s then (s, "latest") else (name, Text.dropChars (name.length + 1) s)

/-- Where an image is listed: its repository, its name, and its tag. -/
structure Placement where
  repository : String
  name : String
  tag : Option String
  deriving DecidableEq, Repr, Inhabited

/-- The place of an image that is known by its text. -/
def Placement.ofText (image : String) : Placement :=
  match splitLastSlash? image with
  | some (repository, rest) => ⟨repository, (splitTag rest).1, some (splitTag rest).2⟩
  | none => ⟨libraryRepository, (splitTag image).1, some (splitTag image).2⟩

namespace ImageInfo

/-- Where an image is listed: a parameter by its default, or by its name if it has none. -/
def placement (i : ImageInfo) : Placement :=
  match i.isParameterized, presentText i.default with
  | true, some d => .ofText d
  | true, none => ⟨parameterRepository, (presentText i.parameter).getD "unknown", none⟩
  | false, _ => .ofText i.image

/-- The key of an image in its repository: its name and tag, and whether a parameter gives it. -/
def storeKey (i : ImageInfo) : String :=
  let p := i.placement
  let key := match presentText p.tag with
    | some tag => p.name ++ ":" ++ tag
    | none => p.name
  if i.isParameterized then key ++ "__parameterized" else key

/-- The entry of an image before its uses are listed. -/
def entry (i : ImageInfo) : StoredImage where
  name := i.placement.name
  tag := i.placement.tag
  fullName := i.image
  isParameterized := i.isParameterized
  default := if i.isParameterized then i.default else none
  parameter := if i.isParameterized then i.parameter else none

end ImageInfo

/-- A link to a task or a workflow: the address, and the source. -/
structure TaskLink where
  url : String
  file : String
  deriving DecidableEq, Repr, Inhabited

/-- Whether a document has a task of the given name. -/
def DocumentInfo.definesTask (d : DocumentInfo) (task : String) : Bool :=
  d.tasks.any fun t => t.name == task

/-- The link to the part of a document's page that `anchor` names, if the document has a page. -/
def DocumentInfo.linkTo? (d : DocumentInfo) (anchor : String) : Option TaskLink :=
  (Path.page? d.relativePath).map fun page =>
    ⟨page.text ++ anchor, d.relativePath.normalize.text⟩

/-- The link to a task that a document calls: to the first document with a task of this name, the
calling document before all others; if there is none, to the page of the calling document. -/
def findTask? (task : String) (d : DocumentInfo) (all : List DocumentInfo) : Option TaskLink :=
  match (d :: all).find? (·.definesTask task) with
  | some owner => owner.linkTo? ("#task-" ++ task)
  | none => d.linkTo? ""

/-- The uses of an image by the calls of a document. -/
def usages? (i : ImageInfo) (d : DocumentInfo) (all : List DocumentInfo) : Option (List Usage) :=
  i.tasks.mapM fun task =>
    (findTask? task d all).map fun link =>
      ⟨task, (d.workflow.elim "" (·.name)), link.url, link.file, d.isExternal⟩

/-- An image with further uses. -/
def StoredImage.addUsages (s : StoredImage) (usages : List Usage) : StoredImage :=
  { s with usages := s.usages ++ usages, usageCount := s.usageCount + usages.length }

/-- A repository with further uses of an image, which is listed if it is new. -/
def Repository.add (r : Repository) (i : ImageInfo) (usages : List Usage) : Repository where
  images := Fields.update i.storeKey i.entry (·.addUsages usages) r.images
  imageCount := if Fields.has r.images i.storeKey then r.imageCount else r.imageCount + 1

/-- The repositories with the uses of an image by a document. -/
def addImage? (all : List DocumentInfo) (repositories : Fields Repository)
    (use : DocumentInfo × ImageInfo) : Option (Fields Repository) :=
  (usages? use.2 use.1 all).map fun usages =>
    Fields.update use.2.placement.repository {} (·.add use.2 usages) repositories

/-- The images of the workflows of a list of documents, each with its document. -/
def imageUses (documents : List DocumentInfo) : List (DocumentInfo × ImageInfo) :=
  documents.flatMap fun d => (d.workflow.elim [] (·.images)).map fun i => (d, i)

/-- The repositories of a list of documents, in order of first use. -/
def repositories? (all documents : List DocumentInfo) : Option (Fields Repository) :=
  (imageUses documents).foldlM (addImage? all) []

/-- The images of a repository in order of their names. -/
def Repository.sortedImages (r : Repository) : List StoredImage :=
  r.images.values.mergeSort fun a b => decide (a.name ≤ b.name)

/-- The order of repositories: by name, with the one of parameters at the end. -/
def repositoryLe (a b : String) : Bool :=
  if (a == parameterRepository) == (b == parameterRepository) then decide (a ≤ b)
  else b == parameterRepository

/-- A repository as it is shown. -/
structure Listing where
  images : List StoredImage
  imageCount : Nat
  deriving DecidableEq, Repr, Inhabited

/-- The images of one kind of documents, by repository. -/
abbrev Shelf := Fields Listing

/-- The repositories as they are shown. -/
def Shelf.ofRepositories (repositories : Fields Repository) : Shelf :=
  (repositories.mergeSort fun a b => repositoryLe a.1 b.1).map fun r =>
    (r.1, ⟨r.2.sortedImages, r.2.imageCount⟩)

/-- The number of images on a shelf. -/
def Shelf.imageTotal (shelf : Shelf) : Nat :=
  (shelf.map fun r => r.2.imageCount).foldr (· + ·) 0

/-- The number of uses of images on a shelf. -/
def Shelf.usageTotal (shelf : Shelf) : Nat :=
  (shelf.flatMap fun r => r.2.images.map (·.usageCount)).foldr (· + ·) 0

/-- The inventory: the images of the project and those of third-party sources. -/
structure Inventory where
  internal : Shelf
  external : Shelf
  deriving Inhabited

/-- The inventory of a list of documents. Nothing when a document that is linked to has no
page. -/
def inventory? (documents : List DocumentInfo) : Option Inventory := do
  let internal ← repositories? documents (documents.filter (!·.isExternal))
  let external ← repositories? documents (documents.filter (·.isExternal))
  return ⟨.ofRepositories internal, .ofRepositories external⟩

/-- Whether third-party sources use images. -/
def Inventory.hasExternal (inventory : Inventory) : Bool :=
  !inventory.external.isEmpty

end WorkflowDocs
