import WorkflowDocs.Html.Badge
import WorkflowDocs.Site.Inventory

/-!
# Listing the image inventory

The lists of the inventory page show texts only; how the entries of an inventory become such lists
is said at the end.

## Main definitions

* `Html.UsageItem`, `Html.StoredItem`, `Html.RepositoryItem`: what is shown of an inventory
* `Html.usageItem`, `Html.storedImageItem`, `Html.repositoryCard`: the entries
* `Html.inventoryList`: a shelf of the inventory
* `Shelf.items`: the items of a shelf
-/

namespace WorkflowDocs

namespace Html

/-- What is shown of a use of an image: the call, its workflow and source, and the link to them. -/
structure UsageItem where
  task : String
  workflow : String
  file : String
  link : String
  deriving DecidableEq, Repr, Inhabited

/-- What is shown of an image; `id` tells it from all others on the page. -/
structure StoredItem where
  id : String
  fullName : String
  name : String
  tag : Option String
  isParameterized : Bool
  default : Option String
  count : Counted
  usages : List UsageItem
  deriving DecidableEq, Repr, Inhabited

/-- What is shown of a repository: its name, the number of its images, and these. -/
structure RepositoryItem where
  name : String
  count : Html
  images : List StoredItem
  deriving DecidableEq, Repr, Inhabited

/-- A use of an image. -/
def usageItem (u : UsageItem) : Html :=
  markup r#"                                        <li class="task-item">
                                            <a href=""# ++ text u.link ++ markup r#"" class="task-link">
                                                <span class="task-name">"# ++ text u.task ++ markup r#"</span>
                                                <span class="workflow-name">in "# ++ text u.workflow ++
    markup r#"</span>
                                            </a>
                                            <span class="file-path">"# ++ text u.file ++ markup r#"</span>
                                        </li>
"#

/-- The marks of an image that a parameter gives, with its default if it is shown. -/
def parameterMarks (i : StoredItem) : Html :=
  only i.isParameterized (markup r#"                                            <span class="badge badge-warning">Parameterized</span>
"# ++
    (i.default.elim [] fun d => markup r#"                                                <span class="badge badge-info"
                                                      title="Default value used when parameter is not provided">Default: "# ++ text d ++ markup "</span>\n"))

/-- An image with its uses. -/
def storedImageItem (i : StoredItem) : Html :=
  markup r#"                        <div class="docker-image-item" data-image=""# ++ text i.fullName ++ markup r#"">
                            <div class="image-header" onclick="toggleImageDetails('"# ++ text i.id ++ markup r#"')">
                                <div class="image-info">
                                    <span class="image-icon">🐳</span>
                                    <div class="image-details">
                                        <strong class="image-name">"# ++ text i.name ++
    markup "</strong>\n" ++ i.tag.elim [] (fun tag => markup r#"<span class="image-tag">:"# ++ text tag ++ markup "</span>") ++
    parameterMarks i ++ markup r#"                                    </div>
                                </div>
                                <div class="image-stats">
                                    <span class="task-count">"# ++ text i.count.shown ++ markup " task" ++
    i.count.ending ++ markup r#"</span>
                                    <span class="expand-icon" id="icon_"# ++ text i.id ++ markup r#"">▶</span>
                                </div>
                            </div>
                            <div class="image-tasks-container"
                                 id="tasks_"# ++ text i.id ++
    markup r#""
                                 style="display: none">
                                <div class="tasks-header">
                                    <h4>Tasks using this image:</h4>
                                </div>
                                <ul class="tasks-list">
"# ++ each i.usages usageItem ++ markup r#"                                </ul>
                            </div>
                        </div>
"#

/-- A repository; those of third parties have a label. -/
def repositoryCard (isExternal : Bool) (r : RepositoryItem) : Html :=
  markup r#"            <div class="card docker-repository" data-repo=""# ++ text r.name ++ markup r#"">
                <div class="repository-header">
                    <h2>
                        <span class="repo-icon">📦</span>
                        "# ++ text r.name ++ markup r#"
                        "# ++
    r.count ++ markup "\n" ++ only isExternal externalBadge ++
    markup r#"                    </h2>
                </div>
                <div class="docker-images-list">
"# ++
    each r.images storedImageItem ++
    markup r#"                </div>
            </div>
"#

/-- A shelf of the inventory. -/
def inventoryList (isExternal : Bool) (repositories : List RepositoryItem) : Html :=
  markup r#"    <div class="docker-inventory">
"# ++
    each repositories (repositoryCard isExternal) ++
    markup "    </div>"

/-- The name that tells the image at a position on the page from all others. -/
def imageId (repository : String) (image : Nat) : String :=
  "img_" ++ repository ++ "_" ++ Decimal.natText image

end Html

/-! ## Entries of an inventory -/

/-- A use of an image. -/
def Usage.item (u : Usage) : Html.UsageItem :=
  ⟨u.task, u.workflow, u.file, u.url⟩

/-- The image at a position of a repository. The default of a parameter is shown for third-party
sources. -/
def StoredImage.item (isExternal : Bool) (repository : Nat) (i : StoredImage) (position : Nat) :
    Html.StoredItem where
  id := Html.imageId (Decimal.natText repository) position
  fullName := i.fullName
  name := i.name
  tag := presentText i.tag
  isParameterized := i.isParameterized
  default := if isExternal then presentText i.default else none
  count := .ofNat i.usageCount
  usages := i.usages.map Usage.item

/-- The items of a shelf, whose repositories are counted from `offset`. -/
def Shelf.items (shelf : Shelf) (offset : Nat) (isExternal : Bool) : List Html.RepositoryItem :=
  shelf.zipIdx.map fun (r, k) =>
    ⟨r.1, Html.countItems r.2.imageCount "image" none,
      r.2.images.zipIdx.map fun (image, position) =>
        image.item isExternal (k + offset) position⟩

end WorkflowDocs
