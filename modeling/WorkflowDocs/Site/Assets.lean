import WorkflowDocs.FileTree.Basic

/-!
# The files that all pages use

## Main definitions

* `assetNames`: the names of these files below their directory
* `assetsOf`: the entries for the directory of these files, with given contents
* `SiteFiles.ofDir`: the pages of a site, and how its directory of these files differs
-/

namespace WorkflowDocs

/-- The directory of the files that all pages use. -/
def staticName : String := "static"

/-- The directory of the scripts that the main script loads. -/
def scriptDir : Place := ["modules"]

/-- The files that all pages use, by their names below the directory of these files. -/
def assetNames : List Place :=
  [["app.js"], ["logo.png"], ["prism-wdl.js"], ["style.css"]] ++
    (["README.md", "docker-images.js", "graph-modal.js", "search.js", "source-modal.js", "tabs.js",
      "ui.js"].map fun name => scriptDir ++ [name])

/-- The entries for the directory of the files that all pages use. -/
def assetsOf (content : Place → ByteArray) : List (Place × Entry) :=
  (scriptDir, .directory) :: assetNames.map fun name => (name, .file (content name))

/-- The files of a site: those outside the directory of the files that all pages use, and of that
directory the files that do not belong there and those that are missing. -/
structure SiteFiles where
  pages : List Place
  added : List Place
  missing : List Place
  deriving DecidableEq, Repr, Inhabited

/-- The files of the site in a directory. -/
def SiteFiles.ofDir (t : FileTree) (dir : Place) : SiteFiles :=
  let files := (t.below dir).filter fun place => t.isFile (dir ++ place)
  let (shared, pages) := files.partition fun place => place.head? == some staticName
  let present := (shared.map List.tail).filter (!·.isEmpty)
  { pages := pages
    added := present.filter (!assetNames.contains ·)
    missing := assetNames.filter (!present.contains ·) }

end WorkflowDocs
