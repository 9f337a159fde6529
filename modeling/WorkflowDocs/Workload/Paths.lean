import WorkflowDocs.Path.Link
import WorkflowDocs.Sample.Documents
import WorkflowDocs.Workload.Finding
import WorkflowDocs.Workspace.Parse

/-!
# Workloads on paths

Each workload asks for places and links of many files.

## Main definitions

* `Workload.places`: places below a root, and imports that lead nowhere
* `Workload.links`: links between pages, and the parts of paths
-/

namespace WorkflowDocs.Workload

/-- The normal form of a path. -/
def normalText (s : String) : String :=
  (Path.ofText s).normalize.text

/-- The root that places are taken from. -/
def placeRoot : Path :=
  Path.ofText "/data/project"

/-- The place of a file below the root. -/
def placeText (file : String) : String :=
  (Path.relativeToRoot placeRoot (Path.ofText file) placeRoot).text

/-- Places of `n` files and of some at a distance, and imports of which none leads to a file. -/
def places (n : Int) : Finding :=
  let normal := (List.range n.toNat).flatMap fun i =>
    [normalText s!"../external/lib{i}.wdl", normalText s!"workflows/sub/../tasks/lib{i}.wdl"]
  let placed := ["/data/project/workflows/main.wdl", "/srv/external/vendor/x/y/tool.wdl",
    "/completely/elsewhere/a/b/tool.wdl", "rel/only.wdl"].map placeText
  let imported := (List.range (n.toNat + 2)).map fun i =>
    (resolveImport {} placeRoot (placeRoot.child "main.wdl") s!"lib{i}.wdl").elim "None" (·.text)
  .texts (normal ++ placed ++ imported)

/-- The directories `d0`, `d1`, … up to a depth. -/
def directories (depth : Nat) : List String :=
  (List.range depth).map fun k => s!"d{k}"

/-- What is asked of the `i`-th file: links to a page from it and from the top, and its parts. -/
def linkTexts (i : Nat) : List String :=
  let target := s!"subworkflows/v{i % 3}/target{i}.wdl"
  let file : Path := ⟨.relative, directories (i % 5 + 1) ++ [s!"file{i}.wdl"]⟩
  [Path.relativeLink (Path.ofText target) file,
    Path.relativeLink (Path.ofText target) (Path.ofText "index.wdl"),
    normalText ("../external/" ++ target), file.name, file.parent.text]

/-- Links of `n` files, and some texts that stay as they are. -/
def links (n : Int) : Finding :=
  let shown := ["/data/project/a/b.wdl", "/nope/outside.wdl", "x.wdl"].map
    (Path.relativeText placeRoot)
  .texts ((List.range n.toNat).flatMap linkTexts ++ shown ++ ["code", "", "base.html"])

end WorkflowDocs.Workload
