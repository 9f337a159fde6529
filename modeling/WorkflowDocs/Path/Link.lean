import WorkflowDocs.Path.Normalize

/-!
# Pages and links

Each source has a page at its normal place, and pages link to each other by relative paths.

## Main definitions

* `Path.page?`: the page of a source
* `Path.climb`: the way from a page up to the top of the site
* `Path.relativeLink`: the link from the page of one source to another page
* `Path.relativeText`: a path as it is read from some directory
-/

namespace WorkflowDocs.Path

/-- The ending of pages. -/
def pageSuffix : String := ".html"

/-- The page of the source at a place, if the place has a name. -/
def page? (source : Path) : Option Path :=
  source.normalize.withSuffix? pageSuffix

/-- The way up from `depth` directories below. -/
def climb : Nat → String
  | 0 => ""
  | depth + 1 => "../" ++ climb depth

/-- The page that a link to a path leads to: a source stands for its page. -/
def linkedPage (target : Path) : Path :=
  if target.suffix = ".wdl" then (target.withSuffix? pageSuffix).getD target else target

/-- The link to `target` on the page of the source `source`. -/
def relativeLink (target source : Path) : String :=
  climb source.normalize.parent.parts.length ++ (linkedPage target.normalize).text

/-- The path with the given text as it is read from the directory `start`; a path that is not
below it keeps its text. -/
def relativeText (start : Path) (s : String) : String :=
  (((ofText s).relativeTo? start).map text).getD s

end WorkflowDocs.Path
