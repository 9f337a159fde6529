import WorkflowDocs.Html.Basic
import WorkflowDocs.Text.Letters

/-!
# Badges

Small labels that mark what a section, a file or an image is.

## Main definitions

* `Html.badge`: a label of a kind
* `Html.workflowBadge` and the others: the labels in use
* `Html.countBadge`, `Html.countItems`: labels with a number
-/

namespace WorkflowDocs.Html

/-- A label of a kind; it shows the kind when it has no text of its own. -/
def badge (kind : String) (label : Option String) : Html :=
  markup r#"    <span class="badge badge-"# ++ text kind ++ markup r#"">"# ++
    text ((presentText label).getD (Text.upper kind)) ++ markup "</span>"

/-- An indented label. -/
def indentedBadge (kind label : String) : Html :=
  markup "    " ++ badge kind (some label)

/-- The label of workflows. -/
def workflowBadge : Html := indentedBadge "workflow" "WORKFLOW"

/-- The label of tasks. -/
def tasksBadge : Html := indentedBadge "task" "TASKS"

/-- The label of a single task. -/
def taskBadge : Html := indentedBadge "task" "TASK"

/-- The label of files with a workflow and tasks. -/
def mixedBadge : Html := indentedBadge "mixed" "MIXED"

/-- The label of files that are neither. -/
def fileBadge : Html := indentedBadge "file" "FILE"

/-- The label of third-party sources. -/
def externalBadge : Html := indentedBadge "external" "EXTERNAL"

/-- The label of calls. -/
def callBadge : Html := indentedBadge "call" "CALL"

/-- The label of sources that are no documents. -/
def errorBadge : Html := indentedBadge "error" "SYNTAX ERROR"

/-- The label of warnings. -/
def warningBadge : Html := indentedBadge "warning" "WARNING"

/-- A number with the name of what it counts. -/
def countBadge (count : String) (noun : Html) : Html :=
  markup r#"    <span class="badge badge-count">"# ++ text count ++ markup " " ++ noun ++ markup "</span>"

/-- A number of things, with the singular for one. The plural of a noun ends in `s` unless it is
given. -/
def countItems (count : Int) (singular : String) (plural : Option String) : Html :=
  countBadge (Decimal.intText count)
    (text (if count = 1 then singular else (presentText plural).getD (singular ++ "s")))

/-- The label of images that are given by a parameter. -/
def parameterizedBadge : Html :=
  markup r#"    <span class="badge badge-warning">Parameterized</span>"#

/-- A label with a hint. -/
def infoBadge (label : String) (hint : Html) : Html :=
  markup r#"    <span class="badge badge-info"
          title=""# ++ hint ++ markup r#"">"# ++ text label ++ markup "</span>"

end WorkflowDocs.Html
