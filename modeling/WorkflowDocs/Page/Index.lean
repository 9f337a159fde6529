import WorkflowDocs.Html.Badge
import WorkflowDocs.Html.Layout
import WorkflowDocs.Html.Stats
import WorkflowDocs.Html.Tabs
import WorkflowDocs.Site.Index

/-!
# The index page

The index shows the figures of a site, the data that its search works on, and its documents and
reports in tabs.

## Main definitions

* `Html.searchEntry`, `Html.searchData`: the data to search
* `Html.fileEntry`, `Html.fileGroup`: the documents
* `Html.failureEntry`: the reports
* `indexPage`: the page
-/

namespace WorkflowDocs

namespace Html

/-- The figures of a site. -/
def overview (x : Index) : Html :=
  markup r#"    <div class="card">
        <h2>Overview</h2>
"# ++ statsGrid (
    line 12 (statCard (Decimal.natText x.internal.length) "Internal WDL Files" "") ++
    line 12 (statCard (Decimal.natText x.workflowTotal) "Workflows" "") ++
    line 12 (statCard (Decimal.natText x.taskTotal) "Tasks" "") ++
    only (!x.external.isEmpty)
      (line 16 (highlightedCard (Decimal.natText x.external.length) "External Files"
        highlightColor)))

/-- The address of the page of a document, as the index writes it. -/
def pageAddress (d : DocumentInfo) : String :=
  Text.replaceAll ".wdl" ".html" d.relativePath.normalize.text

/-- A field of the data to search. -/
def searchField (name : String) (value : Html) : Html :=
  line 8 (markup ("\"" ++ name ++ "\": \"") ++ value ++ markup "\",")

/-- The data to search of a document. -/
def searchEntry (d : DocumentInfo) : Html :=
  line 4 (markup "\x7b") ++ searchField "name" (text d.name) ++
    searchField "type" (text (Text.upper d.kind.label)) ++
    searchField "path" (text d.relativePath.normalize.text) ++
    searchField "url" (text (pageAddress d)) ++
    searchField "description" (text (d.description.getD "")) ++
    line 8 (markup (if d.isExternal then "\"isExternal\": true" else "\"isExternal\": false")) ++
    markup "    \x7d"

/-- The data to search of a list of documents. -/
def searchData (documents : List DocumentInfo) : Html :=
  separated (markup ",") (documents.map searchEntry)

/-- A group of documents of one kind. -/
structure FileGroup where
  kind : DocumentKind
  title : String
  summary : String
  badges : List Html

/-- The groups of the project's documents. -/
def internalGroups : List FileGroup :=
  [⟨.workflow, "Workflows",
      "Main workflow files that orchestrate tasks and subworkflows.", [workflowBadge]⟩,
    ⟨.mixed, "Mixed Files (Workflow + Tasks)",
      "Files containing both workflow definition and task implementations.", [mixedBadge]⟩,
    ⟨.tasks, "Task Libraries", "Files containing reusable tasks.", [tasksBadge]⟩]

/-- The groups of third-party documents. -/
def externalGroups : List FileGroup :=
  [⟨.workflow, "External Workflows", "Workflow files from external dependencies.",
      [workflowBadge, externalBadge]⟩,
    ⟨.mixed, "External Mixed Files", "External files containing both workflows and tasks.",
      [mixedBadge, externalBadge]⟩,
    ⟨.tasks, "External Task Libraries", "Task-only files from external dependencies.",
      [tasksBadge, externalBadge]⟩]

/-- The number of tasks of a document, if it has any. -/
def taskCountLine (indent : Nat) (d : DocumentInfo) : Html :=
  only (!d.tasks.isEmpty)
    (line indent (markup "(" ++ number d.tasks.length ++ markup " task" ++
      pluralEnding d.tasks.length ++ markup ")"))

/-- The number of calls to the workflow of a document, if there are any. -/
def callerCountLine (indent : Nat) (counts : Fields Nat) (d : DocumentInfo) : Html :=
  let count := (d.workflow.bind fun w => Fields.get? counts w.name).getD 0
  only (count > 0)
    (line indent (markup r#"<span style="color: #a371f7; font-weight: 500;">(used by "# ++
      number count ++ markup " workflow" ++ pluralEnding count ++ markup ")</span>"))

/-- The description that the index shows: that of the workflow, if there is one. -/
def listedDescription (d : DocumentInfo) : Option String :=
  match d.workflow with
  | some w => presentText w.description
  | none => d.description

/-- A document in a group. -/
def fileEntry (indent : Nat) (counts : Fields Nat) (badges : List Html) (d : DocumentInfo) : Html :=
  line indent (markup "<li>") ++ each badges (line (indent + 4)) ++
    line (indent + 4) (markup "<a href=\"" ++ text (pageAddress d) ++ markup "\">") ++
    line (indent + 8) (markup "<strong>" ++ text d.name ++ markup "</strong>") ++
    line (indent + 4) (markup "</a>") ++
    line (indent + 4)
      (markup "- <code>" ++ text d.relativePath.normalize.text ++ markup "</code>") ++
    taskCountLine (indent + 4) d ++ callerCountLine (indent + 8) counts d ++
    (listedDescription d).elim [] (fun s => line (indent + 8) (markup "<br>") ++
      line (indent + 8) (markup r#"<span class="description">"# ++ text s ++ markup "</span>")) ++
    line indent (markup "</li>")

/-- A group of documents, if there are any. -/
def fileGroup (indent : Nat) (counts : Fields Nat) (documents : List DocumentInfo)
    (g : FileGroup) : Html :=
  let members := documentsOfKind g.kind documents
  only (!members.isEmpty)
    (line indent (markup r#"<div class="card section">"#) ++
      line (indent + 4) (markup ("<h2>" ++ g.title ++ "</h2>")) ++
      line (indent + 4) (markup (r#"<p class="description">"# ++ g.summary ++ "</p>")) ++
      line (indent + 4) (markup r#"<ul class="file-list">"#) ++
      each members (fileEntry (indent + 12) counts g.badges) ++
      line (indent + 4) (markup "</ul>") ++ line indent (markup "</div>"))

/-- The head of a report: its label and the source. -/
def failureHeader (label : Html) (f : ParseFailure) : Html :=
  line 32 (markup r#"<div class="error-header">"#) ++ line 36 label ++
    line 36 (markup r#"<code class="error-file">"# ++ text f.relativePath.normalize.text ++
      markup "</code>") ++
    line 32 (markup "</div>")

/-- The place in the source of a report, if it is known. -/
def failureLocation (f : ParseFailure) : Html :=
  f.location.elim [] fun place =>
    line 36 (markup r#"<div class="error-location">"#) ++
      line 40 (markup r#"<span class="location-icon">📍</span>"#) ++ line 40 (text place) ++
      line 36 (markup "</div>")

/-- The message of a report. -/
def failureMessage (f : ParseFailure) : Html :=
  line 32 (markup r#"<div class="error-message">"#) ++
    line 36 (markup "<pre>" ++ text f.message ++ markup "</pre>") ++
    line 32 (markup "</div>")

/-- A report with the given style and content. -/
def failureEntry (style : String) (content : Html) : Html :=
  line 28 (markup ("<div class=\"error-item " ++ style ++ "\">")) ++ content ++
    line 28 (markup "</div>")

/-- A report on a text that is no document. -/
def syntaxErrorEntry (f : ParseFailure) : Html :=
  failureEntry "syntax-error"
    (failureHeader (markup r#"<span class="badge badge-error">SYNTAX ERROR</span>"#) f ++
      failureLocation f ++ failureMessage f)

/-- A report on another error. -/
def otherErrorEntry (f : ParseFailure) : Html :=
  failureEntry "other-error"
    (failureHeader (markup r#"<span class="badge badge-error">"# ++ text f.kind ++
      markup "</span>") f ++ failureMessage f)

/-- A warning. -/
def warningEntry (f : ParseFailure) : Html :=
  failureEntry "warning-item"
    (failureHeader (markup r#"<span class="badge badge-warning">WARNING</span>"#) f ++
      line 32 (markup r#"<div class="error-message">"# ++ text f.message ++ markup "</div>"))

/-- A group of reports, if there are any. -/
def failureGroup (title summary : String) (entry : ParseFailure → Html)
    (failures : List ParseFailure) : Html :=
  only (!failures.isEmpty)
    (line 16 (markup r#"<div class="card section">"#) ++
      line 20 (markup ("<h2>" ++ title ++ " (") ++ number failures.length ++ markup ")</h2>") ++
      line 20 (markup (r#"<p class="description">"# ++ summary ++ "</p>")) ++
      line 20 (markup r#"<div class="error-list">"#) ++ each failures entry ++
      line 20 (markup "</div>") ++ line 16 (markup "</div>"))

/-- The reports of a site. -/
def failureGroups (x : Index) : Html :=
  markup r#"            <div class="card section">
                <div class="error-notice">
                    <span class="notice-icon">⚠️</span>
                    <div class="notice-content">
                        <strong>Parsing Issues</strong>
                        <p>
                            The following errors and warnings were encountered while generating documentation. These files may have syntax errors or incompatibilities.
                        </p>
                    </div>
                </div>
            </div>
"# ++
    failureGroup "🔴 Syntax Errors" "WDL files that failed to parse due to syntax errors."
      syntaxErrorEntry x.syntaxErrors ++
    failureGroup "🔴 Other Errors" "Files that encountered errors during processing."
      otherErrorEntry x.otherErrors ++
    failureGroup "⚠️ Warnings" "Non-critical issues that may affect documentation quality."
      warningEntry x.warnings

/-- The buttons that choose a tab of the index. -/
def indexTabs (x : Index) : Html :=
  tabsContainer (
    line 8 (tabButton "internal" "📁" "Internal" (Decimal.natText x.internal.length) true
      switchTab) ++
    only (!x.external.isEmpty)
      (tabButton "external" "📦" "External" (Decimal.natText x.external.length) false switchTab) ++
    only (!x.failures.isEmpty)
      (tabButton "errors" "⚠️" "Errors & Warnings" (Decimal.natText x.failures.length) false
        switchTab))

/-- The tab of third-party documents. -/
def externalTab (x : Index) : Html :=
  only (!x.external.isEmpty)
    (tabContent "external" false
      (line 12 (tabNotice "⚠️" "Third-Party Resources"
        ("These are external workflows and tasks from third-party sources. " ++
          "They are used as-is and not modified by this project.")) ++
        each externalGroups (fileGroup 16 x.callerCounts x.external)))

/-- The hint in the search box. -/
def searchHint : String :=
  "Search workflows, tasks, or files... (e.g., 'alignment', 'variant calling')"

/-- The content of the index page. -/
def indexContent (x : Index) : Html :=
  overview x ++ markup r#"    </div>
    <div class="card">
        <h2>🔍 Search</h2>
        "# ++ searchBox "searchBox" searchHint ++ markup r#"
    </div>
    <!-- Hidden search data -->
    <script id="searchDataInternal" type="application/json">
[
"# ++
    searchData x.internal ++ markup r#"]
    </script>
    <script id="searchDataExternal" type="application/json">
[
"# ++ searchData x.external ++ markup r#"]
    </script>
    <!-- Tabs Navigation -->
"# ++
    indexTabs x ++ markup "    <!-- Internal Tab Content -->\n" ++
    tabContent "internal" true (each internalGroups (fileGroup 12 x.callerCounts x.internal)) ++
    markup "    <!-- External Tab Content -->\n" ++ externalTab x ++ markup "    <!-- Errors & Warnings Tab Content -->\n" ++
    only (!x.failures.isEmpty) (tabContent "errors" false (failureGroups x))

end Html

/-- The index page, which stands at the top of the site. -/
def indexPage (look : Appearance) (x : Index) : Html :=
  Html.layout look "" (Html.text look.title ++ Html.markup " - Index") (Html.text look.title) []
    (Html.indexContent x)

end WorkflowDocs
