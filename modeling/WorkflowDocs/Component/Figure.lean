import WorkflowDocs.Component.Basic
import WorkflowDocs.Html.Modal
import WorkflowDocs.Html.Stats
import WorkflowDocs.Html.Tabs

/-!
# Figures, tabs and dialogs as components

## Main definitions

* `Component.statsGrid`, `Component.statCard`, `Component.highlightedCard`, `Component.searchBox`:
  figures and search
* `Component.tabsContainer`, `Component.tabButton`, `Component.tabContent`, `Component.tabNotice`:
  tabs
* `Component.actionButtons`, `Component.graphModal`, `Component.sourceModal`: buttons and dialogs
-/

namespace WorkflowDocs.Component

/-- A component that only encloses its content. -/
def enclosing (around : Html → Html) : Component where
  takesContent := true
  make := fun p => p.content.map around

/-- A row of figures. -/
def statsGrid : Component := enclosing Html.statsGrid

/-- A row of buttons that choose a tab. -/
def tabsContainer : Component := enclosing Html.tabsContainer

/-- A row of buttons. -/
def actionButtons : Component := enclosing Html.actionButtons

/-- A figure with its label. -/
def statCard : Component where
  parameters := ["number", "label", ⟨"style", .ofText ""⟩]
  make := fun p => do
    let style ← p.present "style"
    return Html.statCard (← p.text "number") (← p.text "label") (style.getD "")

/-- A figure that stands out. -/
def highlightedCard : Component where
  parameters := ["number", "label", ⟨"color", .ofText Html.highlightColor⟩]
  make := fun p => do
    let color ← p.text "color"
    return Html.highlightedCard (← p.text "number") (← p.text "label") color

/-- The box to search a page. -/
def searchBox : Component where
  parameters := ["id", "placeholder"]
  make := fun p => do
    return Html.searchBox (← p.text "id") (← p.text "placeholder")

/-- The button that chooses a tab. -/
def tabButton : Component where
  parameters := ["id", "icon", "label", "count", ⟨"active", .ofBool false⟩,
    ⟨"onclick_function", .ofText Html.switchTab⟩]
  make := fun p => do
    return Html.tabButton (← p.text "id") (← p.text "icon") (← p.text "label") (← p.text "count")
      (p.has "active") (← p.text "onclick_function")

/-- The content of a tab. -/
def tabContent : Component where
  parameters := ["id", ⟨"active", .ofBool false⟩]
  takesContent := true
  make := fun p => do
    return Html.tabContent (← p.text "id") (p.has "active") (← p.content)

/-- A notice at the head of a tab. -/
def tabNotice : Component where
  parameters := ["icon", "title", "description"]
  make := fun p => do
    return Html.tabNotice (← p.text "icon") (← p.text "title") (← p.text "description")

/-- The dialog with the graph of a workflow. -/
def graphModal : Component where
  parameters := ["workflow_name", "mermaid_graph"]
  make := fun p => do
    return Html.graphModal (← p.text "workflow_name") (← p.text "mermaid_graph")

/-- The dialog with the source of a document. -/
def sourceModal : Component where
  parameters := ["doc_name", "source_code"]
  make := fun p => do
    return Html.sourceModal (← p.text "doc_name") (← p.text "source_code")

end WorkflowDocs.Component
