import WorkflowDocs.Html.InventoryList
import WorkflowDocs.Html.Layout
import WorkflowDocs.Html.Stats
import WorkflowDocs.Html.Tabs

/-!
# The inventory page

The inventory page shows the figures of the image inventory and its two shelves in tabs.

## Main definitions

* `inventoryPage`: the page
-/

namespace WorkflowDocs

namespace Html

/-- The figures of a shelf: its repositories, its images and their uses. -/
def shelfFigures (indent : Nat) (card : String → String → Html) (title : String)
    (shelf : Shelf) : Html :=
  line indent (card (Decimal.natText shelf.length) (title ++ " Repositories")) ++
    line indent (card (Decimal.natText shelf.imageTotal) (title ++ " Images")) ++
    line indent (card (Decimal.natText shelf.usageTotal) (title ++ " Usages"))

/-- The figures of an inventory. -/
def inventoryFigures (v : Inventory) : Html :=
  markup r#"    <div class="card">
        <h2>Overview</h2>
"# ++ statsGrid (
    shelfFigures 12 (statCard · · "") "Internal" v.internal ++
    only v.hasExternal (shelfFigures 16 (highlightedCard · · highlightColor) "External" v.external))

/-- The buttons that choose a shelf, if there is a choice. -/
def inventoryTabs (v : Inventory) : Html :=
  only v.hasExternal (tabsContainer (
    line 12 (tabButton "internal" "📁" "Internal" (Decimal.natText v.internal.length) true
      switchInventoryTab) ++
    line 12 (tabButton "external" "📦" "External" (Decimal.natText v.external.length) false
      switchInventoryTab)))

/-- The number that the third-party repositories are counted from. -/
def externalOffset : Nat := 1000

/-- The tab of third-party images. -/
def externalShelf (v : Inventory) : Html :=
  only v.hasExternal (tabContent "external" false (
    line 12 (tabNotice "⚠️" "Third-Party Docker Images"
      ("These Docker images are used by external workflows and tasks " ++
        "from third-party sources.")) ++
    line 12 (inventoryList true (Shelf.items v.external externalOffset true))))

/-- The content of the inventory page. -/
def inventoryContent (v : Inventory) : Html :=
  inventoryFigures v ++ markup r#"    </div>
    <div class="card">
        <h2>🔍 Search Images</h2>
        <div class="search-container">
            <input type="text"
                   id="dockerSearchBox"
                   class="search-box"
                   placeholder="Search by image name, repository, or task..."
                   autocomplete="off">
            <span class="search-icon">🔍</span>
        </div>
    </div>
    <!-- Tabs Navigation -->
"# ++ inventoryTabs v ++ markup "    <!-- Internal Tab Content -->\n" ++
    tabContent "internal" true (line 8 (inventoryList false (Shelf.items v.internal 0 false))) ++ markup "    <!-- External Tab Content -->\n" ++
    externalShelf v

end Html

/-- The inventory page, which stands at the top of the site. -/
def inventoryPage (look : Appearance) (v : Inventory) : Html :=
  Html.layout look "./" (Html.markup "Docker Inventory - WDL Atlas") (Html.markup "Docker Inventory") []
    (Html.inventoryContent v)

end WorkflowDocs
