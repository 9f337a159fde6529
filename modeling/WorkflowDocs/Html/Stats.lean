import WorkflowDocs.Html.Basic

/-!
# Figures and search

The figures at the head of a page, and the box to search it.

## Main definitions

* `Html.statsGrid`, `Html.statCard`, `Html.highlightedCard`: figures
* `Html.searchBox`: the search box
-/

namespace WorkflowDocs.Html

/-- A row of figures. -/
def statsGrid (cards : Html) : Html :=
  markup r#"    <div class="stats">"# ++ cards ++ markup "</div>"

/-- A figure with its label; a style is written if it is not empty. -/
def statCard (figure label style : String) : Html :=
  markup r#"    <div class="stat-card" "# ++ only (style != "") (markup r#"style=""# ++ text style ++ markup r#"""#) ++
    markup r#">
        <div class="number">"# ++ text figure ++ markup r#"</div>
        <div class="label">"# ++ text label ++ markup r#"</div>
    </div>"#

/-- The colour of figures that stand out. -/
def highlightColor : String := "var(--warning)"

/-- A figure that stands out by a line in the given colour. -/
def highlightedCard (figure label color : String) : Html :=
  markup "    " ++
    statCard figure label ("border-left: 3px solid " ++ color ++ ";")

/-- The box to search a page, with places for the number of results and for the results. -/
def searchBox (id placeholder : String) : Html :=
  markup r#"    <div class="search-container">
        <input type="text"
               id=""# ++ text id ++ markup r#""
               class="search-box"
               placeholder=""# ++ text placeholder ++ markup r#""
               autocomplete="off">
        <span class="search-icon">🔍</span>
    </div>
    <div id=""# ++ text id ++
    markup r#"Stats" class="search-stats"></div>
    <div id=""# ++ text id ++ markup r#"Results" class="search-results"></div>"#

end WorkflowDocs.Html
