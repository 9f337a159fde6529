import WorkflowDocs.Html.Basic

/-!
# Tabs

Pages with several parts show one of them at a time.

## Main definitions

* `Html.tabsContainer`, `Html.tabButton`: the choice of a tab
* `Html.tabContent`: the content of a tab
* `Html.tabNotice`: a notice at the head of a tab
-/

namespace WorkflowDocs.Html

/-- The row of buttons that choose a tab. -/
def tabsContainer (buttons : Html) : Html :=
  markup r#"    <div class="tabs-container">
        <div class="tabs">"# ++ buttons ++ markup r#"</div>
    </div>"#

/-- The button that chooses a tab by calling `action`. -/
def tabButton (id icon label count : String) (active : Bool) (action : String) : Html :=
  markup r#"    <button class="tab-button"# ++ only active (markup " active") ++ markup r#""
            data-tab=""# ++ text id ++ markup r#""
            onclick=""# ++
    text action ++ markup "('" ++ text id ++ markup r#"')">
        <span class="tab-icon">"# ++ text icon ++ markup r#"</span>
        <span class="tab-label">"# ++
    text label ++ markup r#"</span>
        <span class="tab-count">"# ++ text count ++ markup r#"</span>
    </button>"#

/-- The action of the buttons of an index. -/
def switchTab : String := "switchTab"

/-- The action of the buttons of an inventory. -/
def switchInventoryTab : String := "switchDockerTab"

/-- The content of a tab. -/
def tabContent (id : String) (active : Bool) (content : Html) : Html :=
  markup r#"    <div id="tab-"# ++ text id ++ markup r#""
         class="tab-content"# ++ only active (markup " active") ++ markup r#"">"# ++ content ++
    markup "</div>"

/-- A notice at the head of a tab. -/
def tabNotice (icon title description : String) : Html :=
  markup r#"    <div class="card section external-section">
        <div class="external-notice">
            <span class="notice-icon">"# ++ text icon ++ markup r#"</span>
            <div class="notice-content">
                <strong>"# ++ text title ++ markup r#"</strong>
                <p>"# ++ text description ++
    markup r#"</p>
            </div>
        </div>
    </div>"#

end WorkflowDocs.Html
