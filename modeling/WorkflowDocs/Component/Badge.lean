import WorkflowDocs.Component.Basic
import WorkflowDocs.Html.Badge

/-!
# Badges as components

## Main definitions

* `Component.badge`, `Component.countBadge`, `Component.countItems`, `Component.infoBadge`,
  `Component.taskBadge`: the badges that are given something
* `Component.itemCount`: a number of things under their noun
-/

namespace WorkflowDocs.Component

/-- A label of a kind. -/
def badge : Component where
  parameters := ["type", ⟨"text", .plain .null⟩]
  make := fun p => do
    return Html.badge (← p.text "type") (← p.present "text")

/-- The label of tasks, or of a single task when there is a content. -/
def taskBadge : Component where
  takesContent := true
  make := fun p => .ok (if p.content?.isSome then Html.taskBadge else Html.tasksBadge)

/-- A number with the name of what it counts. -/
def countBadge : Component where
  parameters := ["count"]
  takesContent := true
  make := fun p => do
    return Html.countBadge (← p.text "count") (← p.contentOr (Html.text "items"))

/-- A number of things, with the singular for one, and otherwise the plural or what is made of the
singular. -/
def itemCount (count singular plural : Datum) : Except RenderError Html := do
  let shown ← count.text
  let noun ←
    if count.isOne then singular.text
    else if plural.isTruthy then plural.text
    else singular.plural
  return Html.countBadge shown (Html.text noun)

/-- A number of things. -/
def countItems : Component where
  parameters := ["count", "singular", ⟨"plural", .plain .null⟩]
  make := fun p => itemCount (p.get "count") (p.get "singular") (p.get "plural")

/-- A label with a hint. -/
def infoBadge : Component where
  parameters := ["text"]
  takesContent := true
  make := fun p => do
    let hint ← p.contentOr []
    return Html.infoBadge (← p.text "text") hint

end WorkflowDocs.Component
