import WorkflowDocs.Page.Inventory
import WorkflowDocs.Proofs.Html.ScriptText
import WorkflowDocs.Proofs.Page.Rendering

/-!
# Scripts on the index and the inventory page

Everything that these two pages show of documents, reports and images is text. Markup of their own
stands around it, in loops and under conditions that depend on the data, but none of the repeated
parts opens a script. So the index always opens eight scripts, two of which hold the data to search,
and the inventory page opens six.

## Main definitions

* `Html.scripts`: the number of places where a page opens a script

## Main results

* `Html.inert_fileGroup`, `Html.inert_failureGroup`, `Html.inert_inventoryList` and others: the
  repeated parts
* `Html.opens_indexContent`, `Html.inert_inventoryContent`: the contents of the two pages
* `overview_scripts_agree`: the number of scripts does not depend on what is shown
-/

-- The characters of long pieces of markup are gone through one by one.
set_option maxRecDepth 100000

namespace WorkflowDocs

namespace Html

/-- The number of places where a page opens a script. -/
def scripts (page : Html) : Nat :=
  Text.occurrences ('<' :: scriptTag) page.render.toList

/-! ## Tabs and labels -/

theorem inert_tabsContainer {buttons : Html} (h : Inert scriptTag buttons) :
    Inert scriptTag (tabsContainer buttons) := by
  simp only [tabsContainer, inert_append, h, and_true]
  and_intros <;> exact .ofList (by decide)

theorem inert_active {active : Bool} : Inert scriptTag (only active (markup " active")) :=
  .only (.ofList (by decide))

theorem inert_tabButton {id icon label count action : String} {active : Bool} :
    Inert scriptTag (tabButton id icon label count active action) := by
  simp only [tabButton, inert_append, inert_text, inert_active, and_true]
  and_intros <;> exact .ofList (by decide)

theorem inert_tabContent {id : String} {active : Bool} {content : Html}
    (h : Inert scriptTag content) : Inert scriptTag (tabContent id active content) := by
  simp only [tabContent, inert_append, inert_text, inert_active, h, and_true]
  and_intros <;> exact .ofList (by decide)

theorem inert_tabNotice {icon title description : String} :
    Inert scriptTag (tabNotice icon title description) := by
  simp only [tabNotice, inert_append, inert_text, and_true]
  and_intros <;> exact .ofList (by decide)

theorem inert_countItems {count : Int} {singular : String} {plural : Option String} :
    Inert scriptTag (countItems count singular plural) := by
  simp only [countItems, countBadge, inert_append, inert_text, and_true]
  and_intros <;> exact .ofList (by decide)

/-! ## Documents -/

theorem inert_taskCountLine {indent : Nat} {d : DocumentInfo} :
    Inert scriptTag (taskCountLine indent d) := by
  apply Inert.only
  simp only [pluralEnding, inert_line_iff, inert_append, inert_number, inert_ending, and_true]
  and_intros <;> exact .ofList (by decide)

theorem inert_callerCountLine {indent : Nat} {counts : Fields Nat} {d : DocumentInfo} :
    Inert scriptTag (callerCountLine indent counts d) := by
  apply Inert.only
  simp only [pluralEnding, inert_line_iff, inert_append, inert_number, inert_ending, and_true]
  and_intros <;> exact .ofList (by decide)

theorem inert_fileEntry {indent : Nat} {counts : Fields Nat} {badges : List Html}
    {d : DocumentInfo} (hbadges : ∀ badge ∈ badges, Inert scriptTag badge) :
    Inert scriptTag (fileEntry indent counts badges d) := by
  have hmarks : Inert scriptTag (each badges (line (indent + 4))) :=
    inert_each_of_mem fun badge hbadge => inert_line (hbadges badge hbadge)
  have hdescription : ∀ s : String, Inert scriptTag (line (indent + 8) (markup "<br>") ++
      line (indent + 8)
        (markup r#"<span class="description">"# ++ text s ++ markup "</span>")) := by
    intro s
    simp only [inert_append, inert_line_iff, inert_text, and_true]
    and_intros <;> exact .ofList (by decide)
  simp only [fileEntry, inert_append, inert_line_iff, inert_text, hmarks, inert_taskCountLine,
    inert_callerCountLine, inert_elim hdescription, and_true]
  and_intros <;> exact .ofList (by decide)

/-- A group whose own texts are no markup. -/
structure FileGroup.Plain (g : FileGroup) : Prop where
  title : '<' ∉ g.title.toList
  summary : '<' ∉ g.summary.toList
  badges : ∀ badge ∈ g.badges, Inert scriptTag badge

theorem plain_of_mem_internalGroups {g : FileGroup} (h : g ∈ internalGroups) : g.Plain := by
  simp only [internalGroups, List.mem_cons, List.not_mem_nil, or_false] at h
  rcases h with rfl | rfl | rfl
  all_goals exact ⟨by decide, by decide, List.forall_mem_singleton.2 inert_indentedBadge⟩

theorem plain_of_mem_externalGroups {g : FileGroup} (h : g ∈ externalGroups) : g.Plain := by
  simp only [externalGroups, List.mem_cons, List.not_mem_nil, or_false] at h
  rcases h with rfl | rfl | rfl
  all_goals
    exact ⟨by decide, by decide,
      List.forall_mem_cons.2 ⟨inert_indentedBadge, List.forall_mem_singleton.2 inert_indentedBadge⟩⟩

theorem inert_fileGroup {indent : Nat} {counts : Fields Nat} {documents : List DocumentInfo}
    {g : FileGroup} (hg : g.Plain) : Inert scriptTag (fileGroup indent counts documents g) := by
  have htitle : Inert scriptTag (markup ("<h2>" ++ g.title ++ "</h2>")) :=
    .concat (.concat (.ofList (by decide)) (inert_markup_of_not_mem hg.title)) (.ofList (by decide))
  have hsummary : Inert scriptTag (markup (r#"<p class="description">"# ++ g.summary ++ "</p>")) :=
    .concat (.concat (.ofList (by decide)) (inert_markup_of_not_mem hg.summary))
      (.ofList (by decide))
  have hentries : Inert scriptTag
      (each (documentsOfKind g.kind documents) (fileEntry (indent + 12) counts g.badges)) :=
    inert_each fun d => inert_fileEntry hg.badges
  apply Inert.only
  simp only [inert_append, inert_line_iff, htitle, hsummary, hentries, and_true]
  and_intros <;> exact .ofList (by decide)

/-! ## Reports -/

theorem inert_failureHeader {label : Html} {f : ParseFailure} (h : Inert scriptTag label) :
    Inert scriptTag (failureHeader label f) := by
  simp only [failureHeader, inert_append, inert_line_iff, inert_text, h, and_true]
  and_intros <;> exact .ofList (by decide)

theorem inert_failureLocation {f : ParseFailure} : Inert scriptTag (failureLocation f) := by
  apply inert_elim
  intro place
  simp only [inert_append, inert_line_iff, inert_text, and_true]
  and_intros <;> exact .ofList (by decide)

theorem inert_failureMessage {f : ParseFailure} : Inert scriptTag (failureMessage f) := by
  simp only [failureMessage, inert_append, inert_line_iff, inert_text, and_true]
  and_intros <;> exact .ofList (by decide)

theorem inert_failureEntry {style : String} {content : Html} (hstyle : '<' ∉ style.toList)
    (hcontent : Inert scriptTag content) : Inert scriptTag (failureEntry style content) := by
  have hopening : Inert scriptTag (markup ("<div class=\"error-item " ++ style ++ "\">")) :=
    .concat (.concat (.ofList (by decide)) (inert_markup_of_not_mem hstyle)) (.ofList (by decide))
  simp only [failureEntry, inert_append, inert_line_iff, hopening, hcontent, true_and]
  exact .ofList (by decide)

theorem inert_syntaxErrorEntry {f : ParseFailure} : Inert scriptTag (syntaxErrorEntry f) := by
  refine inert_failureEntry (by decide) ?_
  rw [inert_append, inert_append]
  exact ⟨⟨inert_failureHeader (.ofList (by decide)), inert_failureLocation⟩, inert_failureMessage⟩

theorem inert_otherErrorEntry {f : ParseFailure} : Inert scriptTag (otherErrorEntry f) := by
  refine inert_failureEntry (by decide) (inert_append.2 ⟨inert_failureHeader ?_,
    inert_failureMessage⟩)
  simp only [inert_append, inert_text, and_true]
  and_intros <;> exact .ofList (by decide)

theorem inert_warningEntry {f : ParseFailure} : Inert scriptTag (warningEntry f) := by
  refine inert_failureEntry (by decide) (inert_append.2 ⟨inert_failureHeader (.ofList (by decide)),
    ?_⟩)
  simp only [inert_line_iff, inert_append, inert_text, and_true]
  and_intros <;> exact .ofList (by decide)

theorem inert_failureGroup {title summary : String} {entry : ParseFailure → Html}
    {failures : List ParseFailure} (htitle : '<' ∉ title.toList) (hsummary : '<' ∉ summary.toList)
    (hentry : ∀ f, Inert scriptTag (entry f)) :
    Inert scriptTag (failureGroup title summary entry failures) := by
  have hheading : Inert scriptTag (markup ("<h2>" ++ title ++ " (")) :=
    .concat (.concat (.ofList (by decide)) (inert_markup_of_not_mem htitle)) (.ofList (by decide))
  have hdescription : Inert scriptTag
      (markup (r#"<p class="description">"# ++ summary ++ "</p>")) :=
    .concat (.concat (.ofList (by decide)) (inert_markup_of_not_mem hsummary))
      (.ofList (by decide))
  have hentries : Inert scriptTag (each failures entry) := inert_each hentry
  apply Inert.only
  simp only [inert_append, inert_line_iff, inert_number, hheading, hdescription, hentries, and_true,
    true_and]
  and_intros <;> exact .ofList (by decide)

theorem inert_failureGroups {x : Index} : Inert scriptTag (failureGroups x) := by
  rw [failureGroups, inert_append, inert_append, inert_append]
  refine ⟨⟨⟨.ofList (by decide), ?_⟩, ?_⟩, ?_⟩
  · exact inert_failureGroup (by decide) (by decide) fun _ => inert_syntaxErrorEntry
  · exact inert_failureGroup (by decide) (by decide) fun _ => inert_otherErrorEntry
  · exact inert_failureGroup (by decide) (by decide) fun _ => inert_warningEntry

/-! ## The index -/

theorem inert_indexTabs {x : Index} : Inert scriptTag (indexTabs x) := by
  refine inert_tabsContainer ?_
  simp only [inert_append, inert_line_iff, inert_tabButton, inert_tabButton.only, and_true]

theorem inert_externalTab {x : Index} : Inert scriptTag (externalTab x) := by
  refine .only (inert_tabContent (inert_append.2 ⟨inert_line inert_tabNotice, ?_⟩))
  exact inert_each_of_mem fun g hg => inert_fileGroup (plain_of_mem_externalGroups hg)

/-- The content of the index opens two scripts, for the data to search. Each of the two openings
stands before its data, and behind the data there are only tabs. -/
theorem opens_indexContent {x : Index} : Opens scriptTag 2 (indexContent x) := by
  have hinternal : Inert scriptTag (each internalGroups (fileGroup 12 x.callerCounts x.internal)) :=
    inert_each_of_mem fun g hg => inert_fileGroup (plain_of_mem_internalGroups hg)
  have hfailures : Inert scriptTag (only (!x.failures.isEmpty)
      (tabContent "errors" false (failureGroups x))) :=
    .only (inert_tabContent inert_failureGroups)
  have hhead : Inert scriptTag (overview x ++ markup r#"    </div>
    <div class="card">
        <h2>🔍 Search</h2>
        "# ++ searchBox "searchBox" searchHint) := by
    simp only [inert_append, inert_overview, inert_searchBox, and_true, true_and]
    exact .ofList (by decide)
  unfold indexContent
  iterate 8 refine Opens.append_inert ?_ (by first
    | exact inert_indexTabs | exact inert_externalTab | exact hfailures
    | exact inert_tabContent hinternal | exact .ofList (by decide))
  refine Opens.append_inert ?_ inert_searchData
  refine Opens.append (j := 1) (k := 1) ?_ (.ofList (by decide))
  refine Opens.append_inert ?_ inert_searchData
  exact hhead.append_opens (.ofList (by decide))

/-! ## The inventory -/

theorem inert_shelfFigures {indent : Nat} {card : String → String → Html} {title : String}
    {shelf : Shelf} (hcard : ∀ figure label, Inert scriptTag (card figure label)) :
    Inert scriptTag (shelfFigures indent card title shelf) := by
  simp only [shelfFigures, inert_append, inert_line_iff, hcard, and_true]

theorem inert_inventoryFigures {v : Inventory} : Inert scriptTag (inventoryFigures v) := by
  refine inert_append.2 ⟨.ofList (by decide), inert_statsGrid (inert_append.2 ⟨?_, .only ?_⟩)⟩
  · exact inert_shelfFigures fun _ _ => inert_statCard
  · exact inert_shelfFigures fun _ _ => inert_highlightedCard

theorem inert_inventoryTabs {v : Inventory} : Inert scriptTag (inventoryTabs v) := by
  refine .only (inert_tabsContainer ?_)
  simp only [inert_append, inert_line_iff, inert_tabButton, and_true]

theorem inert_usageItem {u : UsageItem} : Inert scriptTag (usageItem u) := by
  simp only [usageItem, inert_append, inert_text, and_true]
  and_intros <;> exact .ofList (by decide)

theorem inert_parameterMarks {i : StoredItem} : Inert scriptTag (parameterMarks i) := by
  refine .only (inert_append.2 ⟨.ofList (by decide), inert_elim fun d => ?_⟩)
  simp only [inert_append, inert_text, and_true]
  and_intros <;> exact .ofList (by decide)

theorem inert_storedImageItem {i : StoredItem} : Inert scriptTag (storedImageItem i) := by
  have htag : Inert scriptTag (i.tag.elim [] fun tag =>
      markup r#"<span class="image-tag">:"# ++ text tag ++ markup "</span>") := by
    apply inert_elim
    intro tag
    simp only [inert_append, inert_text, and_true]
    and_intros <;> exact .ofList (by decide)
  have husages : Inert scriptTag (each i.usages usageItem) := inert_each fun _ => inert_usageItem
  unfold storedImageItem
  simp only [inert_append, inert_text, htag, inert_parameterMarks, inert_ending, husages, and_true]
  and_intros <;> exact .ofList (by decide +kernel)

theorem inert_repositoryCard {isExternal : Bool} {r : RepositoryItem}
    (hcount : Inert scriptTag r.count) : Inert scriptTag (repositoryCard isExternal r) := by
  have hbadge : Inert scriptTag externalBadge := inert_indentedBadge
  have himages : Inert scriptTag (each r.images storedImageItem) :=
    inert_each fun _ => inert_storedImageItem
  simp only [repositoryCard, inert_append, inert_text, hcount, hbadge.only, himages, and_true]
  and_intros <;> exact .ofList (by decide)

theorem inert_inventoryList {isExternal : Bool} {shelf : Shelf} {offset : Nat} :
    Inert scriptTag (inventoryList isExternal (Shelf.items shelf offset isExternal)) := by
  have hcards : Inert scriptTag
      (each (Shelf.items shelf offset isExternal) (repositoryCard isExternal)) := by
    refine inert_each_of_mem fun r hr => ?_
    obtain ⟨x, -, rfl⟩ := List.mem_map.1 hr
    exact inert_repositoryCard inert_countItems
  simp only [inventoryList, inert_append, hcards, and_true]
  and_intros <;> exact .ofList (by decide)

theorem inert_externalShelf {v : Inventory} : Inert scriptTag (externalShelf v) := by
  refine .only (inert_tabContent (inert_append.2 ⟨?_, ?_⟩))
  · exact inert_line inert_tabNotice
  · exact inert_line inert_inventoryList

/-- The content of the inventory page opens no script. -/
theorem inert_inventoryContent {v : Inventory} : Inert scriptTag (inventoryContent v) := by
  have hinternal : Inert scriptTag (tabContent "internal" true
      (line 8 (inventoryList false (Shelf.items v.internal 0 false)))) :=
    inert_tabContent (inert_line inert_inventoryList)
  simp only [inventoryContent, inert_append, inert_inventoryFigures, inert_inventoryTabs, hinternal,
    inert_externalShelf, and_true, true_and]
  and_intros <;> exact .ofList (by decide)

end Html

/-! ## The two pages -/

/-- The index opens eight scripts. -/
theorem scripts_indexPage (look : Appearance) (x : Index) : (indexPage look x).scripts = 8 := by
  have htitle : Html.Inert Html.scriptTag (Html.text look.title ++ Html.markup " - Index") :=
    Html.inert_append.2 ⟨Html.inert_text, .ofList (by decide)⟩
  have hpage : Html.Opens Html.scriptTag (2 + 2 + 4) (indexPage look x) :=
    Html.opens_layout htitle Html.inert_text Html.inert_nil Html.opens_indexContent
  exact hpage.count

/-- The inventory page opens six scripts. -/
theorem scripts_inventoryPage (look : Appearance) (v : Inventory) :
    (inventoryPage look v).scripts = 6 := by
  have hpage : Html.Opens Html.scriptTag (2 + 0 + 4) (inventoryPage look v) :=
    Html.opens_layout (.ofList (by decide)) (.ofList (by decide)) Html.inert_nil
      Html.inert_inventoryContent.opens
  exact hpage.count

/-- **The scripts of the index and the inventory page.** Whatever titles, logos, documents and
reports are given, two indexes open the same number of scripts, and so do two inventory pages. An
inventory page is made whenever all documents have pages. -/
theorem overview_scripts_agree (look look' : Appearance) (documents documents' : List DocumentInfo)
    (failures failures' : List ParseFailure) :
    (indexPage look ⟨documents, failures⟩).scripts =
      (indexPage look' ⟨documents', failures'⟩).scripts ∧
    (∀ inventory inventory', inventory? documents = some inventory →
      inventory? documents' = some inventory' →
      (inventoryPage look inventory).scripts = (inventoryPage look' inventory').scripts) ∧
    (HavePages documents → ∃ inventory, inventory? documents = some inventory ∧
      (inventoryPage look inventory).scripts = 6) ∧
    (indexPage look ⟨documents, failures⟩).scripts = 8 := by
  refine ⟨?_, fun inventory inventory' _ _ => ?_, fun hall => ?_, scripts_indexPage look _⟩
  · rw [scripts_indexPage, scripts_indexPage]
  · rw [scripts_inventoryPage, scripts_inventoryPage]
  · obtain ⟨inventory, hinventory⟩ := exists_inventory? hall
    exact ⟨inventory, hinventory, scripts_inventoryPage look inventory⟩

/-- A document whose names are scripts, and whose workflow runs in an image with such a name. -/
def scriptDocument : DocumentInfo where
  filePath := ⟨.slash, ["p", "<script>.wdl"]⟩
  relativePath := ⟨.relative, ["<script>.wdl"]⟩
  workflow := some
    { name := "<script>"
      description := some "<script>"
      images := [{ image := "<script>/<script>:<script>", tasks := ["<script>"] }] }

/-- A report with a script in each of its texts. -/
def scriptFailure : ParseFailure where
  filePath := ⟨.slash, ["p", "<script>.wdl"]⟩
  relativePath := ⟨.relative, ["<script>.wdl"]⟩
  kind := "<script>"
  message := "<script>"

theorem overview_scripts_agree_of_scripts :
    (indexPage ⟨"<script>", some "<script>"⟩ ⟨[scriptDocument], [scriptFailure]⟩).scripts =
      (indexPage {} ⟨[], []⟩).scripts ∧
    ∃ inventory, inventory? [scriptDocument] = some inventory ∧
      (inventoryPage ⟨"<script>", some "<script>"⟩ inventory).scripts = 6 ∧
      ∃ inventory', inventory? [] = some inventory' ∧
        (inventoryPage ⟨"<script>", some "<script>"⟩ inventory).scripts =
          (inventoryPage {} inventory').scripts := by
  obtain ⟨hindex, hinventories, hmade, -⟩ := overview_scripts_agree
    ⟨"<script>", some "<script>"⟩ {} [scriptDocument] [] [scriptFailure] []
  have hall : HavePages [scriptDocument] := List.forall_mem_singleton.2 (by decide)
  obtain ⟨inventory, hinventory, hscripts⟩ := hmade hall
  exact ⟨hindex, inventory, hinventory, hscripts, _, rfl, hinventories _ _ hinventory rfl⟩

end WorkflowDocs
