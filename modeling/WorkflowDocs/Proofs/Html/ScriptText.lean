import WorkflowDocs.Page.Index
import WorkflowDocs.Proofs.Html.Components

/-!
# Data in the index page

The index page holds the data to search in two scripts, one for the project's own documents and one
for those of third parties. Nothing before a script opens one with its identifier, and the data has
no sharp bracket, so the text of the script is the data in the brackets of a list.

## Main definitions

* `Text.cutOut?`: the texts around a piece
* `Html.scriptText?`: the text of a script with an identifier
* `Html.chars`: the characters of a page

## Main results

* `Html.bracket_not_mem_searchData`: the data has no sharp bracket
* `Html.scriptText?_indexPage`: the texts of the two scripts
-/

-- The characters of long pieces of markup are gone through one by one.
set_option maxRecDepth 100000

namespace WorkflowDocs

/-! ## Searching a text -/

namespace Text

variable {p a front rest : List Char}

/-- The texts before and behind the first place where the piece `p` stands. -/
def cutOut? (p : List Char) : List Char → Option (List Char × List Char)
  | [] => none
  | c :: cs =>
    if p.isPrefixOf (c :: cs) then some ([], (c :: cs).drop p.length)
    else (cutOut? p cs).map fun r => (c :: r.1, r.2)

theorem cutOut?_cons_of_begins {c : Char} {cs : List Char} (h : p <+: c :: cs) :
    cutOut? p (c :: cs) = some ([], (c :: cs).drop p.length) := by
  rw [cutOut?, if_pos (List.isPrefixOf_iff_prefix.2 h)]

theorem cutOut?_cons_of_not_begins {c : Char} {cs : List Char} (h : ¬ p <+: c :: cs) :
    cutOut? p (c :: cs) = (cutOut? p cs).map fun r => (c :: r.1, r.2) := by
  rw [cutOut?, if_neg (mt List.isPrefixOf_iff_prefix.1 h)]

/-- A text that has nothing of the piece stands before it as a whole. The piece does not stand
across the end of the text either, because the text is settled. -/
theorem cutOut?_append (h : Holds p 0 a) (b : List Char) :
    cutOut? p (a ++ b) = (cutOut? p b).map fun r => (a ++ r.1, r.2) := by
  induction a with
  | nil => simp
  | cons c cs ih =>
    obtain ⟨hnot, hrest⟩ := h.of_cons
    rw [List.cons_append, cutOut?_cons_of_not_begins (mt h.settled.begins_append_iff.1 hnot),
      ih hrest, Option.map_map]
    rfl

theorem length_le_of_cutOut? (h : cutOut? p a = some (front, rest)) : p.length ≤ a.length := by
  induction a generalizing front with
  | nil => exact absurd h (by simp [cutOut?])
  | cons c cs ih =>
    by_cases hbegins : p <+: c :: cs
    · exact hbegins.length_le
    · rw [cutOut?_cons_of_not_begins hbegins] at h
      obtain ⟨⟨front', rest'⟩, hr, heq⟩ := Option.map_eq_some_iff.1 h
      obtain ⟨-, rfl⟩ := Prod.mk.inj heq
      exact Nat.le_succ_of_le (ih hr)

/-- A piece that is found in a text is found there when more text follows. The piece is not longer
than the rest of the text, so it cannot stand across its end. -/
theorem cutOut?_append_of_some (h : cutOut? p a = some (front, rest)) (b : List Char) :
    cutOut? p (a ++ b) = some (front, rest ++ b) := by
  induction a generalizing front with
  | nil => exact absurd h (by simp [cutOut?])
  | cons c cs ih =>
    have hlonger : c :: cs <+: c :: (cs ++ b) := List.prefix_append (c :: cs) b
    rw [List.cons_append]
    by_cases hbegins : p <+: c :: cs
    · rw [cutOut?_cons_of_begins hbegins, Option.some.injEq, Prod.mk.injEq] at h
      rw [cutOut?_cons_of_begins (hbegins.trans hlonger), ← h.1, ← h.2, ← List.cons_append,
        List.drop_append_of_le_length hbegins.length_le]
    · rw [cutOut?_cons_of_not_begins hbegins] at h
      obtain ⟨⟨front', rest'⟩, hr, heq⟩ := Option.map_eq_some_iff.1 h
      obtain ⟨rfl, rfl⟩ := Prod.mk.inj heq
      have hacross : ¬ p <+: c :: (cs ++ b) := fun hp => hbegins
        (List.prefix_of_prefix_length_le hp hlonger (Nat.le_succ_of_le (length_le_of_cutOut? hr)))
      rw [cutOut?_cons_of_not_begins hacross, ih hr, Option.map_some]

/-- Where a piece stands in a text, from its characters. -/
theorem map_cutOut?_ofList {α : Type} {cs : List Char} {f : List Char × List Char → α} {r : α}
    (h : (cutOut? p cs).map f = some r) : (cutOut? p (String.ofList cs).toList).map f = some r := by
  rw [String.toList_ofList, h]

end Text

namespace Html

/-! ## Scripts with data -/

/-- The characters of a page. -/
def chars (page : Html) : List Char :=
  page.render.toList

theorem chars_append (a b : Html) : chars (a ++ b) = chars a ++ chars b := by
  rw [chars, render_append, String.toList_append]
  rfl

theorem chars_markup (s : String) : chars (markup s) = s.toList := by
  rw [chars, markup, render_singleton]
  rfl

theorem chars_text (s : String) : chars (text s) = (escape s).toList := by
  rw [chars, text, render_singleton]
  rfl

theorem Inert.holds {tag : List Char} {h : Html} (hinert : Inert tag h) :
    Text.Holds ('<' :: tag) 0 h.chars :=
  hinert.opens

/-- The tag that opens a script with data under an identifier. -/
def dataTag (id : String) : String :=
  "<script id=\"" ++ id ++ "\" type=\"application/json\">"

/-- The text of the first script with data under an identifier. -/
def scriptText? (id : String) (page : Html) : Option String := do
  let opened ← Text.cutOut? (dataTag id).toList page.chars
  let closed ← Text.cutOut? "</script".toList opened.2
  return String.ofList closed.1

/-! ## The index page -/

/-- The beginning of a tag that opens a script under an identifier. -/
def namedScriptTag : List Char := ['s', 'c', 'r', 'i', 'p', 't', ' ', 'i', 'd']

theorem scriptTag_begins_named : scriptTag <+: namedScriptTag :=
  ⟨[' ', 'i', 'd'], rfl⟩

theorem inert_layout_front {look : Appearance} {top : String} {title header navigation : Html}
    (htitle : Inert namedScriptTag title) (hheader : Inert namedScriptTag header)
    (hnavigation : Inert namedScriptTag navigation) :
    ∃ front foot last : Html, Inert namedScriptTag front ∧
      ∀ content, layout look top title header navigation content =
        front ++ content ++ foot ++ text top ++ last := by
  have hstyle : Inert namedScriptTag (markup styleAndDiagrams) := by
    refine List.forall_mem_singleton.2 (opens_singleton.1 ?_)
    unfold styleAndDiagrams
    iterate 15 refine .concat (j := 0) (k := 0) ?_ (.ofList (by decide))
    exact .ofList (by decide)
  have hlogo : Inert namedScriptTag (logoImage look top) :=
    inert_logoImage.of_begins scriptTag_begins_named
  refine ⟨_, _, _, ?_, fun _ => rfl⟩
  simp only [inert_append, inert_text, htitle, hheader, hnavigation, hstyle, hlogo, and_true]
  and_intros <;> exact .ofList (by decide)

theorem inert_statCard {figure label style : String} :
    Inert scriptTag (statCard figure label style) := by
  have hstyle : Inert scriptTag (markup r#"style=""# ++ text style ++ markup r#"""#) := by
    simp only [inert_append, inert_text, and_true]
    and_intros <;> exact .ofList (by decide)
  simp only [statCard, inert_append, inert_text, hstyle.only, and_true]
  and_intros <;> exact .ofList (by decide)

theorem inert_highlightedCard {figure label color : String} :
    Inert scriptTag (highlightedCard figure label color) :=
  inert_append.2 ⟨.ofList (by decide), inert_statCard⟩

theorem inert_statsGrid {cards : Html} (h : Inert scriptTag cards) :
    Inert scriptTag (statsGrid cards) := by
  simp only [statsGrid, inert_append, h, and_true]
  and_intros <;> exact .ofList (by decide)

theorem inert_overview {x : Index} : Inert scriptTag (overview x) := by
  refine inert_append.2 ⟨.ofList (by decide), inert_statsGrid ?_⟩
  simp only [inert_append, inert_line_iff, inert_statCard, true_and]
  exact .only (inert_line inert_highlightedCard)

theorem inert_searchBox {id placeholder : String} : Inert scriptTag (searchBox id placeholder) := by
  simp only [searchBox, inert_append, inert_text, and_true]
  and_intros <;> exact .ofList (by decide)

theorem begins_dataTag (id : String) : '<' :: namedScriptTag <+: (dataTag id).toList := by
  refine ⟨"=\"".toList ++ id.toList ++ "\" type=\"application/json\">".toList, ?_⟩
  simp [dataTag, namedScriptTag]

/-- The content of the index page around the data. The texts are the chunks of markup between the
parts; unfolding the content finds them. -/
theorem chars_indexContent (x : Index) :
    ∃ (before opening middle closing : String) (rest : List Char),
      chars (indexContent x) = chars (overview x) ++ (before.toList ++
        (chars (searchBox "searchBox" searchHint) ++ (opening.toList ++
        (chars (searchData x.internal) ++ (middle.toList ++
        (chars (searchData x.external) ++ (closing.toList ++ rest))))))) ∧
      Text.Holds ('<' :: namedScriptTag) 0 before.toList ∧
      (Text.cutOut? (dataTag "searchDataInternal").toList opening.toList).map Prod.snd =
        some ['\n', '[', '\n'] ∧
      Text.Holds (dataTag "searchDataExternal").toList 0 opening.toList ∧
      (Text.cutOut? "</script".toList middle.toList).map Prod.fst =
        some [']', '\n', ' ', ' ', ' ', ' '] ∧
      (Text.cutOut? (dataTag "searchDataExternal").toList middle.toList).map Prod.snd =
        some ['\n', '[', '\n'] ∧
      (Text.cutOut? "</script".toList closing.toList).map Prod.fst =
        some [']', '\n', ' ', ' ', ' ', ' '] := by
  refine ⟨?before, ?opening, ?middle, ?closing, ?rest, ?content, ?_, ?_, ?_, ?_, ?_, ?_⟩
  case content =>
    simp only [indexContent, chars_append, chars_markup, List.append_assoc]
    rfl
  · exact .ofList (by decide)
  · exact Text.map_cutOut?_ofList (by decide)
  · exact .ofList (by decide)
  · exact Text.map_cutOut?_ofList (by decide)
  · exact Text.map_cutOut?_ofList (by decide)
  · exact Text.map_cutOut?_ofList (by decide)

/-! ## The data -/

theorem bracket_not_mem_of_inert {h : Html} (hinert : Inert [] h) : '<' ∉ h.chars :=
  Text.Holds.not_mem hinert.holds

section

variable {tag : List Char}

theorem inert_searchField {name : String} {value : Html} (hname : '<' ∉ name.toList)
    (hvalue : Inert tag value) : Inert tag (searchField name value) := by
  have hkey : '<' ∉ ("\"" ++ name ++ "\": \"").toList := by simp [hname]
  refine inert_line (inert_append.2 ⟨inert_append.2 ⟨inert_markup_of_not_mem hkey, hvalue⟩, ?_⟩)
  exact inert_markup_of_not_mem (by decide)

theorem inert_searchEntry {d : DocumentInfo} : Inert tag (searchEntry d) := by
  have hexternal : Inert tag (markup
      (if d.isExternal then "\"isExternal\": true" else "\"isExternal\": false")) := by
    split <;> exact inert_markup_of_not_mem (by decide)
  simp only [searchEntry, inert_append, inert_line_iff, hexternal, and_true]
  and_intros
  all_goals first
    | exact inert_markup_of_not_mem (by decide)
    | exact inert_searchField (by decide) inert_text

/-- The data to search has no tag at all. -/
theorem inert_searchData {documents : List DocumentInfo} : Inert tag (searchData documents) := by
  refine inert_separated (inert_markup_of_not_mem (by decide)) fun part hpart => ?_
  obtain ⟨d, -, rfl⟩ := List.mem_map.1 hpart
  exact inert_searchEntry

end

theorem bracket_not_mem_searchData (documents : List DocumentInfo) :
    '<' ∉ (searchData documents).chars :=
  bracket_not_mem_of_inert inert_searchData

/-- The data of a list of documents in the brackets of a list, as it stands in a script. -/
def dataText (documents : List DocumentInfo) : String :=
  String.ofList (['\n', '[', '\n'] ++
    ((searchData documents).chars ++ [']', '\n', ' ', ' ', ' ', ' ']))

/-- The text of a script, from what stands around the data. No tag stands between the opening one
and the closing one. -/
theorem scriptText?_of_parts {id : String} {page : Html} {documents : List DocumentInfo}
    {front opening closing rest : List Char}
    (hpage : page.chars = front ++ (opening ++ ((searchData documents).chars ++ (closing ++ rest))))
    (hfront : Text.Holds (dataTag id).toList 0 front)
    (hopening : (Text.cutOut? (dataTag id).toList opening).map Prod.snd = some ['\n', '[', '\n'])
    (hclosing : (Text.cutOut? "</script".toList closing).map Prod.fst =
      some [']', '\n', ' ', ' ', ' ', ' ']) :
    scriptText? id page = some (dataText documents) := by
  obtain ⟨⟨before, _⟩, hopened, rfl⟩ := Option.map_eq_some_iff.1 hopening
  obtain ⟨⟨_, behind⟩, hclosed, rfl⟩ := Option.map_eq_some_iff.1 hclosing
  have hdata : '<' ∉ ['\n', '[', '\n'] ++ (searchData documents).chars := by
    rw [List.mem_append, not_or]
    exact ⟨by decide, bracket_not_mem_searchData documents⟩
  have htag : "</script".toList = '<' :: "/script".toList := by decide
  rw [scriptText?, hpage, Text.cutOut?_append hfront, Text.cutOut?_append_of_some hopened]
  simp only [Option.map_some, Option.bind_eq_bind, Option.bind_some]
  rw [← List.append_assoc, htag, Text.cutOut?_append (.of_not_mem hdata), ← htag,
    Text.cutOut?_append_of_some hclosed]
  simp [dataText]

/-- The scripts of the index page hold the data of the project's own documents and of those of third
parties. The first script does not have the identifier of the second, and its data has no tag. -/
theorem scriptText?_indexPage (look : Appearance) (x : Index) :
    scriptText? "searchDataInternal" (indexPage look x) = some (dataText x.internal) ∧
      scriptText? "searchDataExternal" (indexPage look x) = some (dataText x.external) := by
  have htitle : Inert namedScriptTag (text look.title ++ markup " - Index") :=
    inert_append.2 ⟨inert_text, .ofList (by decide)⟩
  obtain ⟨front, foot, last, hfront, hlayout⟩ :=
    @inert_layout_front look "" _ (text look.title) [] htitle inert_text inert_nil
  obtain ⟨before, opening, middle, closing, rest, hcontent, hbefore, hinternal, hopening, hmiddle,
    hexternal, hclosing⟩ := chars_indexContent x
  have hpage : (indexPage look x).chars =
      (front.chars ++ (chars (overview x) ++ (before.toList ++
        chars (searchBox "searchBox" searchHint)))) ++ (opening.toList ++
      ((searchData x.internal).chars ++ (middle.toList ++ ((searchData x.external).chars ++
      (closing.toList ++ (rest ++ (foot ++ text "" ++ last).chars)))))) := by
    rw [indexPage, hlayout]
    simp only [chars_append, hcontent, List.append_assoc]
  have hnamed : Text.Holds ('<' :: namedScriptTag) 0 (front.chars ++ (chars (overview x) ++
      (before.toList ++ chars (searchBox "searchBox" searchHint)))) :=
    hfront.holds.append ((inert_overview.of_begins scriptTag_begins_named).holds.append
      (hbefore.append (inert_searchBox.of_begins scriptTag_begins_named).holds))
  have hbracket : ['<'] <+: (dataTag "searchDataExternal").toList :=
    List.IsPrefix.trans ⟨namedScriptTag, rfl⟩ (begins_dataTag _)
  constructor
  · exact scriptText?_of_parts hpage (hnamed.of_begins (begins_dataTag _)) hinternal hmiddle
  · have hdata : Text.Holds (dataTag "searchDataExternal").toList 0 (searchData x.internal).chars :=
      .of_begins hbracket (.of_not_mem (bracket_not_mem_searchData x.internal))
    rw [← List.append_assoc, ← List.append_assoc] at hpage
    exact scriptText?_of_parts hpage (((hnamed.of_begins (begins_dataTag _)).append hopening).append
      hdata) hexternal hclosing

end Html

end WorkflowDocs
