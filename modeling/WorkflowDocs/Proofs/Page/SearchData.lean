import WorkflowDocs.Proofs.Html.ScriptText
import WorkflowDocs.Proofs.Literal.JsonText
import WorkflowDocs.Proofs.Path.Link
import WorkflowDocs.Proofs.Traversal

/-!
# Reading the data to search

The data to search of the index page is JSON text in which every value was written as text that is
shown. Reading it gives an object for each document, if the characters that stand between the marks
of a value can be read at all. A value that is read is the one that was written exactly if it has
none of the characters that are written in another form on a page, no backslash and no control
character.

## Main definitions

* `Html.isPlain`: the characters that a value may have
* `Html.SearchRecord`, `Html.searchRecord?`: the values that are read for a document
* `Html.RoundTrips`: reading the data of a script gives the documents back

## Main results

* `Html.shownText?_eq_iff`: the values that are read as they were written
* `Html.ofJson?_dataText`: what is read from the data
* `roundTrips_iff`: when the data of the index page gives the documents back
-/

namespace WorkflowDocs

open Literal.Json (textBody? escapeWeight Token Scan Reading Mode)

namespace Html

/-! ## Values -/

/-- What is read where the text was written as text that is shown. -/
def shownText? (s : String) : Option Literal :=
  textBody? (escape s).toList

/-- The characters that are read as they were written. -/
def isPlain (c : Char) : Bool :=
  c != '\\' && decide (' ' ≤ c) && !(['&', '<', '>', '\'', '"'].contains c)

theorem length_escapeChar_pos (c : Char) : 0 < (escapeChar c).length := by
  unfold escapeChar
  split <;> exact Nat.succ_pos _

theorem escapeChar_of_length {c : Char} (h : (escapeChar c).length = 1) : escapeChar c = [c] := by
  unfold escapeChar at h ⊢
  split at h <;> simp_all

theorem quote_not_mem_escape (s : String) : '"' ∉ (escape s).toList := by
  rw [escape, String.toList_ofList, List.mem_flatMap]
  rintro ⟨c, -, hc⟩
  unfold escapeChar at hc
  split at hc <;> simp_all [eq_comm]

theorem escapeWeight_escapeChar (c : Char) :
    escapeWeight ((escapeChar c).map Char.toNat) = escapeWeight [c.toNat] := by
  unfold escapeChar
  split <;> first | decide | rfl

/-- Writing a text for a page keeps its backslashes and letters `u`, and adds none. -/
theorem escapeWeight_escape (s : String) :
    escapeWeight ((escape s).toList.map Char.toNat) = escapeWeight (s.toList.map Char.toNat) := by
  rw [escape, String.toList_ofList]
  induction s.toList with
  | nil => rfl
  | cons c cs ih =>
    rw [List.flatMap_cons, List.map_append, List.map_cons, Literal.Json.escapeWeight_cons, ← ih,
      ← escapeWeight_escapeChar]
    exact List.countP_append

theorem escapeChar_eq_singleton_iff (c : Char) :
    escapeChar c = [c] ↔ ['&', '<', '>', '\'', '"'].contains c = false := by
  unfold escapeChar
  split
  · decide
  · decide
  · decide
  · decide
  · decide
  · simp_all

theorem isPlain_iff (c : Char) :
    isPlain c = true ↔ (c ≠ '\\' ∧ ' ' ≤ c) ∧ escapeChar c = [c] := by
  rw [escapeChar_eq_singleton_iff, isPlain, Bool.and_eq_true, Bool.and_eq_true, bne_iff_ne,
    decide_eq_true_eq, Bool.not_eq_true']

theorem flatMap_escapeChar {cs : List Char} (h : ∀ c ∈ cs, escapeChar c = [c]) :
    cs.flatMap escapeChar = cs := by
  induction cs with
  | nil => rfl
  | cons c cs ih =>
    obtain ⟨hc, hcs⟩ := List.forall_mem_cons.1 h
    rw [List.flatMap_cons, hc, ih hcs, List.singleton_append]

/-- Only a text without special characters is written for a page as it is. -/
theorem escapeChar_of_flatMap {cs : List Char} (h : cs.flatMap escapeChar = cs) :
    ∀ c ∈ cs, escapeChar c = [c] := by
  have hlength : ∀ cs : List Char, cs.length ≤ (cs.flatMap escapeChar).length := by
    intro cs
    induction cs with
    | nil => exact Nat.le_refl _
    | cons c cs ih =>
      have hpos := length_escapeChar_pos c
      rw [List.flatMap_cons, List.length_append, List.length_cons]
      omega
  induction cs with
  | nil => exact List.forall_mem_nil _
  | cons c cs ih =>
    have hone : (escapeChar c).length = 1 := by
      have hpos := length_escapeChar_pos c
      have hrest := hlength cs
      have htotal := congrArg List.length h
      rw [List.flatMap_cons, List.length_append, List.length_cons] at htotal
      omega
    have hc := escapeChar_of_length hone
    rw [List.flatMap_cons, hc, List.singleton_append, List.cons.injEq] at h
    exact List.forall_mem_cons.2 ⟨hc, ih h.2⟩

/-- **Values in the data to search.** A value is read as it was written exactly if all of its
characters are plain. An escape would lose a backslash or a `u`, and writing the text for the page
adds none. Without escapes the text on the page is read as it stands there, and it is the text that
was written. -/
theorem shownText?_eq_iff (s : String) :
    shownText? s = some (.string s) ↔ ∀ c ∈ s.toList, isPlain c = true := by
  constructor
  · intro h
    have hslash : '\\' ∉ (escape s).toList := by
      intro hmem
      have hlt := Literal.Json.escapeWeight_lt_of_textBody? hmem h
      rw [escapeWeight_escape] at hlt
      exact absurd hlt (Nat.lt_irrefl _)
    have hplain : ∀ c ∈ (escape s).toList, c ≠ '\\' ∧ ' ' ≤ c := fun c hc =>
      ⟨ne_of_mem_of_not_mem hc hslash, Literal.Json.le_of_textBody? hslash h c hc⟩
    have hsame : (escape s).toList = s.toList := by
      rw [shownText?, Literal.Json.textBody?_of_unescaped hplain, String.ofList_toList] at h
      rw [Literal.string.inj (Option.some.inj h)]
    have hchars : ∀ c ∈ s.toList, escapeChar c = [c] := by
      rw [escape, String.toList_ofList] at hsame
      exact escapeChar_of_flatMap hsame
    rw [hsame] at hplain
    exact fun c hc => (isPlain_iff c).2 ⟨hplain c hc, hchars c hc⟩
  · intro h
    have hsame : (escape s).toList = s.toList := by
      rw [escape, String.toList_ofList]
      exact flatMap_escapeChar fun c hc => ((isPlain_iff c).1 (h c hc)).2
    rw [shownText?, hsame, Literal.Json.textBody?_of_unescaped fun c hc =>
      ((isPlain_iff c).1 (h c hc)).1, String.ofList_toList]

/-! ## Tokens of the data -/

/-- The values that are read for a document. -/
structure SearchRecord where
  name : Literal
  kind : Literal
  path : Literal
  address : Literal
  description : Literal
  isExternal : Bool

/-- The values that are read for a document, if they can be read. -/
def searchRecord? (d : DocumentInfo) : Option SearchRecord := do
  let name ← shownText? d.name
  let kind ← shownText? (Text.upper d.kind.label)
  let path ← shownText? d.relativePath.normalize.text
  let address ← shownText? (pageAddress d)
  let description ← shownText? (d.description.getD "")
  return ⟨name, kind, path, address, description, d.isExternal⟩

namespace SearchRecord

/-- The tokens of a field with a comma behind it. -/
def fieldTokens (name : String) (value : Literal) : List Token :=
  [.text (.string name), .colon, .text value, .comma]

/-- The tokens of a record. -/
def tokens (r : SearchRecord) : List Token :=
  .openObject :: fieldTokens "name" r.name ++ fieldTokens "type" r.kind ++
    fieldTokens "path" r.path ++ fieldTokens "url" r.address ++
    fieldTokens "description" r.description ++
    [.text (.string "isExternal"), .colon, .atom (.boolean r.isExternal), .closeObject]

/-- The object of a record. -/
def object (r : SearchRecord) : Literal :=
  .dict [(.string "name", r.name), (.string "type", r.kind), (.string "path", r.path),
    (.string "url", r.address), (.string "description", r.description),
    (.string "isExternal", .boolean r.isExternal)]

end SearchRecord

/-- The reader after a part of a page. -/
def scan (h : Html) (s : Scan) : Option Scan :=
  h.chars.foldlM Scan.step s

theorem scan_append (a b : Html) (s : Scan) : scan (a ++ b) s = (scan a s).bind (scan b) := by
  rw [scan, chars_append, List.foldlM_append]
  rfl

/-- The reader after markup, from its characters. -/
theorem scan_ofList {cs : List Char} {s : Scan} {r : Option Scan}
    (h : cs.foldlM Scan.step s = r) : scan (markup (String.ofList cs)) s = r := by
  rw [scan, chars_markup, String.toList_ofList, h]

theorem foldlM_blanks (n : Nat) (tokens : List Token) :
    (List.replicate n ' ').foldlM Scan.step ⟨.between, tokens⟩ = some ⟨.between, tokens⟩ := by
  induction n with
  | zero => rfl
  | succ n ih => rw [List.replicate_succ, List.foldlM_cons]; exact ih

theorem scan_line (n : Nat) (content : Html) (tokens : List Token) :
    scan (line n content) ⟨.between, tokens⟩ =
      (scan content ⟨.between, tokens⟩).bind (scan (markup "\n")) := by
  rw [line, scan_append, scan_append, scan_ofList (foldlM_blanks n tokens), Option.bind_some]

/-- A field is read if its value can be read. -/
theorem scan_searchField {name : String} (hname : ∀ c ∈ name.toList, c ≠ '"' ∧ c ≠ '\\' ∧ ' ' ≤ c)
    (value : String) (tokens : List Token) :
    scan (searchField name (text value)) ⟨.between, tokens⟩ =
      (shownText? value).map fun v =>
        ⟨.between, (SearchRecord.fieldTokens name v).reverse ++ tokens⟩ := by
  have hchars : (searchField name (text value)).chars =
      List.replicate 8 ' ' ++ ('"' :: ((name.toList ++ ['"']) ++ (':' :: ' ' :: '"' ::
        ((escape value).toList ++ ['"', ',', '\n'])))) := by
    simp [searchField, line, chars_append, chars_markup, chars_text]
  have hkey : textBody? name.toList = some (.string name) := by
    rw [Literal.Json.textBody?_of_unescaped fun c hc => (hname c hc).2, String.ofList_toList]
  have hquote : '"' ∉ name.toList := fun hmem => (hname _ hmem).1 rfl
  have hopen : ∀ cs, ('"' :: cs).foldlM Scan.step ⟨.between, tokens⟩ =
      cs.foldlM Scan.step ⟨.text [], tokens⟩ := fun _ => rfl
  have hcolon : ∀ cs s, (':' :: ' ' :: '"' :: cs).foldlM Scan.step ⟨.between, s⟩ =
      cs.foldlM Scan.step ⟨.text [], .colon :: s⟩ := fun _ _ => rfl
  rw [scan, hchars, List.foldlM_append, foldlM_blanks, Option.bind_eq_bind, Option.bind_some, hopen,
    List.foldlM_append, Scan.foldlM_closed hquote hkey, Option.bind_eq_bind, Option.bind_some,
    hcolon, Scan.foldlM_text (quote_not_mem_escape value)]
  rfl

/-- The last field has a word with a meaning as its value, which ends with the line. -/
theorem scan_isExternal (b : Bool) (tokens : List Token) :
    scan (line 8 (markup (if b then "\"isExternal\": true" else "\"isExternal\": false")))
        ⟨.between, tokens⟩ =
      some ⟨.between, .atom (.boolean b) :: .colon :: .text (.string "isExternal") :: tokens⟩ := by
  rw [scan_line]
  cases b with
  | false =>
    have hword : scan (markup "\"isExternal\": false") ⟨.between, tokens⟩ =
        some ⟨.word ['e', 's', 'l', 'a', 'f'],
          .colon :: .text (.string "isExternal") :: tokens⟩ := scan_ofList rfl
    rw [if_neg (by decide), hword]
    exact scan_ofList rfl
  | true =>
    have hword : scan (markup "\"isExternal\": true") ⟨.between, tokens⟩ =
        some ⟨.word ['e', 'u', 'r', 't'],
          .colon :: .text (.string "isExternal") :: tokens⟩ := scan_ofList rfl
    rw [if_pos rfl, hword]
    exact scan_ofList rfl

theorem scan_searchEntry (d : DocumentInfo) (tokens : List Token) :
    scan (searchEntry d) ⟨.between, tokens⟩ =
      (searchRecord? d).map fun r => ⟨.between, r.tokens.reverse ++ tokens⟩ := by
  have hopen : scan (line 4 (markup "\x7b")) ⟨.between, tokens⟩ =
      some ⟨.between, .openObject :: tokens⟩ := by
    rw [scan_line, scan_ofList rfl]
    exact scan_ofList rfl
  have hclose : ∀ s, scan (markup "    \x7d") ⟨.between, s⟩ = some ⟨.between, .closeObject :: s⟩ :=
    fun _ => scan_ofList rfl
  have hname := @scan_searchField "name" (by simp)
  have htype := @scan_searchField "type" (by simp)
  have hpath := @scan_searchField "path" (by simp)
  have hurl := @scan_searchField "url" (by simp)
  have hdescription := @scan_searchField "description" (by simp)
  rw [searchEntry, searchRecord?]
  simp only [scan_append, Option.bind_assoc, hopen, Option.bind_some, hname, htype, hpath, hurl,
    hdescription, Option.bind_map, Function.comp_def, scan_isExternal,
    hclose]
  simp only [Option.bind_eq_bind, Option.map_bind, Function.comp_def, Option.pure_def,
    Option.map_some]
  rfl

theorem foldlM_tokens (r : SearchRecord) (items : List Literal) (rest : List Literal.Json.Open) :
    r.tokens.foldlM Reading.step ⟨.list items :: rest, .value⟩ =
        some ⟨.list (r.object :: items) :: rest, .commaOrEnd⟩ ∧
    r.tokens.foldlM Reading.step ⟨.list items :: rest, .valueOrEnd⟩ =
        some ⟨.list (r.object :: items) :: rest, .commaOrEnd⟩ :=
  ⟨rfl, rfl⟩

/-! ## Lists -/

/-- The tokens of several records with commas between them. -/
def recordTokens : List SearchRecord → List Token
  | [] => []
  | [r] => r.tokens
  | r :: rs => r.tokens ++ .comma :: recordTokens rs

theorem scan_searchData (documents : List DocumentInfo) (tokens : List Token) :
    scan (searchData documents) ⟨.between, tokens⟩ =
      (documents.mapM searchRecord?).map fun rs =>
        ⟨.between, (recordTokens rs).reverse ++ tokens⟩ := by
  induction documents generalizing tokens with
  | nil => rfl
  | cons d documents ih =>
    cases documents with
    | nil =>
      rw [searchData, List.map_singleton, separated, scan_searchEntry, List.mapM_cons]
      cases searchRecord? d <;> rfl
    | cons second documents =>
      have hcomma : ∀ s, scan (markup ",") ⟨.between, s⟩ = some ⟨.between, .comma :: s⟩ :=
        fun _ => scan_ofList rfl
      have hdata : searchData (d :: second :: documents) =
          searchEntry d ++ markup "," ++ searchData (second :: documents) := rfl
      rw [hdata, scan_append, scan_append, scan_searchEntry, List.mapM_cons]
      cases searchRecord? d with
      | none => rfl
      | some r =>
        rw [Option.map_some, Option.bind_some, hcomma, Option.bind_some, ih]
        cases hrs : (second :: documents).mapM searchRecord? with
        | none => rfl
        | some rs =>
          cases forall₂_of_mapM_eq_some hrs with
          | cons _ _ => simp [recordTokens]

/-- Reading the tokens of records puts their objects into the list. -/
theorem foldlM_recordTokens (r : SearchRecord) (rs : List SearchRecord) (items : List Literal)
    (rest : List Literal.Json.Open) :
    (recordTokens (r :: rs)).foldlM Reading.step ⟨.list items :: rest, .value⟩ =
        some ⟨.list (((r :: rs).map SearchRecord.object).reverse ++ items) :: rest, .commaOrEnd⟩ ∧
    (recordTokens (r :: rs)).foldlM Reading.step ⟨.list items :: rest, .valueOrEnd⟩ =
      some ⟨.list (((r :: rs).map SearchRecord.object).reverse ++ items) :: rest, .commaOrEnd⟩ := by
  induction rs generalizing r items with
  | nil => exact foldlM_tokens r items rest
  | cons second rs ih =>
    have hcomma : ∀ ts, (.comma :: ts).foldlM Reading.step
        ⟨.list (r.object :: items) :: rest, .commaOrEnd⟩ =
        ts.foldlM Reading.step ⟨.list (r.object :: items) :: rest, .value⟩ := fun _ => rfl
    have htokens : recordTokens (r :: second :: rs) =
        r.tokens ++ .comma :: recordTokens (second :: rs) := rfl
    obtain ⟨hvalue, hfirst⟩ := foldlM_tokens r items rest
    have hrest := (ih second (r.object :: items)).1
    rw [htokens, List.foldlM_append, List.foldlM_append, hvalue, hfirst, Option.bind_eq_bind,
      Option.bind_some, hcomma, hrest]
    simp

/-- What is read from the data of documents: an object for each. -/
theorem ofJson?_dataText (documents : List DocumentInfo) :
    Literal.ofJson? (dataText documents) =
      (documents.mapM searchRecord?).map fun rs => .list (rs.map SearchRecord.object) := by
  have hopen : ∀ cs, (['\n', '[', '\n'] ++ cs).foldlM Scan.step {} =
      cs.foldlM Scan.step ⟨.between, [.openList]⟩ := fun _ => rfl
  have hclose : ∀ tokens, [']', '\n', ' ', ' ', ' ', ' '].foldlM Scan.step ⟨.between, tokens⟩ =
      some ⟨.between, .closeList :: tokens⟩ := fun _ => rfl
  have hdata : (searchData documents).chars.foldlM Scan.step ⟨.between, [.openList]⟩ = _ :=
    scan_searchData documents [.openList]
  rw [Literal.ofJson?, Literal.Json.tokens?, dataText, String.toList_ofList, hopen,
    List.foldlM_append, hdata]
  cases documents.mapM searchRecord? with
  | none => rfl
  | some rs =>
    have hfinish :
        Scan.finish? ⟨.between, .closeList :: ((recordTokens rs).reverse ++ [.openList])⟩ =
          some (.openList :: (recordTokens rs ++ [.closeList])) := by
      simp [Scan.finish?]
    have hstart : ∀ ts, (.openList :: ts).foldlM Reading.step {} =
        ts.foldlM Reading.step ⟨[.list []], .valueOrEnd⟩ := fun _ => rfl
    simp only [Option.map_some, Option.bind_eq_bind, Option.bind_some, hclose, hfinish, hstart,
      List.foldlM_append]
    cases rs with
    | nil => rfl
    | cons r rs =>
      rw [(foldlM_recordTokens r rs [] []).2, List.append_nil]
      exact congrArg (fun objects => some (Literal.list objects)) (List.reverse_reverse _)

/-! ## The index page -/

/-- The value that an object has under a key. -/
def member? (key : String) : Literal → Option Literal
  | .dict entries => Literal.lookup? key entries
  | _ => none

/-- An object that gives the name, the place and the description of a document. -/
def Describes (d : DocumentInfo) (object : Literal) : Prop :=
  member? "name" object = some (.string d.name) ∧
    member? "path" object = some (.string d.relativePath.normalize.text) ∧
    member? "description" object = some (.string (d.description.getD ""))

/-- The script of a page under an identifier is JSON text, and reading it gives one object for each
document, in order, that describes it. -/
def RoundTrips (id : String) (page : Html) (documents : List DocumentInfo) : Prop :=
  ∃ text objects, scriptText? id page = some text ∧
    Literal.ofJson? text = some (.list objects) ∧ List.Forall₂ Describes documents objects

end Html

/-- The name, the place and the description of a document have plain characters only. -/
def DocumentInfo.IsPlain (d : DocumentInfo) : Prop :=
  ∀ s ∈ [d.name, d.relativePath.normalize.text, d.description.getD ""],
    ∀ c ∈ s.toList, Html.isPlain c = true

namespace Html

/-- The address of a page has plain characters, if the place of the document has. -/
theorem isPlain_pageAddress {d : DocumentInfo}
    (h : ∀ c ∈ d.relativePath.normalize.text.toList, isPlain c = true) :
    ∀ c ∈ (pageAddress d).toList, isPlain c = true := by
  intro c hc
  have hending : ∀ c ∈ ".html".toList, isPlain c = true := List.all_eq_true.1 (by decide)
  rw [pageAddress, Text.replaceAll, String.toList_ofList] at hc
  exact (Path.mem_replaceChars hc).elim (hending c) (h c)

theorem isPlain_kind (kind : DocumentKind) :
    ∀ c ∈ (Text.upper kind.label).toList, isPlain c = true := by
  rw [← List.all_eq_true]
  cases kind <;> decide

theorem searchRecord?_eq_some_iff {d : DocumentInfo} {r : SearchRecord} :
    searchRecord? d = some r ↔ shownText? d.name = some r.name ∧
      shownText? (Text.upper d.kind.label) = some r.kind ∧
      shownText? d.relativePath.normalize.text = some r.path ∧
      shownText? (pageAddress d) = some r.address ∧
      shownText? (d.description.getD "") = some r.description ∧ d.isExternal = r.isExternal := by
  obtain ⟨name, kind, path, address, description, isExternal⟩ := r
  simp only [searchRecord?, Option.bind_eq_bind, Option.bind_eq_some_iff, Option.pure_def,
    Option.some.injEq, SearchRecord.mk.injEq]
  constructor
  · rintro ⟨_, hname, _, hkind, _, hpath, _, haddress, _, hdescription, rfl, rfl, rfl, rfl, rfl,
      rfl⟩
    exact ⟨hname, hkind, hpath, haddress, hdescription, rfl⟩
  · rintro ⟨hname, hkind, hpath, haddress, hdescription, rfl⟩
    exact ⟨_, hname, _, hkind, _, hpath, _, haddress, _, hdescription, rfl, rfl, rfl, rfl, rfl, rfl⟩

theorem describes_object_iff {d : DocumentInfo} {r : SearchRecord} :
    Describes d r.object ↔ r.name = .string d.name ∧
      r.path = .string d.relativePath.normalize.text ∧
      r.description = .string (d.description.getD "") := by
  have hname : member? "name" r.object = some r.name := rfl
  have hpath : member? "path" r.object = some r.path := rfl
  have hdescription : member? "description" r.object = some r.description := rfl
  rw [Describes, hname, hpath, hdescription, Option.some.injEq, Option.some.injEq,
    Option.some.injEq]

/-- The record of a document describes it exactly if the document is plain. -/
theorem exists_describes_iff (d : DocumentInfo) :
    (∃ r, searchRecord? d = some r ∧ Describes d r.object) ↔ d.IsPlain := by
  constructor
  · rintro ⟨r, hrecord, hdescribes⟩
    obtain ⟨hname, -, hpath, -, hdescription, -⟩ := searchRecord?_eq_some_iff.1 hrecord
    obtain ⟨hname', hpath', hdescription'⟩ := describes_object_iff.1 hdescribes
    rw [hname', shownText?_eq_iff] at hname
    rw [hpath', shownText?_eq_iff] at hpath
    rw [hdescription', shownText?_eq_iff] at hdescription
    simpa [DocumentInfo.IsPlain] using ⟨hname, hpath, hdescription⟩
  · intro h
    obtain ⟨hname, hpath, hdescription, -⟩ : (∀ c ∈ d.name.toList, isPlain c = true) ∧
        (∀ c ∈ d.relativePath.normalize.text.toList, isPlain c = true) ∧
        (∀ c ∈ (d.description.getD "").toList, isPlain c = true) ∧ True := by
      simpa [DocumentInfo.IsPlain] using h
    refine ⟨⟨.string d.name, .string (Text.upper d.kind.label),
      .string d.relativePath.normalize.text, .string (pageAddress d),
      .string (d.description.getD ""), d.isExternal⟩, searchRecord?_eq_some_iff.2 ?_,
      describes_object_iff.2 ⟨rfl, rfl, rfl⟩⟩
    exact ⟨(shownText?_eq_iff _).2 hname, (shownText?_eq_iff _).2 (isPlain_kind _),
      (shownText?_eq_iff _).2 hpath, (shownText?_eq_iff _).2 (isPlain_pageAddress hpath),
      (shownText?_eq_iff _).2 hdescription, rfl⟩

/-- The records of documents describe them exactly if the documents are plain. -/
theorem exists_records_iff (documents : List DocumentInfo) :
    (∃ rs, documents.mapM searchRecord? = some rs ∧
      List.Forall₂ Describes documents (rs.map SearchRecord.object)) ↔
      ∀ d ∈ documents, d.IsPlain := by
  induction documents with
  | nil => exact ⟨fun _ => List.forall_mem_nil _, fun _ => ⟨[], rfl, .nil⟩⟩
  | cons d documents ih =>
    rw [List.forall_mem_cons, ← exists_describes_iff, ← ih]
    constructor
    · rintro ⟨rs, hrecords, hdescribes⟩
      rw [List.mapM_cons] at hrecords
      obtain ⟨r, hr, hrecords⟩ := Option.bind_eq_some_iff.1 hrecords
      obtain ⟨rs', hrs, hrecords⟩ := Option.bind_eq_some_iff.1 hrecords
      obtain rfl := Option.some.inj hrecords
      obtain ⟨hfirst, hrest⟩ := List.forall₂_cons.1 hdescribes
      exact ⟨⟨r, hr, hfirst⟩, rs', hrs, hrest⟩
    · rintro ⟨⟨r, hr, hfirst⟩, rs, hrs, hrest⟩
      refine ⟨r :: rs, ?_, .cons hfirst hrest⟩
      rw [List.mapM_cons, hr, hrs]
      rfl

/-- A script with the data of documents gives them back exactly if they are plain. -/
theorem roundTrips_of_scriptText? {id : String} {page : Html} {documents : List DocumentInfo}
    (h : scriptText? id page = some (dataText documents)) :
    RoundTrips id page documents ↔ ∀ d ∈ documents, d.IsPlain := by
  rw [← exists_records_iff]
  constructor
  · rintro ⟨text, objects, htext, hread, hdescribes⟩
    obtain rfl := Option.some.inj (h.symm.trans htext)
    rw [ofJson?_dataText] at hread
    obtain ⟨rs, hrs, hobjects⟩ := Option.map_eq_some_iff.1 hread
    obtain rfl := Literal.list.inj hobjects
    exact ⟨rs, hrs, hdescribes⟩
  · rintro ⟨rs, hrs, hdescribes⟩
    refine ⟨dataText documents, rs.map SearchRecord.object, h, ?_, hdescribes⟩
    rw [ofJson?_dataText, hrs, Option.map_some]

end Html

/-- **The data to search.** The scripts of the index page give the documents back exactly if their
names, places and descriptions have plain characters only. -/
theorem roundTrips_iff (look : Appearance) (x : Index) :
    (Html.RoundTrips "searchDataInternal" (indexPage look x) x.internal ↔
      ∀ d ∈ x.internal, d.IsPlain) ∧
    (Html.RoundTrips "searchDataExternal" (indexPage look x) x.external ↔
      ∀ d ∈ x.external, d.IsPlain) :=
  ⟨Html.roundTrips_of_scriptText? (Html.scriptText?_indexPage look x).1,
    Html.roundTrips_of_scriptText? (Html.scriptText?_indexPage look x).2⟩

/-- A document of one task with the given description. -/
def describedDocument (description : String) : DocumentInfo where
  filePath := ⟨.slash, ["p", "a.wdl"]⟩
  relativePath := ⟨.relative, ["a.wdl"]⟩
  tasks := [{ name := "t", description := some description }]

/-- With a description of two lines, the data is no JSON text; a description with quotation marks is
read in the form that it has on the page. -/
theorem special_descriptions_lost :
    (∃ text, Html.scriptText? "searchDataInternal"
        (indexPage {} ⟨[describedDocument "a\nb"], []⟩) = some text ∧
      Literal.ofJson? text = none) ∧
    ¬ Html.RoundTrips "searchDataInternal" (indexPage {} ⟨[describedDocument "\"a\""], []⟩)
      [describedDocument "\"a\""] := by
  constructor
  · have hnone : (Html.searchRecord? (describedDocument "a\nb")).isNone = true := by decide
    refine ⟨_, (Html.scriptText?_indexPage {} _).1, ?_⟩
    have hinternal : Index.internal ⟨[describedDocument "a\nb"], []⟩ =
        [describedDocument "a\nb"] := rfl
    rw [hinternal, Html.ofJson?_dataText, List.mapM_cons, Option.isNone_iff_eq_none.1 hnone]
    rfl
  · have hscript := (Html.scriptText?_indexPage {} ⟨[describedDocument "\"a\""], []⟩).1
    intro h
    have hplain := (Html.roundTrips_of_scriptText? hscript).1 h _ List.mem_cons_self
    exact absurd (hplain "\"a\"" (by decide) '"' (by decide)) (by decide)

end WorkflowDocs
