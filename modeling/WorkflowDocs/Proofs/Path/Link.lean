import WorkflowDocs.Calls.CallList
import WorkflowDocs.Project.Discovery
import WorkflowDocs.Proofs.Path.Placement
import WorkflowDocs.Proofs.Path.Text

/-!
# Links between places

A link to an imported source is written as a text: the place of the source, with every `.wdl` in it
replaced, behind as many steps up as there are directories above the page. Reading it back gives the
names of the place, each with its `.wdl` replaced, wherever these stand in the name.

## Main definitions

* `Path.linkName`: a name as it stands in a link
* `Path.normalNames`: the names of the normal form of a relative path
* `Path.NamesFile`: paths that name a file

## Main results

* `Path.linkName_eq_self_iff`, `Path.linkName_eq_page_iff`: the names that a link keeps, and those
  of which it gives the page
* `Path.normalNames_map`: normal forms depend on double dots and `external` only
* `Path.NamesFile.exists_page`: a source at a place that names a file has a page
* `Path.exists_text_page`: how the text of a page ends
* `Path.ofText_relativeLink`: a link read back
-/

namespace WorkflowDocs.Path

/-! ## Names in links -/

/-- A name as it stands in a link: with every `.wdl` replaced. -/
def linkName (name : String) : String :=
  Text.replaceAll ".wdl" ".html" name

theorem toList_linkName (name : String) :
    (linkName name).toList =
      Text.replaceChars ['.', 'w', 'd', 'l'] ['.', 'h', 't', 'm', 'l'] 0 name.toList :=
  String.toList_ofList

/-- Only a name in which nothing is replaced can be one without `.html`. -/
theorem linkName_eq_iff {name other : String} (hfresh : ¬ ".html".toList <:+: other.toList)
    (hsame : linkName other = other) : linkName name = other ↔ name = other := by
  refine ⟨fun h => ?_, fun h => by rw [h, hsame]⟩
  rcases Text.replaceChars_eq_self_or ['.', 'w', 'd', 'l'] ['.', 'h', 't', 'm', 'l'] name.toList
    with hself | hinfix
  · rw [← toList_linkName, h] at hself
    exact (String.toList_inj.1 hself).symm
  · rw [← toList_linkName, h] at hinfix
    exact absurd hinfix hfresh

theorem linkName_eq_external_iff {name : String} :
    linkName name = externalName ↔ name = externalName :=
  linkName_eq_iff (by decide) (by decide)

theorem linkName_eq_empty_iff {name : String} : linkName name = "" ↔ name = "" :=
  linkName_eq_iff (by decide) (by decide)

theorem linkName_eq_dots_iff {name : String} : linkName name = ".." ↔ name = ".." :=
  linkName_eq_iff (by decide) (by decide)

/-- A link has no `.wdl` left in it. -/
theorem not_infix_linkName (name : String) : ¬ ".wdl".toList <:+: (linkName name).toList := by
  have hsuffix : ".wdl".toList = ['.', 'w', 'd', 'l'] := by decide
  rw [hsuffix, toList_linkName]
  exact Text.not_infix_replaceChars (by decide) (by decide) (fun rest => by simp) name.toList

/-- A link keeps the names without `.wdl`. -/
theorem linkName_eq_self_iff {name : String} :
    linkName name = name ↔ ¬ ".wdl".toList <:+: name.toList := by
  constructor
  · intro h
    rw [← h]
    exact not_infix_linkName name
  · intro h
    rw [← String.toList_inj, toList_linkName]
    exact Text.replaceChars_of_not_infix h _

theorem mem_replaceChars {old new cs : List Char} {c : Char} {k : Nat}
    (h : c ∈ Text.replaceChars old new k cs) : c ∈ new ∨ c ∈ cs := by
  induction cs generalizing k with
  | nil => cases k <;> exact absurd h List.not_mem_nil
  | cons x cs ih =>
    cases k with
    | succ k => exact (ih h).imp_right (List.mem_cons_of_mem _)
    | zero =>
      rw [Text.replaceChars] at h
      split at h
      · rcases List.mem_append.1 h with hnew | hrest
        · exact .inl hnew
        · exact (ih hrest).imp_right (List.mem_cons_of_mem _)
      · rcases List.mem_cons.1 h with rfl | hrest
        · exact .inr List.mem_cons_self
        · exact (ih hrest).imp_right (List.mem_cons_of_mem _)

theorem Spelled.map_linkName {names : List String} (h : Spelled names) :
    Spelled (names.map linkName) := by
  intro name hname
  obtain ⟨source, hsource, rfl⟩ := List.mem_map.1 hname
  obtain ⟨hisName, hslash⟩ := h source hsource
  refine ⟨?_, fun hmem => ?_⟩
  · have hdot : linkName source = "." ↔ source = "." := linkName_eq_iff (by decide) (by decide)
    simpa [isName, linkName_eq_empty_iff, hdot] using hisName
  · rw [toList_linkName] at hmem
    exact (mem_replaceChars hmem).elim (by decide) hslash

/-! ## The ending of a name in a link -/

/-- A name is not divided, or before its last dot. -/
theorem splitName_cases (name : String) :
    splitName name = (name, "") ∨
      ∃ front tail, '.' ∉ tail ∧ name.toList = front ++ '.' :: tail ∧
        splitName name = (String.ofList front, String.ofList ('.' :: tail)) := by
  by_cases hdot : '.' ∈ name.toList
  · obtain ⟨front, hfront⟩ := exists_append_takeWhile hdot
    have htail : '.' ∉ (name.toList.reverse.takeWhile (· != '.')).reverse := by
      intro hmem
      have hne := List.mem_takeWhile_imp (List.mem_reverse.1 hmem)
      simp at hne
    unfold splitName
    dsimp only
    generalize (name.toList.reverse.takeWhile (· != '.')).reverse = tail at hfront htail ⊢
    split
    · refine .inr ⟨front, tail, htail, hfront, ?_⟩
      have hstem : name.toList.length - tail.length - 1 = front.length := by
        rw [hfront, List.length_append, List.length_cons]
        omega
      rw [hstem, hfront, List.take_left]
    · exact .inl rfl
  · refine .inl ?_
    have hall : name.toList.reverse.takeWhile (· != '.') = name.toList.reverse :=
      List.takeWhile_eq_self_iff.2 fun c hc => by
        simpa using ne_of_mem_of_not_mem (List.mem_reverse.1 hc) hdot
    simp [splitName, hall]

/-- A link is written in front of the last dot and behind it. -/
theorem linkName_append {stem ending : String} {tail : List Char}
    (hending : ending.toList = '.' :: tail) :
    linkName (stem ++ ending) = linkName stem ++ linkName ending := by
  rw [← String.toList_inj, toList_linkName, String.toList_append, String.toList_append,
    toList_linkName, toList_linkName, hending, Text.replaceChars_append_start (by decide)]

/-- The extensions that a link turns into the one of pages. If the only dot is the first character,
what is replaced begins there. -/
theorem linkName_extension_iff {ending : String} {tail : List Char} (htail : '.' ∉ tail)
    (hending : ending.toList = '.' :: tail) :
    linkName ending = pageSuffix ↔ ending = ".wdl" ∨ ending = pageSuffix := by
  constructor
  · intro h
    by_cases hinfix : ".wdl".toList <:+: ending.toList
    · refine .inl ?_
      have hsuffix : ".wdl".toList = ['.', 'w', 'd', 'l'] := by decide
      have hpage : pageSuffix.toList = ['.', 'h', 't', 'm', 'l'] := by decide
      have hbegins : ['.', 'w', 'd', 'l'] <+: '.' :: tail := by
        rw [hsuffix, hending, List.infix_cons_iff] at hinfix
        exact hinfix.resolve_right fun hlater => htail (hlater.subset (by decide))
      obtain ⟨rest, hrest⟩ := hbegins
      obtain rfl : 'w' :: 'd' :: 'l' :: rest = tail := (List.cons.inj hrest).2
      have hfree : ¬ ['.', 'w', 'd', 'l'] <:+: rest := fun hlater =>
        htail (List.mem_cons_of_mem _ (List.mem_cons_of_mem _ (List.mem_cons_of_mem _
          (hlater.subset (by decide)))))
      have hdrop : ('w' :: 'd' :: 'l' :: rest).drop (['.', 'w', 'd', 'l'].length - 1) = rest := rfl
      rw [← String.toList_inj, toList_linkName, hending,
        Text.replaceChars_of_begins ⟨rest, rfl⟩, hpage, List.append_right_eq_self, hdrop,
        Text.replaceChars_of_not_infix hfree] at h
      rw [← String.toList_inj, hending, h, hsuffix]
    · refine .inr ?_
      rw [← h, linkName_eq_self_iff.2 hinfix]
  · rintro (rfl | rfl)
    · decide
    · decide

/-- The link to a page is right for the sources, and for what is named like a page, if there is no
other `.wdl` in the name. A name that is not divided gets the extension of pages, and a link does
not add to it. -/
theorem linkName_eq_page_iff (name : String) :
    linkName name = (splitName name).1 ++ pageSuffix ↔
      ¬ ".wdl".toList <:+: (splitName name).1.toList ∧
        ((splitName name).2 = ".wdl" ∨ (splitName name).2 = pageSuffix) := by
  have hstem : linkName name = (splitName name).1 ++ pageSuffix →
      ¬ ".wdl".toList <:+: (splitName name).1.toList := by
    intro h hinfix
    refine not_infix_linkName name ?_
    rw [h, String.toList_append]
    exact hinfix.trans (List.prefix_append _ _).isInfix
  rcases splitName_cases name with hwhole | ⟨front, tail, htail, hname, hsplit⟩
  · simp only [hwhole] at hstem ⊢
    constructor
    · intro h
      rw [linkName_eq_self_iff.2 (hstem h)] at h
      exact absurd (String.append_eq_left_iff.1 h.symm) (by decide)
    · rintro ⟨-, hending | hending⟩
      · exact absurd hending (by decide)
      · exact absurd hending (by decide)
  · have hending : (String.ofList ('.' :: tail)).toList = '.' :: tail := String.toList_ofList
    have hparts : name = String.ofList front ++ String.ofList ('.' :: tail) := by
      rw [← String.ofList_append, ← hname, String.ofList_toList]
    have hlink : linkName name =
        linkName (String.ofList front) ++ linkName (String.ofList ('.' :: tail)) := by
      rw [← linkName_append hending, ← hparts]
    simp only [hsplit] at hstem ⊢
    rw [← linkName_extension_iff htail hending]
    constructor
    · intro h
      have hfree := hstem h
      refine ⟨hfree, ?_⟩
      rw [hlink, linkName_eq_self_iff.2 hfree] at h
      exact (String.append_right_inj _).1 h
    · rintro ⟨hfree, hextension⟩
      rw [hlink, linkName_eq_self_iff.2 hfree, hextension]

/-- A link has no name left that is divided before `.wdl`. -/
theorem suffix_linkName_ne (name : String) : (splitName (linkName name)).2 ≠ ".wdl" := by
  intro h
  rcases splitName_cases (linkName name) with hwhole | ⟨front, tail, -, hname, hsplit⟩
  · simp only [hwhole] at h
    exact absurd h (by decide)
  · rw [hsplit] at h
    refine not_infix_linkName name ?_
    rw [← h, hname, String.toList_ofList]
    exact (List.suffix_append _ _).isInfix

/-! ## Normal forms -/

/-- The names of the normal form of a relative path. -/
def normalNames (names : List String) : List String :=
  if names.contains externalName then names.dropWhile (· != externalName)
  else if (collapse names).isEmpty then names
  else collapse names

theorem normalNames_subset {names : List String} {name : String} (h : name ∈ normalNames names) :
    name ∈ names := by
  unfold normalNames at h
  split at h
  · exact (List.dropWhile_suffix _).subset h
  · split at h
    · exact h
    · exact collapse_subset h

theorem normalNames_ne_nil {names : List String} (h : names ≠ []) : normalNames names ≠ [] := by
  unfold normalNames
  split
  · rename_i hexternal
    obtain ⟨before, after, rfl, hfirst⟩ :=
      List.eq_append_cons_of_mem (List.contains_iff_mem.1 hexternal)
    rw [dropWhile_external hfirst]
    exact List.cons_ne_nil _ _
  · split
    · exact h
    · rename_i hleft
      simpa using hleft

theorem normalize_relative {names : List String} (h : ∀ name ∈ names, '/' ∉ name.toList) :
    normalize ⟨.relative, names⟩ = ⟨.relative, normalNames names⟩ := by
  have hparts : parts ⟨.relative, names⟩ = names := rfl
  rw [normalize, normalNames, hparts]
  split
  · exact ofParts_of_no_slash fun name hname => h name ((List.dropWhile_suffix _).subset hname)
  · split
    · rfl
    · exact ofParts_of_no_slash fun name hname => h name (collapse_subset hname)

theorem collapseOnto_map {f : String → String} (hf : ∀ name, f name = ".." ↔ name = "..")
    (kept names : List String) :
    collapseOnto (kept.map f) (names.map f) = (collapseOnto kept names).map f := by
  induction names generalizing kept with
  | nil => rw [List.map_nil, collapseOnto, collapseOnto, List.map_reverse]
  | cons name names ih =>
    rw [List.map_cons, collapseOnto, collapseOnto]
    by_cases hname : name = ".."
    · rw [if_pos ((hf name).2 hname), if_pos hname, ← List.map_tail, ih]
    · rw [if_neg (mt (hf name).1 hname), if_neg hname, ← List.map_cons, ih]

/-- Normal forms depend only on where double dots and `external` stand. -/
theorem normalNames_map {f : String → String} (hdots : ∀ name, f name = ".." ↔ name = "..")
    (hexternal : ∀ name, f name = externalName ↔ name = externalName) (names : List String) :
    normalNames (names.map f) = (normalNames names).map f := by
  have hcollapse : collapse (names.map f) = (collapse names).map f :=
    collapseOnto_map hdots [] names
  have hcontains : (names.map f).contains externalName = names.contains externalName := by
    rw [Bool.eq_iff_iff, List.contains_iff_mem, List.contains_iff_mem, List.mem_map]
    simp only [hexternal, exists_eq_right]
  have hne : ((· != externalName) ∘ f) = (· != externalName) := by
    funext name
    rw [Bool.eq_iff_iff]
    simp [hexternal]
  rw [normalNames, normalNames, hcollapse, hcontains, List.isEmpty_map, List.dropWhile_map, hne]
  split
  · rfl
  · split <;> rfl

/-! ## Places with a page -/

/-- Paths that name a file: the names can be written, and there is a last one. A step up at the end
of a path from a root may lead to the root, so such paths do not end in one. -/
structure NamesFile (p : Path) : Prop where
  spelled : Spelled p.names
  ne_nil : p.names ≠ []
  down : p.root = .relative ∨ p.name ≠ ".."

instance (p : Path) : Decidable p.NamesFile :=
  decidable_of_iff (Spelled p.names ∧ p.names ≠ [] ∧ (p.root = .relative ∨ p.name ≠ ".."))
    ⟨fun h => ⟨h.1, h.2.1, h.2.2⟩, fun h => ⟨h.spelled, h.ne_nil, h.down⟩⟩

theorem name_ne_empty_of_spelled {p : Path} (h : Spelled p.names) (hne : p.names ≠ []) :
    p.name ≠ "" := by
  intro hempty
  rw [name, List.getLast?_eq_some_getLast hne, Option.getD_some] at hempty
  have hlast := (h _ (List.getLast_mem hne)).1
  rw [hempty] at hlast
  exact absurd hlast (by decide)

theorem name_ofParts_concat {last : String} (h : '/' ∉ last.toList) (parts : List String) :
    (ofParts (parts ++ [last])).name = last := by
  have hslash : ofParts [last] = ⟨.relative, [last]⟩ :=
    ofParts_of_no_slash fun name hname => List.mem_singleton.1 hname ▸ h
  cases parts with
  | nil => rw [List.nil_append, hslash]; rfl
  | cons part parts =>
    rw [List.cons_append, ofParts]
    split
    · simp [name]
    · split
      · simp [name]
      · rw [name, ← List.cons_append, List.getLast?_concat, Option.getD_some]

/-- A normal form keeps the last part, unless that is a step up. -/
theorem exists_normalize_eq {p : Path} {front : List String} {last : String}
    (hparts : p.parts = front ++ [last]) (hlast : last ≠ "..") :
    ∃ kept, p.normalize = ofParts (kept ++ [last]) := by
  by_cases hexternal : externalName ∈ p.parts
  · obtain ⟨before, after, hsplit, hfirst⟩ := List.eq_append_cons_of_mem hexternal
    rw [normalize_of_external hsplit hfirst]
    rcases List.eq_nil_or_concat' after with rfl | ⟨after, last', rfl⟩
    · obtain ⟨-, hone⟩ := List.append_inj' (hsplit.symm.trans hparts) rfl
      exact ⟨[], by rw [hone, List.nil_append]⟩
    · rw [← List.cons_append, ← List.append_assoc] at hsplit
      obtain ⟨-, hone⟩ := List.append_inj' (hsplit.symm.trans hparts) rfl
      exact ⟨externalName :: after, by rw [hone, List.cons_append]⟩
  · have hcollapse : collapse p.parts = collapse front ++ [last] := by
      rw [hparts]
      exact collapse_append_of_not_mem front (by simpa using Ne.symm hlast)
    rw [normalize, if_neg (by simpa using hexternal), hcollapse, if_neg (by simp)]
    exact ⟨collapse front, rfl⟩

/-- A source at a place that names a file has a page. -/
theorem NamesFile.exists_page {p : Path} (h : p.NamesFile) : ∃ page, page? p = some page := by
  suffices hname : p.normalize.name ≠ "" from ⟨_, by rw [page?, withSuffix?, if_neg hname]⟩
  obtain ⟨root, names⟩ := p
  rcases h.down with hrelative | hdown
  · obtain rfl : root = .relative := hrelative
    rw [normalize_relative fun name hname => (h.spelled name hname).2]
    exact name_ne_empty_of_spelled (fun name hname => h.spelled name (normalNames_subset hname))
      (normalNames_ne_nil h.ne_nil)
  · obtain ⟨dir, last, rfl⟩ := (List.eq_nil_or_concat' names).resolve_left h.ne_nil
    have hlast := name_concat root dir last
    have hparts : ∃ front, parts ⟨root, dir ++ [last]⟩ = front ++ [last] := by
      rw [parts]
      split
      · exact ⟨dir, rfl⟩
      · exact ⟨root.text :: dir, rfl⟩
    obtain ⟨front, hparts⟩ := hparts
    obtain ⟨kept, hnormal⟩ := exists_normalize_eq hparts (hlast ▸ hdown)
    have hslash : '/' ∉ last.toList := (h.spelled last (by simp)).2
    rw [hnormal, name_ofParts_concat hslash, ← hlast]
    exact name_ne_empty_of_spelled h.spelled h.ne_nil

theorem exists_joinWith_concat (sep last : String) (front : List String) :
    ∃ start, Text.joinWith sep (front ++ [last]) = start ++ last := by
  induction front with
  | nil => exact ⟨"", by rw [List.nil_append, Text.joinWith, String.empty_append]⟩
  | cons name front ih =>
    obtain ⟨start, hstart⟩ := ih
    have hjoin : Text.joinWith sep (name :: (front ++ [last])) =
        name ++ sep ++ Text.joinWith sep (front ++ [last]) := by
      cases front <;> rfl
    refine ⟨name ++ sep ++ start, ?_⟩
    rw [List.cons_append, hjoin, hstart]
    exact String.append_assoc.symm

/-- The text of a page ends like a page. -/
theorem exists_text_page {p page : Path} (h : page? p = some page) :
    ∃ start, page.text = start ++ pageSuffix := by
  rw [page?, withSuffix?] at h
  split at h
  · cases h
  · obtain rfl := Option.some.inj h
    obtain ⟨start, hstart⟩ :=
      exists_joinWith_concat "/" (p.normalize.stem ++ pageSuffix) p.normalize.names.dropLast
    refine ⟨p.normalize.root.text ++ (start ++ p.normalize.stem), ?_⟩
    rw [text, if_neg (by simp), hstart]
    simp only [String.append_assoc]

/-! ## Links -/

/-- The text of a link to a relative place is that of the path with the names as they stand in the
link. -/
theorem pageText_relative (names : List String) :
    Calls.pageText ⟨.relative, names⟩ = text ⟨.relative, names.map linkName⟩ := by
  by_cases hempty : names = []
  · subst hempty
    decide
  · have htext : text ⟨.relative, names⟩ = Text.joinWith "/" names := by
      simp [text, hempty, Root.text]
    have htext' : text ⟨.relative, names.map linkName⟩ =
        Text.joinWith "/" (names.map linkName) := by
      simp [text, hempty, Root.text]
    rw [Calls.pageText, htext, htext', slash_eq,
      Text.replaceAll_joinWith (by decide) (by decide)]
    rfl

/-- No `.wdl` is left at the end of the names in a link, so it leads to the page itself. -/
theorem linkedPage_map_linkName (root : Root) (names : List String) :
    linkedPage ⟨root, names.map linkName⟩ = ⟨root, names.map linkName⟩ := by
  have hname : (Path.mk root (names.map linkName)).name = linkName (names.getLast?.getD "") := by
    rw [name, List.getLast?_map]
    cases names.getLast? with
    | none => decide
    | some last => rfl
  rw [linkedPage, suffix, hname, if_neg (suffix_linkName_ne _)]

theorem pageText_ne_empty {place : Path} (h : place.root = .relative → Spelled place.names) :
    Calls.pageText place ≠ "" :=
  fun hempty => text_ne_empty h (linkName_eq_empty_iff.1 hempty)

/-- A link to a place in normal form, read back. -/
theorem ofText_relativeLink {names : List String} (hspelled : Spelled names)
    (hnormal : normalNames names = names) (source : Path) :
    ofText (relativeLink (ofText (Calls.pageText ⟨.relative, names⟩)) source) =
      ⟨.relative, List.replicate source.normalize.parent.parts.length ".." ++
        names.map linkName⟩ := by
  have hlink := hspelled.map_linkName
  have htarget : ofText (Calls.pageText ⟨.relative, names⟩) = ⟨.relative, names.map linkName⟩ := by
    rw [pageText_relative, ofText_text hlink]
  have hnormal' : normalize ⟨.relative, names.map linkName⟩ = ⟨.relative, names.map linkName⟩ := by
    rw [normalize_relative fun name hname => (hlink name hname).2,
      normalNames_map (fun name => linkName_eq_dots_iff) (fun name => linkName_eq_external_iff),
      hnormal]
  have hread : ofText (text ⟨.relative, names.map linkName⟩) = ⟨.relative, names.map linkName⟩ :=
    ofText_text hlink
  rw [relativeLink, htarget, hnormal', linkedPage_map_linkName, ofText_climb (by rw [hread]), hread]

end WorkflowDocs.Path
