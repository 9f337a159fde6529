import WorkflowDocs.Proofs.Site.Callers
import WorkflowDocs.Proofs.Site.Confinement
import WorkflowDocs.Proofs.Site.Links

/-!
# Links between pages

A link from one page to another goes up to the top of the site and down from there. How far it goes
up is counted in two ways: by the directories above the page, for the links to pages, and by the
parts of its place, for the way to the top. Both are the depth of the page for a place that is
relative and has no double dots, so that whatever the link goes on with is reached from the top.

The callers of a workflow are linked to by the text of their pages. That a page is read back from
its text, and is left alone when it is brought to its normal form and turned into a page once more,
takes that its name ends like a page.

## Main definitions

* `Path.followed`: where a link leads from a directory
* `Path.HasPlace`: paths with a place in the site

## Main results

* `Path.followed_relativeLink`: a link to a path leads to its place
* `Path.HasPlace.of_page?`: a page has itself as its place
* `SiteJob.linkedFile_relativeLink`: where a link leads in a site
* `SiteJob.links_between_pages`: links lead to the pages of callers, and to the index
-/

namespace WorkflowDocs

namespace Path

/-- Where a link leads from a directory, by its text alone. -/
def followed (dir : Path) (link : String) : Path :=
  ⟨(dir.join (ofText link)).root, collapse (dir.join (ofText link)).names⟩

/-- Relative paths with names that can be written and no double dots in their normal form. -/
structure HasPlace (p : Path) : Prop where
  relative : p.root = .relative
  spelled : Spelled p.names
  down : ".." ∉ p.normalize.names

instance (p : Path) : Decidable p.HasPlace :=
  decidable_of_iff (p.root = .relative ∧ Spelled p.names ∧ ".." ∉ p.normalize.names)
    ⟨fun h => ⟨h.1, h.2.1, h.2.2⟩, fun h => ⟨h.relative, h.spelled, h.down⟩⟩

theorem HasPlace.normalize_eq {p : Path} (h : p.HasPlace) :
    p.normalize = ⟨.relative, normalNames p.names⟩ := by
  obtain ⟨root, names⟩ := p
  obtain rfl : root = .relative := h.relative
  exact normalize_relative fun name hname => (h.spelled name hname).2

theorem HasPlace.spelled_normalize {p : Path} (h : p.HasPlace) : Spelled p.normalize.names := by
  rw [h.normalize_eq]
  exact fun name hname => h.spelled name (normalNames_subset hname)

/-! ## Pages as places -/

/-- Names without double dots are normal exactly if nothing stands before a directory `external`. -/
theorem normalNames_eq_self_iff {names : List String} (h : ".." ∉ names) :
    normalNames names = names ↔
      (externalName ∈ names → names.head? = some externalName) := by
  rw [normalNames, collapse_of_not_mem h, ite_self]
  by_cases hexternal : externalName ∈ names
  · rw [if_pos (by simpa using hexternal), List.dropWhile_eq_self_iff]
    cases names with
    | nil => exact absurd hexternal List.not_mem_nil
    | cons name names => simp [hexternal]
  · rw [if_neg (by simpa using hexternal)]
    exact iff_of_true rfl fun hmem => absurd hmem hexternal

theorem mem_of_mem_stem {name : String} {c : Char} (h : c ∈ (splitName name).1.toList) :
    c ∈ name.toList := by
  rcases splitName_cases name with hwhole | ⟨front, tail, -, hname, hsplit⟩
  · rwa [hwhole] at h
  · rw [hsplit, String.toList_ofList] at h
    rw [hname]
    exact List.mem_append_left _ h

theorem toList_pageSuffix : pageSuffix.toList = ['.', 'h', 't', 'm', 'l'] := by decide

/-- The name of a page can be written. -/
theorem isName_page (stem : String) : isName (stem ++ pageSuffix) = true := by
  have hlength : 5 ≤ (stem ++ pageSuffix).toList.length := by
    rw [String.toList_append, toList_pageSuffix, List.length_append]
    exact Nat.le_add_left _ _
  have hne : ∀ s : String, s.toList.length < 5 → stem ++ pageSuffix ≠ s := by
    rintro s hs rfl
    omega
  simp [isName, hne "" (by decide), hne "." (by decide)]

/-- The name of a page does not have the extension of sources. -/
theorem suffix_page_ne (stem : String) : (splitName (stem ++ pageSuffix)).2 ≠ ".wdl" := by
  intro h
  rcases splitName_cases (stem ++ pageSuffix) with hwhole | ⟨front, tail, -, hname, hsplit⟩
  · rw [hwhole] at h
    exact absurd (show "" = ".wdl" from h) (by decide)
  · rw [hsplit] at h
    change String.ofList ('.' :: tail) = ".wdl" at h
    have hsource : ['.', 'w', 'd', 'l'] <:+ (stem ++ pageSuffix).toList := by
      have htail : '.' :: tail = ['.', 'w', 'd', 'l'] := by
        rw [← @String.toList_ofList ('.' :: tail), h]
        decide
      rw [hname, htail]
      exact List.suffix_append _ _
    have hpage : ['.', 'h', 't', 'm', 'l'] <:+ (stem ++ pageSuffix).toList := by
      rw [String.toList_append, toList_pageSuffix]
      exact List.suffix_append _ _
    exact absurd (List.suffix_of_suffix_length_le hsource hpage (by decide)) (by decide)

section Page

variable {place page : Path}

theorem spelled_page (hspelled : Spelled place.names)
    (h : place.withSuffix? pageSuffix = some page) : Spelled page.names := by
  obtain ⟨hne, rfl⟩ := withSuffix?_eq_some h
  intro name hname
  rcases List.mem_append.1 hname with hdir | hlast
  · exact hspelled name (List.mem_of_mem_dropLast hdir)
  · rw [List.mem_singleton.1 hlast]
    refine ⟨isName_page _, fun hslash => ?_⟩
    rw [String.toList_append] at hslash
    rcases List.mem_append.1 hslash with hstem | hsuffix
    · have hmem := mem_of_mem_stem hstem
      rw [Path.name, List.getLast?_eq_some_getLast hne, Option.getD_some] at hmem
      exact (hspelled _ (List.getLast_mem hne)).2 hmem
    · exact absurd hsuffix (by decide)

/-- The page of a place in normal form is in normal form: nothing stands before a directory
`external`, and the page itself has another name. -/
theorem normalNames_page (hdown : ".." ∉ place.names)
    (hnormal : normalNames place.names = place.names)
    (h : place.withSuffix? pageSuffix = some page) : normalNames page.names = page.names := by
  have hdown' := down_page hdown h
  rw [normalNames_eq_self_iff hdown] at hnormal
  rw [normalNames_eq_self_iff hdown']
  obtain ⟨-, rfl⟩ := withSuffix?_eq_some h
  intro hmem
  have hname : externalName ≠ place.stem ++ pageSuffix := by
    intro heq
    have hlast : ['.', 'h', 't', 'm', 'l'] <:+ externalName.toList := by
      rw [heq, String.toList_append, toList_pageSuffix]
      exact List.suffix_append _ _
    exact absurd hlast (by decide)
  have hdir : externalName ∈ place.names.dropLast :=
    (List.mem_append.1 hmem).resolve_right (by simpa using hname)
  have hhead := hnormal (List.mem_of_mem_dropLast hdir)
  obtain ⟨first, rest, hfirst⟩ := List.exists_cons_of_ne_nil (List.ne_nil_of_mem hdir)
  have hsame : place.names.head? = place.names.dropLast.head? := by
    rw [List.head?_dropLast, if_pos]
    have hlength := List.length_pos_of_mem hdir
    rw [List.length_dropLast] at hlength
    omega
  rw [hsame, hfirst] at hhead
  rw [hfirst]
  exact hhead

end Page

/-- A page has itself as its place, and is not turned into another page. -/
theorem HasPlace.of_page? {p page : Path} (h : p.HasPlace) (hpage : page? p = some page) :
    page.HasPlace ∧ page.normalize = page ∧ linkedPage page = page := by
  have hspelled := spelled_page h.spelled_normalize hpage
  have hdown := down_page h.down hpage
  have hnormal : page.normalize = page := by
    have hfixed := normalize_normalize p
    rw [h.normalize_eq, normalize_relative fun name hname =>
      (h.spelled name (normalNames_subset hname)).2] at hfixed
    have hnames := normalNames_page h.down (h.normalize_eq ▸ (Path.mk.inj hfixed).2) hpage
    obtain ⟨-, hpath⟩ := withSuffix?_eq_some hpage
    obtain ⟨root, names⟩ := page
    obtain rfl : root = .relative := by rw [(Path.mk.inj hpath).1, h.normalize_eq]
    rw [normalize_relative fun name hname => (hspelled name hname).2, hnames]
  refine ⟨⟨?_, hspelled, hnormal.symm ▸ hdown⟩, hnormal, ?_⟩
  · obtain ⟨-, rfl⟩ := withSuffix?_eq_some hpage
    rw [h.normalize_eq]
  · obtain ⟨-, rfl⟩ := withSuffix?_eq_some hpage
    rw [linkedPage, if_neg]
    rw [suffix, name_concat]
    exact suffix_page_ne _

/-! ## Links -/

/-- What a link leads to: the page of a source, and any other path itself. -/
theorem linkedPage_cases (place : Path) (hspelled : Spelled place.names) :
    if place.suffix = ".wdl" then place.withSuffix? pageSuffix = some (linkedPage place)
    else linkedPage place = place := by
  rw [linkedPage]
  split
  · rename_i hsuffix
    have hne : place.names ≠ [] := by
      intro hnil
      rw [suffix, name, hnil] at hsuffix
      exact absurd hsuffix (by decide)
    rw [withSuffix?, if_neg (name_ne_empty_of_spelled hspelled hne), Option.getD_some]
  · rfl

/-- A link leads to a path that can be written, without double dots. -/
theorem HasPlace.linkedPage {t : Path} (h : t.HasPlace) :
    (linkedPage t.normalize).root = .relative ∧ Spelled (linkedPage t.normalize).names ∧
      ".." ∉ (linkedPage t.normalize).names := by
  have hcases := linkedPage_cases t.normalize h.spelled_normalize
  split at hcases
  · refine ⟨?_, spelled_page h.spelled_normalize hcases, down_page h.down hcases⟩
    rw [(withSuffix?_eq_some hcases).2, h.normalize_eq]
  · rw [hcases]
    exact ⟨by rw [h.normalize_eq], h.spelled_normalize, h.down⟩

/-- The text of a link leads up from the directory of its page, and then to where it leads. -/
theorem ofText_relativeLink_of_hasPlace {f t : Path} (hf : f.HasPlace) (ht : t.HasPlace) :
    ofText (relativeLink t f) =
      ⟨.relative, List.replicate f.normalize.names.dropLast.length ".." ++
        (Path.linkedPage t.normalize).names⟩ := by
  obtain ⟨hroot, hspelled, -⟩ := ht.linkedPage
  have hread := ofText_text hspelled
  have hdepth : f.normalize.parent.parts.length = f.normalize.names.dropLast.length := by
    rw [hf.normalize_eq]
    rfl
  rw [relativeLink, ofText_climb (by rw [hread, hroot]), hread, hdepth]

/-- **A link to a path leads to its place**, from the directory of the page that it stands on. As
many double dots as directories above the page cancel each other. -/
theorem followed_relativeLink {f t : Path} (hf : f.HasPlace) (ht : t.HasPlace) :
    followed f.normalize.parent (relativeLink t f) = Path.linkedPage t.normalize := by
  obtain ⟨hroot, -, hdown⟩ := ht.linkedPage
  have hdots : ".." ∉ f.normalize.names.dropLast := fun hmem =>
    hf.down (List.mem_of_mem_dropLast hmem)
  have hclimb := collapse_down_up hdots [] (Path.linkedPage t.normalize).names
  rw [followed, ofText_relativeLink_of_hasPlace hf ht, join, if_neg (by simp [isAbsolute]), parent]
  generalize Path.linkedPage t.normalize = target at *
  obtain ⟨root, names⟩ := target
  obtain rfl : root = .relative := hroot
  rw [hf.normalize_eq] at hclimb ⊢
  exact Path.mk.injEq .. ▸ ⟨rfl, hclimb.trans (collapse_of_not_mem hdown)⟩

/-- The way to the top leads up from the directory of its page. -/
theorem ofText_wayToTop {f : Path} (hf : f.HasPlace) :
    ofText (f.wayToTop ++ indexName) =
      ⟨.relative, List.replicate f.normalize.names.dropLast.length ".." ++ [indexName]⟩ := by
  have hdepth : f.normalize.parts.length - 1 = f.normalize.names.dropLast.length := by
    rw [hf.normalize_eq, List.length_dropLast]
    rfl
  rw [wayToTop, hdepth]
  split
  · rename_i htop
    rw [htop]
    decide
  · have hindex : ofText indexName = ⟨.relative, [indexName]⟩ := by decide
    rw [ofText_climb (by rw [hindex]), hindex]

end Path

namespace SiteJob

variable {job : SiteJob} {cwd : Path}

/-- The page of a document is a file in the directory that its links are followed from. -/
theorem exists_pageFile? {d : DocumentInfo} (h : d.relativePath.HasPlace)
    (hne : d.relativePath.names ≠ []) :
    ∃ file, job.pageFile? cwd d = some file ∧
      file.parent = job.pageDir cwd d.relativePath.normalize := by
  have hfile : d.relativePath.NamesFile := ⟨h.spelled, hne, .inl h.relative⟩
  obtain ⟨page, hpage⟩ := hfile.exists_page
  refine ⟨_, by rw [pageFile?, hpage, Option.map_some], ?_⟩
  obtain ⟨-, rfl⟩ := Path.withSuffix?_eq_some hpage
  change (Path.resolve cwd (job.output.join (d.relativePath.normalize.parent.child _))).parent = _
  rw [Path.join_child, Path.resolve_child (pageName_ne_dots _), Path.child, Path.parent_concat,
    pageDir]

/-- In a site a link leads to the place of what it was made for. -/
theorem linkedFile_relativeLink {f t : Path} (hf : f.HasPlace) (ht : t.HasPlace) :
    job.linkedFile cwd f.normalize (Path.relativeLink t f) =
      Path.resolve cwd (job.output.join (Path.linkedPage t.normalize)) := by
  have hrelative : f.normalize.root = .relative := by rw [hf.normalize_eq]
  rw [linkedFile_of_climb hf.down hrelative (Path.ofText_relativeLink_of_hasPlace hf ht),
    ← ht.linkedPage.1]

/-- The link to a caller leads to its page. -/
theorem linkedFile_caller {f : Path} (hf : f.HasPlace) {e : DocumentInfo} {caller : Caller}
    (he : e.relativePath.HasPlace) (hcaller : e.asCaller? = some caller) :
    job.pageFile? cwd e = some (job.linkedFile cwd f.normalize (caller.item f).link) := by
  obtain ⟨page, hpage, rfl⟩ := Option.map_eq_some_iff.1 hcaller
  obtain ⟨hplace, hnormal, hlinked⟩ := he.of_page? hpage
  rw [pageFile?, hpage, Option.map_some, Caller.item, Path.ofText_text hplace.spelled,
    linkedFile_relativeLink hf hplace, hnormal, hlinked]

end SiteJob

/-- The callers of a workflow are the documents that call it and say something else. -/
theorem mem_of_callers? {d : DocumentInfo} {w : WorkflowInfo} {all : List DocumentInfo}
    {callers : List Caller} (hw : d.workflow = some w) (h : callers? d all = some callers) :
    (∀ e ∈ all, e.Calls w.name → e.agrees d = false → ∃ caller ∈ callers,
      e.asCaller? = some caller) ∧
    ∀ caller ∈ callers, ∃ e ∈ all, e.Calls w.name ∧ e.agrees d = false ∧
      e.asCaller? = some caller := by
  rw [callers?, hw] at h
  obtain ⟨hlisted, hsource⟩ := mem_of_mapM_eq_some h
  constructor
  · intro e he hcalls hdiffer
    obtain ⟨c, hc⟩ := List.exists_mem_of_ne_nil _ (DocumentInfo.calls_iff.1 hcalls)
    refine hlisted e (List.mem_flatMap.2 ⟨e, ?_, List.mem_map.2 ⟨c, hc, rfl⟩⟩)
    exact List.mem_filter.2 ⟨he, by simp [hdiffer]⟩
  · intro caller hcaller
    obtain ⟨e, he, hshown⟩ := hsource caller hcaller
    obtain ⟨other, hother, hmem⟩ := List.mem_flatMap.1 he
    obtain ⟨c, hc, rfl⟩ := List.mem_map.1 hmem
    obtain ⟨hin, hdiffer⟩ := List.mem_filter.1 hother
    exact ⟨other, hin, DocumentInfo.calls_iff.2 (List.ne_nil_of_mem hc), by simpa using hdiffer,
      hshown⟩

namespace SiteJob

/-- **Links between pages.** From the directory of the normal form of one path, the link to another
leads to the normal form of that, with the extension of pages in place of that of sources. So for
documents at such places that name files, what the page of a document links to from its own
directory is there: the callers of its workflow are linked to by the files of their pages, each
document that calls it is among them, and the way to the top leads to the index of the site. -/
theorem links_between_pages (job : SiteJob) (cwd : Path) :
    (∀ f t : Path, f.HasPlace → t.HasPlace →
      ∃ target, Path.followed f.normalize.parent (Path.relativeLink t f) = target ∧
        if t.normalize.suffix = ".wdl" then t.normalize.withSuffix? Path.pageSuffix = some target
        else target = t.normalize) ∧
    ∀ (d : DocumentInfo) (all : List DocumentInfo),
      (∀ e ∈ d :: all, e.relativePath.HasPlace ∧ e.relativePath.names ≠ []) →
      (∃ file, job.pageFile? cwd d = some file ∧
        file.parent = job.pageDir cwd d.relativePath.normalize) ∧
      (∀ w, d.workflow = some w → ∃ callers, callers? d all = some callers ∧
        (∀ e ∈ all, e.Calls w.name → e.agrees d = false → ∃ caller ∈ callers,
          job.pageFile? cwd e =
            some (job.linkedFile cwd d.relativePath.normalize (caller.item d.relativePath).link)) ∧
        ∀ caller ∈ callers, ∃ e ∈ all, e.Calls w.name ∧ e.agrees d = false ∧
          job.pageFile? cwd e =
            some (job.linkedFile cwd d.relativePath.normalize
              (caller.item d.relativePath).link)) ∧
      job.linkedFile cwd d.relativePath.normalize (d.relativePath.wayToTop ++ indexName) =
        Path.resolve cwd (job.output.child indexName) := by
  refine ⟨fun f t hf ht => ⟨_, Path.followed_relativeLink hf ht, ?_⟩, fun d all hplaces => ?_⟩
  · exact Path.linkedPage_cases t.normalize ht.spelled_normalize
  obtain ⟨hd, hne⟩ := hplaces d List.mem_cons_self
  refine ⟨exists_pageFile? hd hne, ?_, ?_⟩
  · intro w hw
    have hfiles : ∀ e ∈ all, e.relativePath.NamesFile := fun e he =>
      have hplace := hplaces e (List.mem_cons_of_mem _ he)
      ⟨hplace.1.spelled, hplace.2, .inl hplace.1.relative⟩
    obtain ⟨callers, hcallers⟩ := exists_callers? (havePages_of_namesFile hfiles) d
    obtain ⟨hlisted, hsource⟩ := mem_of_callers? hw hcallers
    refine ⟨callers, hcallers, fun e he hcalls hdiffer => ?_, fun caller hcaller => ?_⟩
    · obtain ⟨caller, hcaller, hshown⟩ := hlisted e he hcalls hdiffer
      exact ⟨caller, hcaller,
        linkedFile_caller hd (hplaces e (List.mem_cons_of_mem _ he)).1 hshown⟩
    · obtain ⟨e, he, hcalls, hdiffer, hshown⟩ := hsource caller hcaller
      exact ⟨e, he, hcalls, hdiffer,
        linkedFile_caller hd (hplaces e (List.mem_cons_of_mem _ he)).1 hshown⟩
  · have hrelative : d.relativePath.normalize.root = .relative := by rw [hd.normalize_eq]
    rw [linkedFile_of_climb hd.down hrelative (Path.ofText_wayToTop hd)]
    rfl

/-- A workflow deep in a library, which a document at the top calls. -/
def libraryCallers : List DocumentInfo :=
  [callingDocument "main.wdl" "main" [subCall none],
   callingDocument "lib/../tools/external/qc/sub.wdl" "sub" []]

theorem links_between_pages_library :
    (∀ e ∈ libraryCallers, e.relativePath.HasPlace ∧ e.relativePath.names ≠ []) ∧
    (∃ callers, callers? (callingDocument "lib/../tools/external/qc/sub.wdl" "sub" [])
        libraryCallers = some callers ∧
      ∃ caller ∈ callers, freshSite.linkedFile ⟨.slash, []⟩ (Path.ofText "external/qc/sub.wdl")
        (caller.item (Path.ofText "lib/../tools/external/qc/sub.wdl")).link =
          ⟨.slash, ["out", "main.html"]⟩) ∧
    freshSite.linkedFile ⟨.slash, []⟩ (Path.ofText "external/qc/sub.wdl")
      ((Path.ofText "lib/../tools/external/qc/sub.wdl").wayToTop ++ indexName) =
        ⟨.slash, ["out", indexName]⟩ := by
  have hplaces : ∀ e ∈ libraryCallers, e.relativePath.HasPlace ∧ e.relativePath.names ≠ [] := by
    decide +kernel
  obtain ⟨-, hcallers, htop⟩ := (links_between_pages freshSite ⟨.slash, []⟩).2
    (callingDocument "lib/../tools/external/qc/sub.wdl" "sub" []) libraryCallers
    (List.forall_mem_cons.2 ⟨hplaces _ (.tail _ (.head _)), hplaces⟩)
  obtain ⟨callers, hshown, hlisted, -⟩ := hcallers { name := "sub" } rfl
  obtain ⟨caller, hcaller, hlink⟩ := hlisted _ (.head _) (by decide) (by decide)
  have hnormal : (Path.ofText "lib/../tools/external/qc/sub.wdl").normalize =
      Path.ofText "external/qc/sub.wdl" := by decide +kernel
  refine ⟨hplaces, ⟨callers, hshown, caller, hcaller, ?_⟩, ?_⟩
  · rw [← hnormal]
    exact Option.some.inj (hlink.symm.trans (by decide +kernel))
  · rw [← hnormal]
    exact htop.trans (by decide)

end SiteJob

end WorkflowDocs
