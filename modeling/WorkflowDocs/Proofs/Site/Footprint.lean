import WorkflowDocs.Proofs.Site.Completion

/-!
# What making a site leaves behind

A complete site is told by each place of the tree: what was written there last, a directory on the
way to a page, a file that all pages use, the logo, or what was there before. Making the site once
more takes the directory of the shared files away and copies them again, finds the same logo, and
writes the same pages in the same order, so that nothing changes.

The one thing that a second run may find otherwise is the logo. Its path can lead through a
directory that is only there once a page was stored in it.

## Main definitions

* `SiteJob.siteWrites?`: the pages, the index and the image inventory with their contents
* `SiteJob.siteAt?`: what stands at a place when the site is complete

## Main results

* `SiteJob.run_pageSteps_stores`, `SiteJob.run_overviewSteps_stores`: complete steps store the pages
* `SiteJob.exists_of_generate`: what a complete site consists of
* `SiteJob.generate_footprint`: what changes in the tree, and that it changes once only
* `SiteJob.logo_through_page_directory`: a logo that is found the second time only
-/

namespace WorkflowDocs.SiteJob

open FileTree (run Stores StoresAll lastWritten storedAt? wayAt? wayAt?_of_mem wayAt?_of_not_mem
  waysTo)

variable {job : SiteJob} {cwd : Path} {look : Appearance} {documents all : List DocumentInfo}
  {failures : List ParseFailure} {t t' shared base : FileTree}
  {files : List (Path × ByteArray)} {q : Place}

/-! ## The files of a site -/

/-- The page of a document with its content. -/
def pageWrite? (job : SiteJob) (look : Appearance) (all : List DocumentInfo) (d : DocumentInfo) :
    Option (Path × ByteArray) :=
  match documentPage look d all with
  | .ok page => some (job.output.join page.path, page.content.render.toUTF8)
  | .error _ => none

/-- The pages of the documents in their order, then the index and the image inventory, with their
contents. -/
def siteWrites? (job : SiteJob) (look : Appearance) (documents : List DocumentInfo)
    (failures : List ParseFailure) : Option (List (Path × ByteArray)) := do
  let pages ← documents.mapM (job.pageWrite? look documents)
  let inventory ← inventory? documents
  return pages ++
    [(job.output.child indexName, (indexPage look ⟨documents, failures⟩).render.toUTF8),
      (job.output.child inventoryName, (inventoryPage look inventory).render.toUTF8)]

theorem pageWrite?_path {d : DocumentInfo} {x : Path × ByteArray}
    (h : job.pageWrite? look all d = some x) :
    (Path.page? d.relativePath).map job.output.join = some x.1 := by
  rw [pageWrite?] at h
  split at h
  · rw [documentPage_path ‹_›, ← Option.some.inj h]
    rfl
  · exact absurd h (by simp)

theorem map_mapM_pageWrite? {pages : List (Path × ByteArray)}
    (h : documents.mapM (job.pageWrite? look all) = some pages) :
    pages.map (·.1) =
      documents.filterMap fun d => (Path.page? d.relativePath).map job.output.join := by
  induction documents generalizing pages with
  | nil =>
    obtain rfl := Option.some.inj h
    rfl
  | cons d documents ih =>
    simp only [List.mapM_cons, Option.bind_eq_bind, Option.bind_eq_some_iff] at h
    obtain ⟨x, hx, rest, hrest, h⟩ := h
    obtain rfl := Option.some.inj h
    rw [List.map_cons, ih hrest, List.filterMap_cons, pageWrite?_path hx]

/-- The paths of the files of a site. -/
theorem map_siteWrites? (h : job.siteWrites? look documents failures = some files) :
    files.map (·.1) = job.pagePaths documents := by
  simp only [siteWrites?, Option.bind_eq_bind, Option.bind_eq_some_iff] at h
  obtain ⟨pages, hpages, inventory, -, h⟩ := h
  obtain rfl := Option.some.inj h
  rw [pagePaths, List.map_append, map_mapM_pageWrite? hpages]
  rfl

/-! ## Complete steps -/

/-- **One page.** If the steps for the page of a document are complete, its page is stored. A page
with half a character leaves an empty file, and then the last step fails. -/
theorem run_pageSteps_stores {d : DocumentInfo} (hnamed : t.Named) (hall : HavePages all)
    (h : run (job.pageSteps cwd look all d) t = (t', true)) :
    ∃ x, job.pageWrite? look all d = some x ∧ Stores cwd x.1 x.2 t t' := by
  obtain ⟨u, hmade, -⟩ := FileTree.exists_of_run_cons (congrArg Prod.snd h)
  rw [pageSteps, FileTree.run_cons_of_eq_some hmade] at h
  obtain ⟨v, hwrite, -⟩ := FileTree.exists_of_run_cons (congrArg Prod.snd h)
  rw [FileTree.run_cons_of_eq_some hwrite] at h
  obtain ⟨w, hhalf, -⟩ := FileTree.exists_of_run_cons (congrArg Prod.snd h)
  rw [FileTree.run_cons_of_eq_some hhalf] at h
  obtain ⟨rfl, -⟩ := Prod.mk.inj h
  obtain ⟨hshows, rfl⟩ : d.showsHalf = false ∧ v = w := by simpa using hhalf
  obtain ⟨page, hpage, hmade⟩ := Option.bind_eq_some_iff.1 hmade
  rw [writePage] at hwrite
  split at hwrite
  · rename_i made hok
    obtain rfl : made.path = page := Option.some.inj ((documentPage_path hok).symm.trans hpage)
    refine ⟨(job.output.join made.path, made.content.render.toUTF8), ?_,
      FileTree.stores_of_makeDirs hnamed hmade hwrite⟩
    rw [pageWrite?, hok]
  · rename_i hhalfPage
    obtain ⟨page', hpage', hwrite⟩ := Option.bind_eq_some_iff.1 hwrite
    obtain rfl : page' = page := Option.some.inj (hpage'.symm.trans hpage)
    have hstores := FileTree.stores_of_makeDirs hnamed hmade hwrite
    obtain ⟨hfault, hparent⟩ := fault?_of_storable hstores.storable
    have hshown := showsHalf_of_documentPage hpage hfault hparent hall hhalfPage
    exact absurd hshown (by simp [hshows])
  · exact absurd hwrite (by simp)

/-- **All pages.** If the steps for the pages of documents are complete, their pages are stored one
after another. -/
theorem run_pages_storesAll (hnamed : t.Named) (hall : HavePages all)
    (h : run (documents.flatMap (job.pageSteps cwd look all)) t = (t', true)) :
    ∃ pages, documents.mapM (job.pageWrite? look all) = some pages ∧ StoresAll cwd pages t t' := by
  induction documents generalizing t with
  | nil =>
    obtain ⟨rfl, -⟩ := Prod.mk.inj h
    exact ⟨[], rfl, .nil t⟩
  | cons d documents ih =>
    rw [List.flatMap_cons] at h
    have hfirst := (FileTree.run_append_eq_true (congrArg Prod.snd h)).1
    have hrun : run (job.pageSteps cwd look all d) t = (_, true) := Prod.ext rfl hfirst
    rw [FileTree.run_append_of_eq hrun] at h
    obtain ⟨x, hx, hstores⟩ := run_pageSteps_stores hnamed hall hrun
    obtain ⟨pages, hpages, hothers⟩ := ih (hstores.named hnamed) h
    refine ⟨x :: pages, ?_, .cons hstores hothers⟩
    rw [List.mapM_cons, hx, hpages]
    rfl

/-- **The overviews.** If the steps for the index and the image inventory are complete, these are
stored. -/
theorem run_overviewSteps_stores (hnamed : t.Named)
    (h : run (job.overviewSteps cwd look documents failures) t = (t', true)) :
    ∃ inventory, inventory? documents = some inventory ∧
      StoresAll cwd
        [(job.output.child indexName, (indexPage look ⟨documents, failures⟩).render.toUTF8),
          (job.output.child inventoryName, (inventoryPage look inventory).render.toUTF8)] t t' := by
  obtain ⟨u, hindex, -⟩ := FileTree.exists_of_run_cons (congrArg Prod.snd h)
  rw [overviewSteps, FileTree.run_cons_of_eq_some hindex] at h
  obtain ⟨v, hstored, -⟩ := FileTree.exists_of_run_cons (congrArg Prod.snd h)
  rw [FileTree.run_cons_of_eq_some hstored] at h
  obtain ⟨rfl, -⟩ := Prod.mk.inj h
  obtain ⟨inventory, hinventory, hwrite⟩ := Option.bind_eq_some_iff.1 hstored
  have hfirst := FileTree.stores_of_write hnamed hindex
  have hsecond := FileTree.stores_of_write (hfirst.named hnamed) hwrite
  exact ⟨inventory, hinventory, .cons hfirst (.cons hsecond (.nil _))⟩

theorem havePages_of_run (h : (run (documents.flatMap (job.pageSteps cwd look all)) t).2 = true) :
    HavePages documents := by
  intro d hd
  obtain ⟨u, hu⟩ := FileTree.exists_run_of_flatMap h hd
  obtain ⟨v, hmade, -⟩ := FileTree.exists_of_run_cons hu
  obtain ⟨page, hpage, -⟩ := Option.bind_eq_some_iff.1 hmade
  rw [hpage]
  rfl

/-- What a site is made of, from the tree before to the tree after. -/
structure Made (job : SiteJob) (cwd : Path) (documents : List DocumentInfo)
    (failures : List ParseFailure) (files : List (Path × ByteArray)) (t shared base t' : FileTree) :
    Prop where
  assets : job.copyAssets cwd t = some shared
  logo : job.copyLogo cwd shared = some base
  havePages : HavePages documents
  writes : job.siteWrites? ⟨job.title, job.logoName cwd shared⟩ documents failures = some files
  stores : StoresAll cwd files base t'

/-- A site that is complete was made of the files that all pages use, the logo and its pages. -/
theorem exists_of_generate {assets : List (Place × Entry)}
    (hclosed : t.ClosedAt (job.staticPlace cwd)) (hnamed : t.Named)
    (hassets : job.assets = some assets) (hstock : Stock assets)
    (h : job.generate cwd documents failures t = (t', true)) :
    ∃ shared base files, job.Made cwd documents failures files t shared base t' := by
  rw [generate] at h
  split at h
  · exact absurd (congrArg Prod.snd h) (by simp)
  · rename_i shared hrun
    have hcopy : job.copyAssets cwd t = some shared := by rw [copyAssets, hrun]
    have hcopied := copied_of_copyAssets hclosed hnamed hassets hstock hcopy
    simp only [List.cons_append, List.nil_append] at h
    obtain ⟨base, hlogo, -⟩ := FileTree.exists_of_run_cons (congrArg Prod.snd h)
    rw [FileTree.run_cons_of_eq_some hlogo] at h
    have hbase := hcopied.named_of_copyLogo hstock hnamed hlogo
    have hpages := (FileTree.run_append_eq_true (congrArg Prod.snd h)).1
    have hall := havePages_of_run hpages
    rw [FileTree.run_append_of_eq (Prod.ext rfl hpages)] at h
    obtain ⟨pages, hmap, hstores⟩ := run_pages_storesAll hbase hall (Prod.ext rfl hpages)
    obtain ⟨inventory, hinventory, hlast⟩ := run_overviewSteps_stores (hstores.named hbase) h
    refine ⟨shared, base, _, hcopy, hlogo, hall, ?_, hstores.append hlast⟩
    rw [siteWrites?, hmap, Option.bind_eq_bind, Option.bind_some, hinventory]
    rfl

/-! ## The tree with a site -/

/-- What stands at a place when the site is complete: what was written there last, a directory on
the way to a page, a file that all pages use or the logo, or what was there before. -/
def siteAt? (job : SiteJob) (cwd : Path) (assets : List (Place × Entry))
    (logo : Option (String × ByteArray)) (files : List (Path × ByteArray)) (t : FileTree)
    (q : Place) : Option Entry :=
  storedAt? cwd files (job.sharedAt? cwd assets logo t q) q

namespace Made

variable {assets : List (Place × Entry)} {shared' base' : FileTree}
  (h : job.Made cwd documents failures files t shared base t')

include h

/-- There was room for the pages. -/
theorem hasRoom : base.HasRoom cwd (job.pagePaths documents) := by
  rw [← map_siteWrites? h.writes]
  exact h.stores.hasRoom

theorem prepare?_eq : job.prepare? cwd t = some base := by
  rw [prepare?, h.assets]
  exact h.logo

variable (hcopied : Copied job cwd assets t shared)

include hcopied

theorem get?_eq (q : Place) :
    t'.get? q = job.siteAt? cwd assets (job.logoFile? cwd shared) files t q := by
  rw [h.stores.get?_eq, siteAt?, hcopied.get?_of_copyLogo h.logo]

/-- A file outside of the directory of the shared files stays as it is, unless it is one of the
pages. -/
theorem get?_of_isFile (hfile : t.isFile q = true) (hstatic : ¬ job.staticPlace cwd <+: q)
    (hwritten : lastWritten cwd files q = none) : t'.get? q = t.get? q := by
  have hpassed : q ∉ Path.passed cwd job.output := by
    intro hq
    rw [hcopied.passable q hq] at hfile
    exact absurd hfile (by simp)
  have hbase : base.get? q = t.get? q := by
    rw [hcopied.get?_of_copyLogo h.logo, sharedAt?, if_neg hstatic, wayAt?_of_not_mem hpassed]
  have hways : q ∉ waysTo cwd files := by
    intro hq
    obtain ⟨x, hx, hway⟩ := List.mem_flatMap.1 hq
    have hroom := h.stores.hasRoom.passable x.1 (List.mem_map_of_mem hx) q hway
    rw [← FileTree.isFile_of_eq hbase, hroom] at hfile
    exact absurd hfile (by simp)
  rw [h.stores.get?_eq, hbase, storedAt?, hwritten]
  exact wayAt?_of_not_mem hways

/-- Outside of the site, only directories on the way to pages are new. -/
theorem get?_outside (hunder : ∀ x ∈ files,
      (Path.resolve cwd job.output).names <+: (Path.resolve cwd x.1).names)
    (houtside : ¬ (Path.resolve cwd job.output).names <+: q) :
    t'.get? q = wayAt? (waysTo cwd files) (shared.get? q) q := by
  have hstatic : ¬ job.staticPlace cwd <+: q :=
    fun hbelow => houtside ((List.prefix_append _ _).trans hbelow)
  have hwritten : lastWritten cwd files q = none := by
    cases hlast : lastWritten cwd files q with
    | none => rfl
    | some content =>
      obtain ⟨x, hx, rfl⟩ := FileTree.exists_of_lastWritten hlast
      exact absurd (hunder x hx) houtside
  rw [h.get?_eq hcopied, siteAt?, storedAt?, hwritten, hcopied.get?_eq, sharedAt?, sharedAt?,
    if_neg hstatic, if_neg hstatic]

/-- A path without double dots that leads out of the site meets only directories that were there
before the pages, if these are stored in the site at paths without double dots. A place on its way
that leads to a page leads to the site, or is in it. -/
theorem settled_of_no_dots {logo : Path}
    (hunder : ∀ x ∈ files,
      (Path.resolve cwd job.output).names <+: (Path.resolve cwd x.1).names)
    (houtside : ¬ (Path.resolve cwd job.output).names <+: (Path.resolve cwd logo).names)
    (hlogo : ".." ∉ (cwd.join logo).names)
    (hfiles : ∀ file ∈ job.pagePaths documents, ".." ∉ (cwd.join file).names)
    (hq : q ∈ Path.passed cwd logo) (hdir : t'.isDirectory q = true) :
    shared.isDirectory q = true := by
  rw [Path.mem_passed_of_not_mem hlogo] at hq
  have hout : ¬ (Path.resolve cwd job.output).names <+: q :=
    fun hbelow => houtside (hbelow.trans hq)
  have hget := h.get?_outside hcopied hunder hout
  by_cases hways : q ∈ waysTo cwd files
  · obtain ⟨x, hx, hway⟩ := List.mem_flatMap.1 hways
    have hpath : x.1 ∈ files.map (·.1) := List.mem_map_of_mem hx
    have hstorable := h.stores.hasRoom.storable x.1 hpath
    have hdots := hfiles x.1 (map_siteWrites? h.writes ▸ hpath)
    rw [← Path.child_parent_name hstorable.names_ne_nil, Path.join_child] at hdots
    have hparent : q <+: (Path.resolve cwd x.1.parent).names :=
      (Path.mem_passed_of_not_mem fun hmem => hdots (List.mem_append_left _ hmem)).1 hway
    have hplace : q <+: (Path.resolve cwd x.1).names := by
      rw [hstorable.names_resolve]
      exact hparent.trans (List.prefix_append _ _)
    have hleads := (List.prefix_or_prefix_of_prefix hplace (hunder x hx)).resolve_right hout
    have hpassed := Path.mem_passed_of_begins (Path.resolve_mem_passed cwd job.output) hleads
    have hstatic : ¬ job.staticPlace cwd <+: q :=
      fun hbelow => hout ((List.prefix_append _ _).trans hbelow)
    rw [FileTree.isDirectory, hcopied.get?_eq, sharedAt?, if_neg hstatic, wayAt?_of_mem hpassed]
    rfl
  · rw [wayAt?_of_not_mem hways] at hget
    rwa [FileTree.isDirectory_of_eq hget] at hdir

variable (hstock : Stock assets) (hnamed : t.Named)

include hstock hnamed

theorem isDirectory (hq : shared.isDirectory q = true) : t'.isDirectory q = true :=
  h.stores.isDirectory ((hcopied.kinds_of_copyLogo hstock hnamed h.logo).1 hq)

theorem isFile (hq : shared.isFile q = true) : t'.isFile q = true :=
  h.stores.isFile ((hcopied.kinds_of_copyLogo hstock hnamed h.logo).2 hq)

/-- The files that all pages use can be copied once more. -/
theorem exists_copied (hassets : job.assets = some assets) :
    ∃ shared', job.copyAssets cwd t' = some shared' ∧ Copied job cwd assets t' shared' := by
  have hstatic : job.HasStatic cwd t' :=
    fun q hq => h.isDirectory hcopied hstock hnamed (hcopied.hasStatic hstock q hq)
  obtain ⟨hanswer, hshort⟩ := hcopied.isUnanswerable_staticDir t'
  obtain ⟨shared', hcopy⟩ :=
    exists_copyAssets hassets hcopied.fits hanswer hshort hcopied.apart hstatic
  have hnamed' := h.stores.named (hcopied.named_of_copyLogo hstock hnamed h.logo)
  have hclosed : t'.ClosedAt (job.staticPlace cwd) :=
    .of_isDirectory (hstatic _ (mem_passed_staticDir.2 (.inr rfl)))
  exact ⟨shared', hcopy, copied_of_copyAssets hclosed hnamed' hassets hstock hcopy⟩

/-! ### The logo the second time -/

/-- A logo that was found is a file, so its path leads through directories that stay, to a place
where no directory is made. -/
theorem settled_of_found {logo : Path} (hlogo : job.logo = some logo)
    (hfound : shared.pathExists cwd logo = true) (hq : q ∈ Path.passed cwd logo)
    (hdir : t'.isDirectory q = true) : shared.isDirectory q = true := by
  obtain ⟨place, hplace⟩ := Option.isSome_iff_exists.1 hfound
  have hfile : shared.isFile place = true := by
    obtain ⟨-, ⟨hnone, -⟩ | ⟨name, content, -, hcontent, -⟩⟩ := copyLogo_cases h.logo
    · simp [logoName, hlogo, Option.filter, hfound] at hnone
    · obtain ⟨other, place', hother, hplace', hread, -⟩ := exists_of_logoFile? hcontent
      obtain rfl := Option.some.inj (hother.symm.trans hlogo)
      obtain rfl := Option.some.inj (hplace'.symm.trans hplace)
      rw [FileTree.read?] at hread
      split at hread
      · exact FileTree.isFile_of_get?_file ‹_›
      · exact absurd hread (by simp)
  obtain ⟨part, hpart, rfl⟩ := Path.mem_passed.1 hq
  rcases FileTree.eq_or_isDirectory_of_walk hplace hpart with rfl | hshared
  · have hkept := h.isFile hcopied hstock hnamed hfile
    have hnofile : t'.isFile (Path.resolve cwd logo).names = false :=
      FileTree.isFile_of_isDirectory hdir
    rw [(FileTree.locate?_eq_some hplace).1, hnofile] at hkept
    exact absurd hkept (by simp)
  · exact hshared

section Again

variable (hcopied' : Copied job cwd assets t' shared')

include hcopied'

/-- Where the files that all pages use were copied twice, the directories are those of the first
time and those that were made for the pages. -/
theorem isDirectory_again (hsettled : t'.isDirectory q = true → shared.isDirectory q = true) :
    shared'.isDirectory q = shared.isDirectory q := by
  have hkept := h.isDirectory (q := q) hcopied hstock hnamed
  rw [FileTree.isDirectory, FileTree.isDirectory, hcopied'.get?_eq, hcopied.get?_eq, sharedAt?,
    sharedAt?]
  split
  · rfl
  · rename_i hstatic
    by_cases hpassed : q ∈ Path.passed cwd job.output
    · rw [wayAt?_of_mem hpassed, wayAt?_of_mem hpassed]
    · have hshared : shared.isDirectory q = t.isDirectory q :=
        FileTree.isDirectory_of_eq (by
          rw [hcopied.get?_eq, sharedAt?, if_neg hstatic, wayAt?_of_not_mem hpassed])
      rw [hshared] at hsettled hkept
      rw [wayAt?_of_not_mem hpassed, wayAt?_of_not_mem hpassed]
      exact Bool.eq_iff_iff.2 ⟨hsettled, hkept⟩

/-- Outside of the site, copying the files twice leads to the same as copying them once, except for
directories that were made for the pages. -/
theorem get?_again (hunder : ∀ x ∈ files,
      (Path.resolve cwd job.output).names <+: (Path.resolve cwd x.1).names)
    (houtside : ¬ (Path.resolve cwd job.output).names <+: q)
    (hsettled : t'.isDirectory q = true → shared.isDirectory q = true) :
    shared'.get? q = shared.get? q := by
  have hget := h.get?_outside hcopied hunder houtside
  by_cases hways : q ∈ waysTo cwd files
  · have hdir := hsettled (h.stores.isDirectory_way hways)
    have hdir' := h.isDirectory_again hcopied hstock hnamed hcopied' hsettled
    rw [FileTree.get?_of_isDirectory hdir, FileTree.get?_of_isDirectory (hdir'.trans hdir)]
  · have hstatic : ¬ job.staticPlace cwd <+: q :=
      fun hbelow => houtside ((List.prefix_append _ _).trans hbelow)
    rw [hcopied'.get?_eq, sharedAt?, if_neg hstatic, hget, wayAt?_of_not_mem hways,
      hcopied.get?_eq, sharedAt?, if_neg hstatic]
    by_cases hpassed : q ∈ Path.passed cwd job.output
    · rw [wayAt?_of_mem hpassed, wayAt?_of_mem hpassed]
    · rw [wayAt?_of_not_mem hpassed]

/-- **The logo the second time.** It is the same, if its path leads through no directory that was
made for a page. -/
theorem logo_again (hunder : ∀ x ∈ files,
      (Path.resolve cwd job.output).names <+: (Path.resolve cwd x.1).names)
    (houtside : ∀ logo ∈ job.logo,
      ¬ (Path.resolve cwd job.output).names <+: (Path.resolve cwd logo).names)
    (hsettled : ∀ logo ∈ job.logo, ∀ q ∈ Path.passed cwd logo,
      t'.isDirectory q = true → shared.isDirectory q = true) :
    job.logo.any (shared'.isUnanswerable cwd) = false ∧
      job.logoName cwd shared' = job.logoName cwd shared ∧
      job.logoFile? cwd shared' = job.logoFile? cwd shared := by
  have hanswer := (copyLogo_cases h.logo).1
  cases hlogo : job.logo with
  | none => simp [logoName, logoFile?, hlogo]
  | some logo =>
    have hsettled := hsettled logo hlogo
    have hlast := h.get?_again hcopied hstock hnamed hcopied' hunder (houtside logo hlogo)
      (hsettled _ (Path.resolve_mem_passed cwd logo))
    obtain ⟨hlocate, hanswers⟩ := FileTree.locate?_congr
      (fun q hq => h.isDirectory_again hcopied hstock hnamed hcopied' (hsettled q hq)) hlast
    rw [hlogo, Option.any_some] at hanswer
    refine ⟨by rw [Option.any_some, hanswers, hanswer], ?_, ?_⟩
    · simp only [logoName, hlogo, Option.filter_some, FileTree.pathExists, hlocate]
    · simp only [logoFile?, hlogo, hlocate, Option.bind_eq_bind, Option.bind_some]
      cases hplace : shared.locate? cwd logo with
      | none => rfl
      | some place =>
        rw [Option.bind_some, Option.bind_some, (FileTree.locate?_eq_some hplace).1,
          FileTree.read?, FileTree.read?, hlast]

/-! ### The second run -/

variable (hfile : job.logoFile? cwd shared' = job.logoFile? cwd shared)
  (hlogo : job.copyLogo cwd shared' = some base')

include hfile hlogo

omit hstock hnamed in
/-- Before the pages are written again, there is at each place what was there before they were
written first, or what is there now. -/
theorem get?_base_again (q : Place) : base'.get? q = base.get? q ∨ base'.get? q = t'.get? q := by
  rw [hcopied'.get?_of_copyLogo hlogo, hcopied.get?_of_copyLogo h.logo, hfile, sharedAt?, sharedAt?]
  split
  · exact .inl rfl
  · by_cases hpassed : q ∈ Path.passed cwd job.output
    · exact .inl ((wayAt?_of_mem hpassed).trans (wayAt?_of_mem hpassed).symm)
    · exact .inr (wayAt?_of_not_mem hpassed)

omit hstock hnamed in
/-- There is room for the pages the second time. -/
theorem hasRoom_again : base'.HasRoom cwd (job.pagePaths documents) := by
  have hsame := h.get?_base_again hcopied hcopied' hfile hlogo
  have hroom := h.stores.hasRoom
  rw [← map_siteWrites? h.writes]
  refine ⟨hroom.storable, hroom.apart, fun file hmem q hq => ?_, fun file hmem => ?_⟩
  · rcases hsame q with hq' | hq'
    · rw [FileTree.isFile_of_eq hq']
      exact hroom.passable file hmem q hq
    · rw [FileTree.isFile_of_eq hq']
      obtain ⟨x, hx, rfl⟩ := List.mem_map.1 hmem
      exact FileTree.isFile_of_isDirectory
        (h.stores.isDirectory_way (List.mem_flatMap.2 ⟨x, hx, hq⟩))
  · rcases hsame (Path.resolve cwd file).names with hq' | hq'
    · rw [FileTree.isDirectory_of_eq hq']
      exact hroom.free file hmem
    · rw [FileTree.isDirectory_of_eq hq']
      obtain ⟨x, hx, rfl⟩ := List.mem_map.1 hmem
      have hplace := h.stores.isFile_place hx
      exact Bool.eq_false_iff.2 fun hdir => by
        rw [FileTree.isFile_of_isDirectory hdir] at hplace
        exact absurd hplace (by simp)

omit hstock hnamed in
/-- Storing the same pages again changes nothing. -/
theorem get?_stored_again {t'' : FileTree} (hstores : StoresAll cwd files base' t'') (q : Place) :
    t''.get? q = t'.get? q := by
  rw [hstores.get?_eq, h.stores.get?_eq, storedAt?, storedAt?]
  cases hlast : lastWritten cwd files q with
  | some content => rfl
  | none =>
    by_cases hways : q ∈ waysTo cwd files
    · simp only [wayAt?_of_mem hways]
    · simp only [wayAt?_of_not_mem hways]
      rcases h.get?_base_again hcopied hcopied' hfile hlogo q with hsame | hsame
      · exact hsame
      · rw [hsame, h.stores.get?_eq, storedAt?, hlast]
        exact wayAt?_of_not_mem hways

end Again

end Made

/-! ## Making a site twice -/

theorem forall_mem_siteWrites? (h : job.siteWrites? look documents failures = some files)
    (hpages : ∀ d ∈ documents, ∀ page, Path.page? d.relativePath = some page →
      (Path.resolve cwd job.output).names <+: (Path.resolve cwd (job.output.join page)).names) :
    ∀ x ∈ files, (Path.resolve cwd job.output).names <+: (Path.resolve cwd x.1).names := by
  intro x hx
  have hpath := List.mem_map_of_mem (f := Prod.fst) hx
  rw [map_siteWrites? h, pagePaths, List.mem_append, List.mem_filterMap] at hpath
  rcases hpath with ⟨d, hd, hpage⟩ | hoverview
  · obtain ⟨page, hpage, hjoin⟩ := Option.map_eq_some_iff.1 hpage
    rw [← hjoin]
    exact hpages d hd page hpage
  · have hchild : ∃ name, name ≠ ".." ∧ x.1 = job.output.child name := by
      rcases List.mem_cons.1 hoverview with heq | hlast
      · exact ⟨indexName, by decide, heq⟩
      · exact ⟨inventoryName, by decide, List.mem_singleton.1 hlast⟩
    obtain ⟨name, hname, heq⟩ := hchild
    rw [heq, Path.resolve_child hname]
    exact List.prefix_append _ _

/-- A site that was made and finds the same logo is made again, and nothing changes. All inputs were
shown the first time, and there is room for the pages; the second run stores the same files, after
the same preparation. -/
theorem Made.generate_again {assets : List (Place × Entry)} {shared' : FileTree}
    (h : job.Made cwd documents failures files t shared base t')
    (hcopied : Copied job cwd assets t shared) (hassets : job.assets = some assets)
    (hstock : Stock assets) (hnamed : t.Named)
    (hcomplete : (job.generate cwd documents failures t).2 = true)
    (hcopy : job.copyAssets cwd t' = some shared') (hcopied' : Copied job cwd assets t' shared')
    (hlogo : job.logo.any (shared'.isUnanswerable cwd) = false ∧
      job.logoName cwd shared' = job.logoName cwd shared ∧
      job.logoFile? cwd shared' = job.logoFile? cwd shared) :
    ∃ t'', job.generate cwd documents failures t' = (t'', true) ∧ ∀ q, t''.get? q = t'.get? q := by
  obtain ⟨hanswer, hname, hfile⟩ := hlogo
  have hsame : ∀ r, shared'.get? (job.staticPlace cwd ++ r) =
      shared.get? (job.staticPlace cwd ++ r) := by
    intro r
    rw [hcopied'.get?_eq, hcopied.get?_eq, sharedAt?, sharedAt?, if_pos (List.prefix_append _ _),
      if_pos (List.prefix_append _ _)]
  obtain ⟨base', hbase'⟩ :=
    exists_copyLogo h.logo hanswer hname hfile (hcopied'.hasStatic hstock) hsame
  have hshown := (generate_eq_true_iff h.prepare?_eq h.havePages h.hasRoom failures).1 hcomplete
  have hprepared : job.prepare? cwd t' = some base' := by
    rw [prepare?, hcopy]
    exact hbase'
  have hroom := h.hasRoom_again hcopied hcopied' hfile hbase'
  have hagain := (generate_eq_true_iff hprepared h.havePages hroom failures).2 hshown
  have hstatic := h.isDirectory hcopied hstock hnamed
    (hcopied.hasStatic hstock _ (mem_passed_staticDir.2 (.inr rfl)))
  have hnamed' := h.stores.named (hcopied.named_of_copyLogo hstock hnamed h.logo)
  obtain ⟨shared'', base'', files', hmade⟩ :=
    exists_of_generate (.of_isDirectory hstatic) hnamed' hassets hstock (Prod.ext rfl hagain)
  obtain rfl : shared'' = shared' := Option.some.inj (hmade.assets.symm.trans hcopy)
  obtain rfl : base'' = base' := Option.some.inj (hmade.logo.symm.trans hbase')
  have hwrites := hmade.writes
  rw [hname, h.writes] at hwrites
  obtain rfl := Option.some.inj hwrites
  exact ⟨_, Prod.ext rfl hagain, h.get?_stored_again hcopied hcopied' hfile hbase' hmade.stores⟩

/-- **The footprint of a site.** A site that is complete leaves the files that all pages use and the
logo in their directory, a file for each page, of which the last one counts where places coincide,
the index and the image inventory after them, and directories on the way. All other files stay as
they were. If the pages lie in the directory of the site and the logo does not, making the site
again is complete and changes nothing, unless the logo was not found and its path leads through a
directory that was made for a page, which takes a double dot. -/
theorem generate_footprint (job : SiteJob) (cwd : Path) (documents : List DocumentInfo)
    (failures : List ParseFailure) (content : Place → ByteArray) {t t' : FileTree}
    (hregular : t.Regular) (hdirs : t.InDirectories)
    (hassets : job.assets = some (assetsOf content))
    (hcomplete : job.generate cwd documents failures t = (t', true)) :
    ∃ shared files, job.copyAssets cwd t = some shared ∧
      job.siteWrites? ⟨job.title, job.logoName cwd shared⟩ documents failures = some files ∧
      (∀ q, t'.get? q =
        job.siteAt? cwd (assetsOf content) (job.logoFile? cwd shared) files t q) ∧
      (∀ q, t.isFile q = true → ¬ job.staticPlace cwd <+: q → lastWritten cwd files q = none →
        t'.get? q = t.get? q) ∧
      ((∀ d ∈ documents, ∀ page, Path.page? d.relativePath = some page →
          (Path.resolve cwd job.output).names <+: (Path.resolve cwd (job.output.join page)).names) →
        (∀ logo ∈ job.logo,
          ¬ (Path.resolve cwd job.output).names <+: (Path.resolve cwd logo).names) →
        (∀ logo ∈ job.logo, shared.pathExists cwd logo = true ∨
          (".." ∉ (cwd.join logo).names ∧
            ∀ file ∈ job.pagePaths documents, ".." ∉ (cwd.join file).names) ∨
          ∀ q ∈ Path.passed cwd logo, t'.isDirectory q = true → shared.isDirectory q = true) →
        ∃ t'', job.generate cwd documents failures t' = (t'', true) ∧
          ∀ q, t''.get? q = t'.get? q) := by
  have hstock := stock_assetsOf content
  have hnamed := hregular.named
  have hclosed := hdirs.closedAt (job.staticPlace cwd)
  obtain ⟨shared, base, files, hmade⟩ :=
    exists_of_generate hclosed hnamed hassets hstock hcomplete
  have hcopied := copied_of_copyAssets hclosed hnamed hassets hstock hmade.assets
  refine ⟨shared, files, hmade.assets, hmade.writes, hmade.get?_eq hcopied,
    fun q => hmade.get?_of_isFile hcopied, fun hpages houtside hlogo => ?_⟩
  have hunder := forall_mem_siteWrites? hmade.writes hpages
  obtain ⟨shared', hcopy, hcopied'⟩ := hmade.exists_copied hcopied hstock hnamed hassets
  have hsettled : ∀ logo ∈ job.logo, ∀ q ∈ Path.passed cwd logo,
      t'.isDirectory q = true → shared.isDirectory q = true := by
    intro logo hmem q hq hdir
    rcases hlogo logo hmem with hfound | ⟨hplain, hfiles⟩ | hsettled
    · exact hmade.settled_of_found hcopied hstock hnamed hmem hfound hq hdir
    · exact hmade.settled_of_no_dots hcopied hunder (houtside logo hmem) hplain hfiles hq hdir
    · exact hsettled q hq hdir
  have hsame := hmade.logo_again hcopied hstock hnamed hcopied' hunder houtside hsettled
  exact hmade.generate_again hcopied hassets hstock hnamed (congrArg Prod.snd hcomplete) hcopy
    hcopied' hsame

/-- A tree with a logo, and with a site that has a file of its own among those that all pages
use. -/
def logoTree : FileTree :=
  ⟨[(["logo.png"], .file .empty), (["out"], .directory), (["out", "static"], .directory),
    (["out", "static", "old.txt"], .file .empty)]⟩

/-- A site in that tree with the logo at a path. -/
def logoSite (names : List String) : SiteJob where
  output := ⟨.slash, ["out"]⟩
  logo := some ⟨.slash, names⟩
  assets := some (assetsOf fun _ => .empty)

/-- Two documents with the same page, below the directory of the site. -/
def twinDocuments : List DocumentInfo :=
  ["1.0", "1.1"].map fun version =>
    { filePath := ⟨.slash, ["p", "sub", "a.wdl"]⟩
      relativePath := ⟨.relative, ["sub", "a.wdl"]⟩
      version }

/-- The tree with that site for these documents, and whether it is complete. -/
def makeLogoSite (names : List String) (t : FileTree) : FileTree × Bool :=
  (logoSite names).generate ⟨.slash, []⟩ twinDocuments [] t

theorem generate_footprint_of_logo :
    ∃ t', makeLogoSite ["logo.png"] logoTree = (t', true) ∧
      t'.isFile ["out", "static", "old.txt"] = false ∧
      t'.isFile ["out", "static", "custom-logo.png"] = true ∧
      ∃ t'', makeLogoSite ["logo.png"] t' = (t'', true) ∧ ∀ q, t''.get? q = t'.get? q := by
  have hcomplete : makeLogoSite ["logo.png"] logoTree =
      ((makeLogoSite ["logo.png"] logoTree).1, true) := Prod.ext rfl (by decide +kernel)
  obtain ⟨shared, files, -, -, -, -, hagain⟩ := generate_footprint (logoSite ["logo.png"])
    ⟨.slash, []⟩ twinDocuments [] (fun _ => .empty) ⟨⟨by decide, by decide⟩, by decide⟩ (by decide)
    rfl hcomplete
  refine ⟨_, hcomplete, by decide +kernel, by decide +kernel, hagain ?_ ?_ ?_⟩
  · intro d hd page hpage
    have hplace : d.relativePath = ⟨.relative, ["sub", "a.wdl"]⟩ := by
      obtain ⟨version, -, rfl⟩ := List.mem_map.1 hd
      rfl
    have hpath : Path.page? ⟨.relative, ["sub", "a.wdl"]⟩ =
        some ⟨.relative, ["sub", "a.html"]⟩ := by decide
    rw [hplace, hpath] at hpage
    obtain rfl := Option.some.inj hpage
    decide
  · rintro logo ⟨⟩
    decide
  · rintro logo ⟨⟩
    exact .inr (.inl (by decide))

/-- A path to the logo that leads through the directory of the page. -/
def windingNames : List String := ["out", "sub", "..", "..", "logo.png"]

/-- A logo is not found as long as its path leads through the directory of a page that is not there
yet. It lies outside of the site, and both runs are complete, but the second one adds a file. -/
theorem logo_through_page_directory :
    ¬ (Path.resolve ⟨.slash, []⟩ (logoSite windingNames).output).names <+:
      (Path.resolve ⟨.slash, []⟩ ⟨.slash, windingNames⟩).names ∧
    (makeLogoSite windingNames logoTree).2 = true ∧
    (makeLogoSite windingNames logoTree).1.isFile ["out", "static", "custom-logo.png"] = false ∧
    (makeLogoSite windingNames (makeLogoSite windingNames logoTree).1).2 = true ∧
    (makeLogoSite windingNames (makeLogoSite windingNames logoTree).1).1.isFile
      ["out", "static", "custom-logo.png"] = true := by
  decide +kernel

end WorkflowDocs.SiteJob
