import WorkflowDocs.Proofs.Page.Rendering
import WorkflowDocs.Proofs.Site.Shared

/-!
# Complete sites

A site is made in a directory that takes its files: the files that all pages use and the logo can be
copied there, no page is in the way of another file, and there is room for all of them. Its sources
are made of Unicode texts, which can be encoded. It is then complete exactly if every input of every
document can be shown. What keeps an input from being shown is a struct without members, or a
description that is a structured value without a form that can be stored. Whether the text of a note
is such a value depends on the dialect of the workspace: on the characters that have names in it and
on the texts that it gives up.

## Main definitions

* `SiteJob.pagePaths`: the paths of the pages, the index and the image inventory
* `SiteJob.prepare?`: the tree with the files that all pages use and the logo
* `SiteJob.Ready`: a tree that takes the pages, with the directory of the site

## Main results

* `SiteJob.run_pageSteps`, `SiteJob.run_overviewSteps`: what can be shown is stored
* `SiteJob.generate_eq_true_iff`: when a site is complete, by its documents
* `SiteJob.complete_iff`: when a site is complete, by its sources
* `SiteJob.empty_struct_incomplete`: a struct without members that leaves a site incomplete
-/

namespace WorkflowDocs

namespace SiteJob

/-- The paths of the pages of documents, of the index and of the image inventory. -/
def pagePaths (job : SiteJob) (documents : List DocumentInfo) : List Path :=
  (documents.filterMap fun d => (Path.page? d.relativePath).map job.output.join) ++
    [job.output.child indexName, job.output.child inventoryName]

/-- The tree with the files that all pages use and the logo in the directory of the site. -/
def prepare? (job : SiteJob) (cwd : Path) (t : FileTree) : Option FileTree :=
  (job.copyAssets cwd t).bind (job.copyLogo cwd)

/-- The tree takes the pages of a site, and the directory of the site is there. -/
structure Ready (job : SiteJob) (cwd : Path) (documents : List DocumentInfo) (t : FileTree) :
    Prop where
  room : t.HasRoom cwd (job.pagePaths documents)
  found : ∃ place, t.locate? cwd job.output = some place ∧ t.isDirectory place = true

variable {job : SiteJob} {cwd : Path} {documents : List DocumentInfo}

theorem Ready.of_keeps {t t' : FileTree} (h : job.Ready cwd documents t)
    (hroom : t'.HasRoom cwd (job.pagePaths documents)) (hkeep : t.Keeps t') :
    job.Ready cwd documents t' := by
  obtain ⟨place, hlocate, hplace⟩ := h.found
  exact ⟨hroom, place, FileTree.walk_of_keeps hkeep hlocate hplace, hkeep place hplace⟩

theorem mem_pagePaths {d : DocumentInfo} (hd : d ∈ documents) {page : Path}
    (hpage : Path.page? d.relativePath = some page) :
    job.output.join page ∈ job.pagePaths documents :=
  List.mem_append_left _ (List.mem_filterMap.2 ⟨d, hd, by rw [hpage, Option.map_some]⟩)

/-! ## The directory of a site -/

theorem isSome_foldl_put {dir : Place} (hdir : dir ≠ []) (assets : List (Place × Entry))
    {t : FileTree} {q : Place} (h : (t.get? q).isSome = true) :
    ((assets.foldl (fun t a => t.put (dir ++ a.1) a.2) t).get? q).isSome = true := by
  induction assets generalizing t with
  | nil => exact h
  | cons a assets ih =>
    apply ih
    exact FileTree.isSome_get?_put (List.append_ne_nil_of_left_ne_nil hdir _) _ h

/-- Copying the files that all pages use makes the directory of the site. -/
theorem isSome_of_copyAssets {t t' : FileTree} (h : job.copyAssets cwd t = some t')
    {part : List String} (hpart : part <+: (cwd.join job.output).names) :
    (t'.get? (Path.collapse part)).isSome = true := by
  obtain ⟨assets, u, v, w, -, -, -, hmade, hstatic, hput, hfits⟩ := exists_of_copyAssets h
  obtain ⟨-, rfl⟩ := makeStatic_eq_some hstatic
  obtain rfl := putAssets_eq_some hfits hput
  refine isSome_foldl_put staticPlace_ne_nil assets ?_
  refine FileTree.isSome_get?_put staticPlace_ne_nil _ ?_
  have hpassed : Path.collapse part ∈ job.output.lineage.flatMap (Path.passed cwd) :=
    Path.mem_flatMap_passed_lineage.2 (Path.mem_passed.2 ⟨part, hpart, rfl⟩)
  rw [(FileTree.run_makeDirs hmade).2, FileTree.wayAt?_of_mem hpassed]
  rfl

theorem isSome_of_copyLogo {t t' : FileTree} (h : job.copyLogo cwd t = some t') {q : Place}
    (hq : (t.get? q).isSome = true) : (t'.get? q).isSome = true := by
  rw [copyLogo] at h
  split at h
  · exact absurd h (by simp)
  · split at h
    · simp only [Option.bind_eq_bind, Option.bind_eq_some_iff] at h
      obtain ⟨-, -, content, -, h⟩ := h
      obtain ⟨hne, rfl⟩ := FileTree.write_eq_some h
      exact FileTree.isSome_get?_put hne _ hq
    · obtain rfl := Option.some.inj h
      exact hq

/-- A tree that was prepared and takes the pages has the directory of the site. It is there since
the shared files were copied, and it is no file because there is room. -/
theorem ready_of_prepare? {t base : FileTree} (hbase : job.prepare? cwd t = some base)
    (hroom : base.HasRoom cwd (job.pagePaths documents)) : job.Ready cwd documents base := by
  obtain ⟨t', hassets, hlogo⟩ := Option.bind_eq_some_iff.1 hbase
  refine ⟨hroom, FileTree.exists_walk fun part hpart => ?_⟩
  have hindex : job.output.child indexName ∈ job.pagePaths documents :=
    List.mem_append_right _ List.mem_cons_self
  have hway : Path.collapse part ∈ Path.wayTo cwd (job.output.child indexName) := by
    rw [Path.wayTo, parent_child]
    exact List.mem_map_of_mem ((List.mem_inits _ _).2 hpart)
  have hthere := isSome_of_copyLogo hlogo (isSome_of_copyAssets hassets hpart)
  exact FileTree.isDirectory_of_isFile hthere (hroom.passable _ hindex _ hway)

/-! ## The steps of a site -/

/-- Something can stand at the path of a page that the tree takes, and at its directory. -/
theorem fault?_of_storable {page : Path} (h : FileTree.Storable cwd (job.output.join page)) :
    page.fault? = none ∧ page.parent.fault? = none := by
  have hnames : page.names <:+ (cwd.join (job.output.join page)).names :=
    (Path.names_suffix_join _ _).trans (Path.names_suffix_join _ _)
  have hroot := Nat.le_trans (Path.utf8ByteSize_root_join job.output page)
    (Path.utf8ByteSize_root_join cwd (job.output.join page))
  refine ⟨h.fault?_of_infix hnames.isInfix hroot, h.fault?_of_infix ?_ hroot⟩
  exact (List.dropLast_prefix page.names).isInfix.trans hnames.isInfix

/-- The page of a document is stored when it is made. The directory of the page is made first, so
that it is there when the page is written. -/
theorem run_pageSteps {look : Appearance} {d : DocumentInfo} {page : Page} {t : FileTree}
    (h : job.Ready cwd documents t) (hd : d ∈ documents)
    (hpage : documentPage look d documents = .ok page) (hhalf : d.showsHalf = false) :
    (FileTree.run (job.pageSteps cwd look documents d) t).2 = true ∧
      job.Ready cwd documents (FileTree.run (job.pageSteps cwd look documents d) t).1 := by
  have hpath := documentPage_path hpage
  have hmem : job.output.join page.path ∈ job.pagePaths documents := mem_pagePaths hd hpath
  obtain ⟨u, dir, hmade, hroom, hkeep, hlocate, hdir⟩ := h.room.makeDirs hmem
  obtain ⟨v, hwritten, hroom', hkeep'⟩ :=
    hroom.write hmem hlocate hdir page.content.render.toUTF8
  have hwrite : job.writePage cwd look documents d u = some v := by
    rw [writePage, hpage]
    exact hwritten
  have hrun : FileTree.run (job.pageSteps cwd look documents d) t = (v, true) := by
    simp [pageSteps, FileTree.run, hpath, hmade, hwrite, hhalf]
  rw [hrun]
  exact ⟨rfl, h.of_keeps hroom' (hkeep.trans hkeep')⟩

/-- A file at the top of the site can be written. -/
theorem Ready.write {t : FileTree} (h : job.Ready cwd documents t) {name : String}
    (hname : job.output.child name ∈ job.pagePaths documents) (text : String) :
    ∃ t', FileTree.writeText cwd (job.output.child name) text t = some t' ∧
      job.Ready cwd documents t' := by
  obtain ⟨place, hlocate, hplace⟩ := h.found
  rw [← parent_child job.output name] at hlocate
  obtain ⟨t', hwritten, hroom, hkeep⟩ := h.room.write hname hlocate hplace text.toUTF8
  exact ⟨t', hwritten, h.of_keeps hroom hkeep⟩

/-- The index and the image inventory are stored when all documents have pages. -/
theorem run_overviewSteps {look : Appearance} {failures : List ParseFailure} {t : FileTree}
    (h : job.Ready cwd documents t) (hall : HavePages documents) :
    (FileTree.run (job.overviewSteps cwd look documents failures) t).2 = true := by
  obtain ⟨inventory, hinventory⟩ := exists_inventory? hall
  obtain ⟨u, hindex, hu⟩ := h.write (List.mem_append_right _ List.mem_cons_self)
    (indexPage look ⟨documents, failures⟩).render
  obtain ⟨v, hstored, -⟩ := hu.write
    (List.mem_append_right _ (List.mem_cons_of_mem _ List.mem_cons_self))
    (inventoryPage look inventory).render
  simp [overviewSteps, FileTree.run, hindex, hinventory, hstored]

/-- If the steps for the page of a document succeed, its inputs have no half of a character pair,
and the page was made or is missing because of such a half. -/
theorem of_run_pageSteps {look : Appearance} {all : List DocumentInfo} {d : DocumentInfo}
    {t : FileTree} (h : (FileTree.run (job.pageSteps cwd look all d) t).2 = true) :
    d.showsHalf = false ∧
      (HasResult (documentPage look d all) ∨ documentPage look d all = .error .halfCharacter) := by
  obtain ⟨u, -, h⟩ := FileTree.exists_of_run_cons h
  obtain ⟨v, hwrite, h⟩ := FileTree.exists_of_run_cons h
  obtain ⟨w, hhalf, -⟩ := FileTree.exists_of_run_cons h
  have hshows : d.showsHalf = false ∧ v = w := by simpa using hhalf
  refine ⟨hshows.1, ?_⟩
  rw [writePage] at hwrite
  split at hwrite
  · rename_i page hpage
    exact .inl ⟨page, hpage⟩
  · exact .inr ‹_›
  · exact absurd hwrite (by simp)

/-! ## Complete sites -/

/-- Once the files that all pages use are copied, what remains are the steps for the logo, the pages
and the overviews. -/
theorem exists_generate_eq {t t' : FileTree} (h : job.copyAssets cwd t = some t')
    (documents : List DocumentInfo) (failures : List ParseFailure) :
    ∃ look, job.generate cwd documents failures t =
      FileTree.run (job.copyLogo cwd :: (documents.flatMap (job.pageSteps cwd look documents) ++
        job.overviewSteps cwd look documents failures)) t' := by
  refine ⟨⟨job.title, job.logoName cwd t'⟩, ?_⟩
  rw [generate, run_of_copyAssets h]
  simp only [List.cons_append, List.nil_append]

section Complete

variable {t base : FileTree} (hbase : job.prepare? cwd t = some base)
  (hall : HavePages documents) (hroom : base.HasRoom cwd (job.pagePaths documents))

include hall hroom

/-- The page of a document that the tree takes is made exactly if all inputs can be shown. -/
theorem hasResult_documentPage_of_room (look : Appearance) {d : DocumentInfo}
    (hd : d ∈ documents) :
    (HasResult (documentPage look d documents) ↔ ∀ i ∈ d.inputs, i.IsShown) ∧
      (documentPage look d documents = .error .halfCharacter → d.showsHalf = true) := by
  obtain ⟨page, hpage⟩ := Option.isSome_iff_exists.1 (hall d hd)
  obtain ⟨hfault, hparent⟩ := fault?_of_storable (hroom.storable _ (mem_pagePaths hd hpage))
  exact ⟨hasResult_documentPage_iff look hpage hfault hparent hall,
    showsHalf_of_documentPage hpage hfault hparent hall⟩

include hbase

/-- A site is complete exactly if all inputs of its documents can be shown. Half a character makes
the last step of its page fail, and a page that is stored leaves the tree ready for the next. -/
theorem generate_eq_true_iff (failures : List ParseFailure) :
    (job.generate cwd documents failures t).2 = true ↔
      ∀ d ∈ documents, ∀ i ∈ d.inputs, i.IsShown := by
  obtain ⟨t', hassets, hlogo⟩ := Option.bind_eq_some_iff.1 hbase
  have hready := ready_of_prepare? hbase hroom
  obtain ⟨look, hgenerate⟩ := exists_generate_eq hassets documents failures
  rw [hgenerate, FileTree.run_cons_of_eq_some hlogo]
  constructor
  · intro hcomplete d hd
    obtain ⟨hpages, -⟩ := FileTree.run_append_eq_true hcomplete
    obtain ⟨u, hrun⟩ := FileTree.exists_run_of_flatMap hpages hd
    obtain ⟨hiff, hhalf⟩ := hasResult_documentPage_of_room hall hroom look hd
    obtain ⟨hshows, hresult | herror⟩ := of_run_pageSteps hrun
    · exact hiff.1 hresult
    · exact absurd (hhalf herror) (by simp [hshows])
  · intro hshown
    have hpage : ∀ d ∈ documents, ∀ u, job.Ready cwd documents u →
        (FileTree.run (job.pageSteps cwd look documents d) u).2 = true ∧
          job.Ready cwd documents (FileTree.run (job.pageSteps cwd look documents d) u).1 := by
      intro d hd u hu
      obtain ⟨page, hpage⟩ := (hasResult_documentPage_of_room hall hroom look hd).1.2 (hshown d hd)
      exact run_pageSteps hu hd hpage (forall_isShown_iff.1 (hshown d hd)).2
    obtain ⟨hpages, hready'⟩ := FileTree.run_flatMap hpage hready
    rw [FileTree.run_append, if_pos hpages]
    exact run_overviewSteps hready' hall

end Complete

/-- The sources of the given files declare only inputs that can be shown. -/
def InputsShown (w : Workspace) (files : List Path) : Prop :=
  ∀ file ∈ files, ∀ doc, w.load file = .ok doc → ∀ x ∈ doc.inputDecls, x.2.IsShown w.dialect x.1

theorem exists_load_of_parse {w : Workspace} {root file : Path} {d : DocumentInfo}
    (h : w.parse root file = .ok d) : ∃ doc, w.load file = .ok doc := by
  obtain ⟨doc, hdoc, -⟩ := exists_of_bind_eq_ok h
  exact ⟨doc, eq_ok_of_mapError hdoc⟩

/-- **When a site is complete.** Of documented sources whose pages have names and a place in the
directory of the site, every page is made, and the site is complete, exactly if the sources declare
only inputs that can be shown: the structs among them have members, and their notes have a form that
can be stored. The texts of the sources are Unicode texts, and the dialect of their notes is any. -/
theorem complete_iff (job : SiteJob) (w : Workspace) (root : Path) {files : List Path}
    {documents : List DocumentInfo} (failures : List ParseFailure) {t base : FileTree}
    (hparse : List.Forall₂ (fun file d => w.parse root file = .ok d) files documents)
    (hbase : job.prepare? w.cwd t = some base) (hall : HavePages documents)
    (hroom : base.HasRoom w.cwd (job.pagePaths documents)) :
    ((∀ look, ∀ d ∈ documents, ∃ page, documentPage look d documents = .ok page) ↔
      InputsShown w files) ∧
    ((job.generate w.cwd documents failures t).2 = true ↔ InputsShown w files) := by
  have hsources : InputsShown w files ↔ ∀ d ∈ documents, ∀ i ∈ d.inputs, i.IsShown := by
    refine forall_mem_iff_of_forall₂ (fun file d hd => ?_) hparse
    obtain ⟨doc, hdoc⟩ := exists_load_of_parse hd
    rw [Workspace.isShown_of_parse hd hdoc]
    constructor
    · intro h
      exact h doc hdoc
    · intro h doc' hdoc'
      obtain rfl := Except.ok.inj (hdoc.symm.trans hdoc')
      exact h
  have hpages : ∀ look, ∀ d ∈ documents, HasResult (documentPage look d documents) ↔
      ∀ i ∈ d.inputs, i.IsShown :=
    fun look d hd => (hasResult_documentPage_of_room hall hroom look hd).1
  rw [hsources, generate_eq_true_iff hbase hall hroom failures]
  refine ⟨⟨fun h d hd => ?_, fun h look d hd => ?_⟩, Iff.rfl⟩
  · exact (hpages {} d hd).1 (h {} d hd)
  · exact (hpages look d hd).2 (h d hd)

/-- A source with a task that takes a struct with the given members. -/
def structSource (members : List (String × WdlType)) : DocumentSource where
  tasks := [{ name := "t", inputs := [⟨"s", .struct "S" (some members) false, none⟩] }]

/-- A tree with the directory of a project and the file of that source. -/
def structTree : FileTree :=
  ⟨[(["p"], .directory), (["p", "a.wdl"], .file .empty)]⟩

/-- A project with that source. -/
def structWorkspace (members : List (String × WdlType)) : Workspace where
  tree := structTree
  sources := [(["p", "a.wdl"], .ok (structSource members))]

/-- The file of that source. -/
def structFile : Path := ⟨.slash, ["p", "a.wdl"]⟩

/-- A site beside the project, with the files that all pages use. -/
def sharedSite : SiteJob where
  output := ⟨.slash, ["out"]⟩
  assets := some (assetsOf fun _ => .empty)

theorem exists_prepared :
    ∃ base, sharedSite.prepare? ⟨.slash, []⟩ structTree = some base ∧
      base.HasRoom ⟨.slash, []⟩ [⟨.slash, ["out", "a.html"]⟩, ⟨.slash, ["out", "index.html"]⟩,
        ⟨.slash, ["out", "docker_images.html"]⟩] := by
  refine ⟨_, rfl, fun file hfile => ?_, by decide, by decide, by decide⟩
  have hstorable : FileTree.isEntryName file.name = true ∧
      (∀ name ∈ (Path.join ⟨.slash, []⟩ file.parent).names,
        name = ".." ∨ FileTree.isEntryName name = true) ∧
      (Path.join ⟨.slash, []⟩ file).isLong = false := by
    revert file
    decide
  exact ⟨hstorable.1, hstorable.2.1, hstorable.2.2⟩

/-- The source has the document `d`, and the tree takes its site after it was prepared. -/
def TakesSite (members : List (String × WdlType)) (d : DocumentInfo) (base : FileTree) : Prop :=
  (structWorkspace members).parse ⟨.slash, ["p"]⟩ structFile = .ok d ∧
    sharedSite.prepare? (structWorkspace members).cwd (structWorkspace members).tree = some base ∧
    HavePages [d] ∧ base.HasRoom (structWorkspace members).cwd (sharedSite.pagePaths [d])

theorem exists_takesSite (members : List (String × WdlType)) :
    ∃ d base, TakesSite members d base := by
  obtain ⟨d, hparse⟩ : ∃ d, (structWorkspace members).parse ⟨.slash, ["p"]⟩ structFile = .ok d :=
    ⟨_, rfl⟩
  obtain ⟨base, hbase, hroom⟩ := exists_prepared
  obtain ⟨-, -, -, hplace, -⟩ := Workspace.parse_eq_ok hparse
  have hpage : Path.page? d.relativePath = some ⟨.relative, ["a.html"]⟩ := by
    rw [hplace]
    show Path.page? (Path.relativeToRoot ⟨.slash, []⟩ structFile ⟨.slash, ["p"]⟩) = _
    decide
  have hpaths : sharedSite.pagePaths [d] = [⟨.slash, ["out", "a.html"]⟩,
      ⟨.slash, ["out", "index.html"]⟩, ⟨.slash, ["out", "docker_images.html"]⟩] := by
    rw [pagePaths, List.filterMap_cons_some (by rw [hpage]; rfl)]
    decide
  refine ⟨d, base, hparse, hbase, fun d' hd' => ?_, by rw [hpaths]; exact hroom⟩
  rw [List.mem_singleton.1 hd', hpage]
  rfl

theorem complete_iff_of_member :
    ∃ d base, TakesSite [("x", .primitive .int false)] d base ∧
      InputsShown (structWorkspace [("x", .primitive .int false)]) [structFile] ∧
      (sharedSite.generate (structWorkspace [("x", .primitive .int false)]).cwd [d] []
        (structWorkspace [("x", .primitive .int false)]).tree).2 = true := by
  obtain ⟨d, base, hparse, hbase, hall, hroom⟩ := exists_takesSite [("x", .primitive .int false)]
  have hnote : parameterNote .standard (metaTexts []) "s" = .ok none := rfl
  have hshown : InputsShown (structWorkspace [("x", .primitive .int false)]) [structFile] := by
    intro file hfile doc hdoc x hx
    rw [List.mem_singleton.1 hfile] at hdoc
    obtain rfl := Except.ok.inj hdoc
    rw [List.mem_singleton.1 hx]
    refine ⟨?_, fun v hv => ?_, fun codes hcodes => ?_⟩
    · rintro _ _ _ ⟨⟩
      exact ⟨_, _, rfl⟩
    · exact absurd (hnote.symm.trans hv) (by simp)
    · exact absurd (hnote.symm.trans hcodes) (by simp)
  exact ⟨d, base, ⟨hparse, hbase, hall, hroom⟩, hshown,
    (complete_iff sharedSite _ _ [] (.cons hparse .nil) hbase hall hroom).2.2 hshown⟩

/-- A struct without members has no page, and leaves the site incomplete. -/
theorem empty_struct_incomplete :
    ∃ d base, TakesSite [] d base ∧ (∀ look page, documentPage look d [d] ≠ .ok page) ∧
      (sharedSite.generate (structWorkspace []).cwd [d] []
        (structWorkspace []).tree).2 = false := by
  obtain ⟨d, base, hparse, hbase, hall, hroom⟩ := exists_takesSite []
  have hhidden : ¬ ∀ i ∈ d.inputs, i.IsShown := by
    rw [Workspace.isShown_of_parse hparse rfl]
    intro hshown
    obtain ⟨m, ms, hmembers⟩ := (hshown _ List.mem_cons_self).members _ _ _ rfl
    exact absurd (Option.some.inj hmembers) (by simp)
  refine ⟨d, base, ⟨hparse, hbase, hall, hroom⟩, fun look page hpage => hhidden ?_, ?_⟩
  · exact (hasResult_documentPage_of_room hall hroom look List.mem_cons_self).1.1 ⟨page, hpage⟩
  · rw [← Bool.not_eq_true, generate_eq_true_iff hbase hall hroom]
    exact fun hshown => hhidden (hshown d List.mem_cons_self)

end SiteJob

end WorkflowDocs
