import WorkflowDocs.Html.Section
import WorkflowDocs.Proofs.Path.Written
import WorkflowDocs.Proofs.Results
import WorkflowDocs.Proofs.Site.Pages

/-!
# The links of calls

A call through an import is linked to the page of the imported source. The link is made from the
path that the import is *written* with, and the page is placed by the path that the source was
*found* under, so the two meet only where both paths have the same place. And the link is made from
the text of that place, with every `.wdl` in it replaced, where the page has only its extension
replaced.

## Main definitions

* `Workspace.CallsThrough`: a call of a document that leads to an imported path
* `SiteJob.linkedFile`: the file that a link on a page leads to
* `Path.Linkable`: places whose pages are found by their text

## Main results

* `SiteJob.linkedFile_eq`: where the link to a place leads
* `SiteJob.links_reach_iff`: when the link of a call leads to the page of what it calls
* `SiteJob.reentering_link_misses`: a link that leads elsewhere
-/

namespace WorkflowDocs

namespace Path

/-! ## Places whose pages are found by their text -/

/-- A place with the ending of sources in none of its names but at the end, or with the extension of
pages there. -/
structure Linkable (place : Path) : Prop where
  dirs : ∀ name ∈ place.parent.names, Text.contains name sourceSuffix = false
  stem : Text.contains place.stem sourceSuffix = false
  extension : place.suffix = sourceSuffix ∨ place.suffix = pageSuffix

theorem Linkable.names_ne_nil {place : Path} (h : Linkable place) : place.names ≠ [] := by
  intro hnil
  have hextension := h.extension
  rw [suffix, name, hnil] at hextension
  exact absurd hextension (by decide)

theorem contains_sourceSuffix_iff {name : String} :
    Text.contains name sourceSuffix = false ↔ ¬ ".wdl".toList <:+: name.toList := by
  rw [Text.contains, ← Bool.not_eq_true, Text.charsContain_iff]
  rfl

/-- A link has the name of the page of a place exactly if the place is linkable. -/
theorem map_linkName_eq_page_iff (dir : List String) (name : String) :
    (dir ++ [name]).map linkName = dir ++ [(splitName name).1 ++ pageSuffix] ↔
      Linkable ⟨.relative, dir ++ [name]⟩ := by
  have hdirs : dir.map linkName = dir ↔ ∀ name ∈ dir, Text.contains name sourceSuffix = false := by
    simp only [contains_sourceSuffix_iff, ← linkName_eq_self_iff]
    have hpoint : dir.map linkName = dir.map id ↔ ∀ name ∈ dir, linkName name = id name :=
      List.map_inj_left
    rwa [List.map_id] at hpoint
  rw [List.map_append, List.map_singleton]
  constructor
  · intro h
    obtain ⟨hdir, hname⟩ := List.append_inj' h rfl
    obtain ⟨hstem, hextension⟩ := (linkName_eq_page_iff name).1 (List.singleton_inj.1 hname)
    refine ⟨?_, ?_, ?_⟩
    · rw [parent_concat]
      exact hdirs.1 hdir
    · rw [stem, name_concat]
      exact contains_sourceSuffix_iff.2 hstem
    · rw [suffix, name_concat]
      exact hextension
  · rintro ⟨hdir, hstem, hextension⟩
    rw [parent_concat] at hdir
    rw [stem, name_concat, contains_sourceSuffix_iff] at hstem
    rw [suffix, name_concat] at hextension
    rw [hdirs.2 hdir, (linkName_eq_page_iff name).2 ⟨hstem, hextension⟩]

end Path

/-! ## Calls through imports -/

namespace Calls

variable {imports : List ImportInfo} {c : CallNode} {scope : String} {i : ImportInfo}

theorem isLocalCall_of_import (hi : i ∈ imports) (hscope : i.scope = some scope) (hne : scope ≠ "")
    (hpath : c.path.head? = some scope) : isLocalCall imports c = false := by
  obtain ⟨rest, hrest⟩ := List.head?_eq_some_iff.1 hpath
  rw [isLocalCall, hrest, Bool.not_eq_false', List.contains_iff_mem, List.mem_filterMap]
  exact ⟨i, hi, by rw [hscope, presentText_of_ne hne]⟩

theorem linkTarget?_of_import (hne : scope ≠ "") (hpath : c.path.head? = some scope)
    (himport : importOf? imports scope = some i) {written : Path}
    (hwritten : i.resolved = some written) (hfollow : written.isFollowable = true)
    (cwd root : Path) (callee : String) :
    linkTarget? cwd root imports false c callee =
      some (pageText (Path.relativeToRoot cwd written root)) := by
  have hscope : c.path.head?.filter (· != "") = some scope := by
    rw [hpath]
    exact presentText_of_ne hne
  have hplace : Path.relativeToRoot? cwd written root =
      some (Path.relativeToRoot cwd written root) := by
    rw [Path.relativeToRoot?, hfollow, Bool.or_true, if_pos rfl]
  simp [linkTarget?, hscope, himport, hwritten, hplace]

theorem callInfo_of_link {callee : Callee} {cwd root : Path} {link : String}
    (hcallee : c.callee = some callee)
    (hlink : linkTarget? cwd root imports (isLocalCall imports c) c callee.name = some link) :
    ∃ call, callInfo cwd root imports c = .ok call ∧ call.isLocal = isLocalCall imports c ∧
      call.link = some link := by
  rw [callInfo, hcallee, Option.elim_some]
  simp only [bind, Except.bind, hlink, Option.elim_some]
  exact ⟨_, rfl, rfl, rfl⟩

end Calls

namespace Workspace

variable {w : Workspace} {d : DocumentInfo} {c : CallNode} {written : Path}

/-- The workflow of a document has the call `c`, of something that is known, through the import
written as `written`. -/
def CallsThrough (w : Workspace) (d : DocumentInfo) (c : CallNode) (written : Path) : Prop :=
  ∃ doc wf scope i, w.load d.filePath = .ok doc ∧ doc.workflow = some wf ∧
    c ∈ Node.callsOf wf.body ∧ c.callee.isSome = true ∧ c.path.head? = some scope ∧
    Calls.importOf? d.imports scope = some i ∧ i.resolved = some written

theorem calls_of_ofSource {dialect : Literal.Dialect} {cwd root : Path} {doc : DocumentSource}
    {imports : List ImportInfo} {wf : WorkflowSource} {info : WorkflowInfo}
    (h : WorkflowInfo.ofSource dialect cwd root doc imports wf = .ok info) :
    info.calls = Calls.callList cwd root imports wf.body := by
  obtain ⟨inputs, -, h⟩ := exists_of_bind_eq_ok h
  obtain ⟨outputs, -, h⟩ := exists_of_bind_eq_ok h
  cases himages : Images.images? doc wf with
  | none => simp [himages, bind, Except.bind] at h
  | some images =>
    rw [himages] at h
    obtain rfl := Except.ok.inj h
    rfl

/-- The calls of a documented workflow. -/
theorem calls_of_parse {root file : Path} {doc : DocumentSource} {wf : WorkflowSource}
    (h : w.parse root file = .ok d) (hload : w.load file = .ok doc)
    (hworkflow : doc.workflow = some wf) :
    ∃ info, d.workflow = some info ∧
      info.calls = Calls.callList w.cwd root d.imports wf.body := by
  obtain ⟨doc', hdoc, h⟩ := exists_of_bind_eq_ok h
  obtain rfl : doc = doc' := Except.ok.inj (hload.symm.trans (eq_ok_of_mapError hdoc))
  obtain ⟨workflow, hsurvey, h⟩ := exists_of_bind_eq_ok h
  obtain ⟨tasks, -, h⟩ := exists_of_bind_eq_ok h
  obtain rfl := Except.ok.inj h
  rw [hworkflow] at hsurvey
  obtain ⟨info, hinfo, hsome⟩ := exists_of_bind_eq_ok hsurvey
  obtain rfl := Except.ok.inj hsome
  exact ⟨info, rfl, calls_of_ofSource (eq_ok_of_mapError hinfo)⟩

/-- The import behind a call has a scope that is not empty, and leads somewhere. Empty scopes are
left out when imports are documented. -/
theorem import_of_callsThrough {root : Path} (hparse : w.parse root d.filePath = .ok d)
    {scope : String} {i : ImportInfo} (himport : Calls.importOf? d.imports scope = some i)
    (hwritten : i.resolved = some written) :
    i ∈ d.imports ∧ i.scope = some scope ∧ scope ≠ "" ∧
      written = d.filePath.parent.join (Path.ofText i.address) ∧
      w.tree.pathExists w.cwd written = true := by
  have hmem : i ∈ d.imports := List.mem_of_find?_eq_some himport
  have hscope : i.scope = some scope := by simpa using List.find?_some himport
  obtain ⟨doc, -, -, -, himports⟩ := parse_eq_ok hparse
  rw [himports, importInfos, List.mem_map] at hmem
  obtain ⟨source, -, rfl⟩ := hmem
  have hne : scope ≠ "" := by
    obtain ⟨-, hpresent⟩ := Option.filter_eq_some_iff.1 hscope
    simpa using hpresent
  refine ⟨List.mem_of_find?_eq_some himport, hscope, hne, ?_⟩
  rw [resolveImport] at hwritten
  dsimp only at hwritten
  split at hwritten
  · obtain rfl := Option.some.inj hwritten
    exact ⟨rfl, ‹_›⟩
  · exact absurd hwritten (by simp)

/-- A path that leads somewhere in a regular tree can be spelled and followed. -/
theorem spelled_of_pathExists (htree : w.tree.Regular) (habs : written.isAbsolute = true)
    (hexists : w.tree.pathExists w.cwd written = true) :
    Path.Spelled written.names ∧ written.isFollowable = true := by
  obtain ⟨place, hplace⟩ := Option.isSome_iff_exists.1 hexists
  rw [FileTree.locate?, Path.join_of_isAbsolute habs] at hplace
  have hname : ∀ name ∈ written.names,
      Path.isName name = true ∧ '/' ∉ name.toList ∧ Path.hasZero name = false :=
    fun name hmem => htree.name_of_walk hplace hmem
  refine ⟨fun name hmem => ⟨(hname name hmem).1, (hname name hmem).2.1⟩, ?_⟩
  rw [Path.isFollowable, Bool.not_eq_true', List.any_eq_false]
  exact fun name hmem => by simp [(hname name hmem).2.2]

/-- A call through an import is not local, and its link is made from the place of the path as it is
written. An address is absolute, or is applied to the directory of the source. -/
theorem exists_link (htree : w.tree.Regular) {root : Path}
    (habs : d.filePath.isAbsolute = true) (hparse : w.parse root d.filePath = .ok d)
    (hcall : w.CallsThrough d c written) :
    written.isAbsolute = true ∧ Path.Spelled written.names ∧
    ∃ wf info, d.workflow = some wf ∧ info ∈ wf.calls ∧
      Calls.callInfo w.cwd root d.imports c = .ok info ∧
      info.leadsTo d.relativePath = .away (Path.relativeLink (Path.ofText
        (Calls.pageText (Path.relativeToRoot w.cwd written root))) d.relativePath) := by
  obtain ⟨doc, wf, scope, i, hload, hworkflow, hmem, hcallee, hpath, himport, hwritten⟩ := hcall
  obtain ⟨hi, hscope, hne, hjoin, hexists⟩ := import_of_callsThrough hparse himport hwritten
  have habs' : written.isAbsolute = true := by
    rw [hjoin, Path.join]
    split
    · assumption
    · exact habs
  obtain ⟨hspelled, hfollow⟩ := spelled_of_pathExists htree habs' hexists
  obtain ⟨callee, hcallee⟩ := Option.isSome_iff_exists.1 hcallee
  obtain ⟨info, hinfo, hcalls⟩ := calls_of_parse hparse hload hworkflow
  have hlocal : Calls.isLocalCall d.imports c = false :=
    Calls.isLocalCall_of_import hi hscope hne hpath
  have htarget : Calls.linkTarget? w.cwd root d.imports (Calls.isLocalCall d.imports c) c
      callee.name = some (Calls.pageText (Path.relativeToRoot w.cwd written root)) := by
    rw [hlocal]
    exact Calls.linkTarget?_of_import hne hpath himport hwritten hfollow w.cwd root callee.name
  obtain ⟨call, hcallInfo, hcallLocal, hlink⟩ := Calls.callInfo_of_link hcallee htarget
  refine ⟨habs', hspelled, info, call, hinfo, ?_, hcallInfo, ?_⟩
  · rw [hcalls, Calls.callList, List.mem_filterMap]
    exact ⟨c, hmem, by rw [hcallInfo]; rfl⟩
  · have htext : Calls.pageText (Path.relativeToRoot w.cwd written root) ≠ "" :=
      Path.pageText_ne_empty fun hrelative =>
        (Path.spelled_place habs' hspelled (by rw [← hrelative])).1
    rw [CallInfo.leadsTo, hlink, presentText_of_ne htext, hcallLocal, hlocal]
    rfl

end Workspace

namespace SiteJob

variable {job : SiteJob} {cwd place : Path} {names : List String}

/-- The file that a link on the page of the source at `place` leads to. -/
def linkedFile (job : SiteJob) (cwd place : Path) (link : String) : Path :=
  Path.resolve (job.pageDir cwd place) (Path.ofText link)

theorem join_output (job : SiteJob) (cwd : Path) (names : List String) :
    cwd.join (job.output.join ⟨.relative, names⟩) =
      ⟨(cwd.join job.output).root, (cwd.join job.output).names ++ names⟩ :=
  Path.join_append cwd job.output.root job.output.names names

theorem names_pageDir (hdots : ".." ∉ place.names) (hrelative : place.root = .relative) :
    (job.pageDir cwd place).names =
      Path.collapse (cwd.join job.output).names ++ place.names.dropLast := by
  rw [pageDir, Path.resolve, Path.parent, hrelative, join_output, Path.collapse_append_of_not_mem]
  exact fun hmem => hdots (List.mem_of_mem_dropLast hmem)

/-- A link that leads up from the directory of its page and then along names leads along these from
the top of the site. -/
theorem linkedFile_of_climb (hdots : ".." ∉ place.names) (hrelative : place.root = .relative)
    {link : String} (hlink : Path.ofText link =
      ⟨.relative, List.replicate place.names.dropLast.length ".." ++ names⟩) :
    job.linkedFile cwd place link = Path.resolve cwd (job.output.join ⟨.relative, names⟩) := by
  have hdots' : ".." ∉ place.names.dropLast := fun hmem => hdots (List.mem_of_mem_dropLast hmem)
  rw [linkedFile, hlink, Path.resolve, Path.resolve, join_output, Path.join,
    if_neg (by simp [Path.isAbsolute]), names_pageDir hdots hrelative, Path.collapse_down_up hdots']

/-- A link leads to the path with its names from the top of the site, wherever it stands. -/
theorem linkedFile_eq (hdots : ".." ∉ place.names) (hrelative : place.root = .relative)
    (hnormal : place.normalize = place) (hspelled : Path.Spelled names)
    (hnames : Path.normalNames names = names) :
    job.linkedFile cwd place
        (Path.relativeLink (Path.ofText (Calls.pageText ⟨.relative, names⟩)) place) =
      Path.resolve cwd (job.output.join ⟨.relative, names.map Path.linkName⟩) := by
  have hdepth : place.normalize.parent.parts.length = place.names.dropLast.length := by
    rw [hnormal, Path.parts, Path.parent, if_pos hrelative]
  refine linkedFile_of_climb hdots hrelative ?_
  rw [Path.ofText_relativeLink hspelled hnames, hdepth]

/-- Names that lead to a place without leaving their start lead to it from the top of the site. -/
theorem resolve_output_of_leadsTo {place : List String} (h : Path.LeadsTo names place) :
    Path.resolve cwd (job.output.join ⟨.relative, names.map Path.linkName⟩) =
      ⟨.slash, (Path.resolve cwd job.output).names ++ place.map Path.linkName⟩ := by
  have hdots : ∀ name, Path.linkName name = ".." ↔ name = ".." := fun _ => Path.linkName_eq_dots_iff
  have hclimbs : Path.climbs (names.map Path.linkName) = 0 :=
    (Path.climbsFrom_map hdots 0 names).trans h.1
  have hcollapse : Path.collapse (names.map Path.linkName) = place.map Path.linkName := by
    rw [← h.2]
    exact Path.collapseOnto_map hdots [] names
  rw [Path.resolve, join_output, Path.collapse_append_of_climbs hclimbs, hcollapse]
  rfl

section Documents

variable {w : Workspace} {p : Project} {d : DocumentInfo}

/-- The place of a document has names that entries can have, and is in normal form. -/
theorem plain_place (htree : w.tree.WellFormed) (hd : d ∈ (w.collect p).1) :
    Path.Plain d.relativePath.names ∧ d.relativePath.normalize = d.relativePath := by
  obtain ⟨hsource, hplace⟩ := isSourceOf_of_mem htree hd
  rw [hplace]
  exact ⟨(Path.placed_relativeToRoot hsource).plain hsource, Path.normalize_normalize _⟩

/-- The page of a document at a relative place is where a link to this place leads exactly if the
place is linkable. A source at the top itself has no name, and no page. -/
theorem pageFile?_eq_link_iff (htree : w.tree.WellFormed) (hd : d ∈ (w.collect p).1)
    {place : List String} (hplace : d.relativePath = ⟨.relative, place⟩) :
    job.pageFile? w.cwd d =
        some ⟨.slash, (Path.resolve w.cwd job.output).names ++ place.map Path.linkName⟩ ↔
      Path.Linkable d.relativePath := by
  obtain ⟨hsource, hplaced⟩ := isSourceOf_of_mem htree hd
  have hplain := (plain_place htree hd).1
  rw [pageFile?_eq_some_iff hsource hplaced]
  rw [hplace] at hplain ⊢
  rcases List.eq_nil_or_concat' place with rfl | ⟨dir, name, rfl⟩
  · exact ⟨fun h => absurd rfl h.1, fun h => absurd rfl h.names_ne_nil⟩
  · have hdots : ".." ∉ dir := fun hmem => hplain.not_mem (List.mem_append_left _ hmem)
    rw [pageDir_concat hdots, Path.stem, Path.name_concat, ← Path.map_linkName_eq_page_iff,
      Path.child, Path.mk.injEq, List.append_assoc, List.append_cancel_left_eq]
    simp

theorem isAbsolute_of_mem (htree : w.tree.WellFormed) (habs : p.root.isAbsolute = true)
    (hd : d ∈ (w.collect p).1) : d.filePath.isAbsolute = true := by
  obtain ⟨hsource, -⟩ := isSourceOf_of_mem htree hd
  generalize d.filePath = file at hsource
  cases hsource with
  | below _ => exact habs
  | resolved _ => rfl

end Documents

/-- **When the link of a call leads to the page of what it calls.** A call through an import has a
link. On a page at a relative place it leads to the place of the path that the import is written
with, from the top of the site, with every `.wdl` in its names replaced. If the import leads to its
source without a detour, this is the page of the source exactly if the source has the ending of
sources nowhere but at the end of its place, or is named like a page. Where the link leads does not
depend on the callee, only on the path that is written. -/
theorem links_reach_iff (job : SiteJob) (w : Workspace) (p : Project) (htree : w.tree.Regular)
    (habs : p.root.isAbsolute = true) (d d' : DocumentInfo) (hd : d ∈ (w.collect p).1)
    (hd' : d' ∈ (w.collect p).1) (c : CallNode) (written : Path)
    (hcall : w.CallsThrough d c written)
    (htarget : Path.resolve w.cwd written = Path.resolve w.cwd d'.filePath) :
    ∃ wf info link, d.workflow = some wf ∧ info ∈ wf.calls ∧
      Calls.callInfo w.cwd p.root d.imports c = .ok info ∧
      info.leadsTo d.relativePath = .away link ∧
      (d.relativePath.root = .relative →
        (∀ names, Path.relativeToRoot w.cwd written p.root = ⟨.relative, names⟩ →
          job.linkedFile w.cwd d.relativePath link =
            Path.resolve w.cwd (job.output.join ⟨.relative, names.map Path.linkName⟩)) ∧
        (Path.Direct p.root written d'.filePath → d'.relativePath.root = .relative →
          (job.pageFile? w.cwd d' = some (job.linkedFile w.cwd d.relativePath link) ↔
            Path.Linkable d'.relativePath))) := by
  have hwell := htree.toWellFormed
  obtain ⟨-, hparse⟩ := Workspace.mem_documents.1 hd
  obtain ⟨habs', hspelled, wf, info, hwf, hinfo, hcallInfo, hlink⟩ :=
    Workspace.exists_link htree (isAbsolute_of_mem hwell habs hd) hparse hcall
  obtain ⟨hplain, hnormal⟩ := plain_place hwell hd
  obtain ⟨hsource', hplaced'⟩ := isSourceOf_of_mem hwell hd'
  refine ⟨wf, info, _, hwf, hinfo, hcallInfo, hlink, fun hrelative => ?_⟩
  have hleads : ∀ names, Path.relativeToRoot w.cwd written p.root = ⟨.relative, names⟩ →
      job.linkedFile w.cwd d.relativePath (Path.relativeLink (Path.ofText
          (Calls.pageText (Path.relativeToRoot w.cwd written p.root))) d.relativePath) =
        Path.resolve w.cwd (job.output.join ⟨.relative, names.map Path.linkName⟩) := by
    intro names hnames
    obtain ⟨hspelled', hnormal'⟩ := Path.spelled_place habs' hspelled hnames
    rw [hnames]
    exact linkedFile_eq hplain.not_mem hrelative hnormal hspelled' hnormal'
  refine ⟨hleads, fun hdirect hrelative' => ?_⟩
  have hplace' : d'.relativePath = ⟨.relative, d'.relativePath.names⟩ := by rw [← hrelative']
  by_cases hempty : d'.relativePath.names = []
  · refine iff_of_false (fun hpage => ?_) fun hlinkable => hlinkable.names_ne_nil hempty
    exact ((pageFile?_eq_some_iff hsource' hplaced').1 hpage).1 hempty
  · have hslash : ∀ name ∈ written.names, '/' ∉ name.toList :=
      fun name hname => (hspelled name hname).2
    obtain ⟨names, hnames, hleadsTo⟩ :=
      hdirect.place habs hslash hsource' htarget (hplaced'.symm.trans hplace') hempty
    rw [hleads names hnames, resolve_output_of_leadsTo hleadsTo]
    exact pageFile?_eq_link_iff hwell hd' hplace'

/-- A call of the task `t` through the import with the given scope. -/
def callThrough (scope : String) : CallNode where
  path := [scope, "t"]
  name := "t"
  inputs := []
  callee := some ⟨.task, "t"⟩

/-- A source that imports another twice, through a directory beside it and through the directory
above, and calls a task of it through both. -/
def detourSource : DocumentSource where
  imports := [⟨"lib/../b.wdl", some "inner", none⟩, ⟨"../p/b.wdl", some "outer", none⟩]
  workflow := some
    { name := "w", body := [.call (callThrough "inner"), .call (callThrough "outer")] }

/-- A project with that source and the imported one. -/
def detourWorkspace : Workspace where
  tree := ⟨[(["p"], .directory), (["p", "a.wdl"], .file .empty), (["p", "b.wdl"], .file .empty),
    (["p", "lib"], .directory)]⟩
  sources := [(["p", "a.wdl"], .ok detourSource), (["p", "b.wdl"], .ok {})]

theorem regular_detour : detourWorkspace.tree.Regular :=
  ⟨⟨by decide, by decide⟩, by decide⟩

theorem exists_documents_detour :
    (∃ d ∈ (detourWorkspace.collect librariesProject).1, d.filePath = ⟨.slash, ["p", "a.wdl"]⟩) ∧
    ∃ d ∈ (detourWorkspace.collect librariesProject).1, d.filePath = ⟨.slash, ["p", "b.wdl"]⟩ := by
  constructor
  · refine Workspace.exists_document (List.mem_append_left _ ?_) ⟨_, rfl⟩
    exact Project.mem_internalFiles.2 ⟨by decide, by decide⟩
  · refine Workspace.exists_document (List.mem_append_left _ ?_) ⟨_, rfl⟩
    exact Project.mem_internalFiles.2 ⟨by decide, by decide⟩

theorem callsThrough_detour {d : DocumentInfo}
    (hd : d ∈ (detourWorkspace.collect librariesProject).1)
    (hfile : d.filePath = ⟨.slash, ["p", "a.wdl"]⟩) :
    detourWorkspace.CallsThrough d (callThrough "inner") ⟨.slash, ["p", "lib", "..", "b.wdl"]⟩ ∧
      detourWorkspace.CallsThrough d (callThrough "outer") ⟨.slash, ["p", "..", "p", "b.wdl"]⟩ := by
  obtain ⟨-, hparse⟩ := Workspace.mem_documents.1 hd
  obtain ⟨doc, hload, -, -, himports⟩ := Workspace.parse_eq_ok hparse
  have hsource : detourWorkspace.load d.filePath = .ok detourSource := by rw [hfile]; rfl
  obtain rfl : detourSource = doc := Except.ok.inj (hsource.symm.trans hload)
  rw [Workspace.CallsThrough, Workspace.CallsThrough, himports, hfile]
  exact ⟨⟨detourSource, _, "inner", _, rfl, rfl, .head _, rfl, rfl, rfl, rfl⟩,
    detourSource, _, "outer", _, rfl, rfl, .tail _ (.head _), rfl, rfl, rfl, rfl⟩

theorem links_reach_iff_detour :
    detourWorkspace.tree.Regular ∧ librariesProject.root.isAbsolute = true ∧
    ∃ d ∈ (detourWorkspace.collect librariesProject).1,
      ∃ d' ∈ (detourWorkspace.collect librariesProject).1,
        detourWorkspace.CallsThrough d (callThrough "inner") ⟨.slash, ["p", "lib", "..", "b.wdl"]⟩ ∧
        d'.filePath = ⟨.slash, ["p", "b.wdl"]⟩ ∧
        ∃ wf info link, d.workflow = some wf ∧ info ∈ wf.calls ∧
          info.leadsTo d.relativePath = .away link ∧
          siteBeside.pageFile? detourWorkspace.cwd d' =
            some (siteBeside.linkedFile detourWorkspace.cwd d.relativePath link) := by
  obtain ⟨⟨d, hd, hfile⟩, d', hd', hfile'⟩ := exists_documents_detour
  obtain ⟨hcall, -⟩ := callsThrough_detour hd hfile
  have hplace := (isSourceOf_of_mem regular_detour.toWellFormed hd).2
  have hplace' := (isSourceOf_of_mem regular_detour.toWellFormed hd').2
  rw [hfile] at hplace
  rw [hfile'] at hplace'
  have htarget : Path.resolve detourWorkspace.cwd ⟨.slash, ["p", "lib", "..", "b.wdl"]⟩ =
      Path.resolve detourWorkspace.cwd d'.filePath := by
    rw [hfile']
    decide
  obtain ⟨wf, info, link, hwf, hinfo, -, hlink, hreach⟩ := links_reach_iff siteBeside
    detourWorkspace librariesProject regular_detour (by decide) d d' hd hd' _ _ hcall htarget
  have hdirect : Path.Direct librariesProject.root ⟨.slash, ["p", "lib", "..", "b.wdl"]⟩
      d'.filePath := by
    rw [hfile']
    exact @Path.Direct.below _ _ _ ["lib", "..", "b.wdl"] ["b.wdl"] rfl rfl (by decide) (by decide)
  have hlinkable : Path.Linkable d'.relativePath := by
    rw [hplace']
    exact ⟨by decide, by decide, by decide⟩
  refine ⟨regular_detour, by decide, d, hd, d', hd', hcall, hfile', wf, info, link, hwf, hinfo,
    hlink, ((hreach ?_).2 hdirect ?_).2 hlinkable⟩
  · rw [hplace]
    decide
  · rw [hplace']
    decide

/-- The link through the directory above the project leads to a page in a directory of its own,
and not to the page of the source. -/
theorem reentering_link_misses :
    ∃ d ∈ (detourWorkspace.collect librariesProject).1,
      ∃ d' ∈ (detourWorkspace.collect librariesProject).1,
        detourWorkspace.CallsThrough d (callThrough "outer") ⟨.slash, ["p", "..", "p", "b.wdl"]⟩ ∧
        d'.filePath = Path.resolve detourWorkspace.cwd ⟨.slash, ["p", "..", "p", "b.wdl"]⟩ ∧
        ∃ wf info link, d.workflow = some wf ∧ info ∈ wf.calls ∧
          info.leadsTo d.relativePath = .away link ∧
          siteBeside.linkedFile detourWorkspace.cwd d.relativePath link =
            ⟨.slash, ["out", "p", "b.html"]⟩ ∧
          siteBeside.pageFile? detourWorkspace.cwd d' = some ⟨.slash, ["out", "b.html"]⟩ := by
  obtain ⟨⟨d, hd, hfile⟩, d', hd', hfile'⟩ := exists_documents_detour
  obtain ⟨-, hcall⟩ := callsThrough_detour hd hfile
  have hplace := (isSourceOf_of_mem regular_detour.toWellFormed hd).2
  have hplace' := (isSourceOf_of_mem regular_detour.toWellFormed hd').2
  rw [hfile] at hplace
  rw [hfile'] at hplace'
  obtain ⟨-, hparse⟩ := Workspace.mem_documents.1 hd
  obtain ⟨-, -, wf, info, hwf, hinfo, -, hlink⟩ :=
    Workspace.exists_link regular_detour (by rw [hfile]; decide) hparse hcall
  refine ⟨d, hd, d', hd', hcall, hfile'.trans (by decide), wf, info, _, hwf, hinfo, hlink, ?_, ?_⟩
  · rw [hplace]
    decide
  · rw [pageFile?, hplace']
    decide

end SiteJob

end WorkflowDocs
