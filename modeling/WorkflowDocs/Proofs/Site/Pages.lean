import WorkflowDocs.Proofs.FileTree.Writing
import WorkflowDocs.Proofs.Path.Placement
import WorkflowDocs.Proofs.Results
import WorkflowDocs.Proofs.Workspace.Closure
import WorkflowDocs.Site.Generate

/-!
# The pages of a site

The page of a document is written to one file, in the directory of the place of its source, under
the name of the source with another extension. Two documents share a page exactly when both of these
agree, and a document takes the page of the index or of the image inventory exactly when its place
is at the top under such a name.

Sources of the project itself are told apart by this but for one pair: a source named `.wdl` has no
extension, and shares its page with `.wdl.wdl` beside it. Third-party sources are not told apart in
general, because a directory `external` cuts off what is before it.

## Main definitions

* `SiteJob.pageFile?`: the file that the page of a document is written to
* `SiteJob.pageDir`: the directory of the page of a source

## Main results

* `SiteJob.writePage_eq_some`: writing a page changes that file and nothing else
* `SiteJob.pageFile?_eq_some_iff`: the file of a page, by the place of its source
* `SiteJob.pages_apart_iff`: when pages are written to files of their own
* `SiteJob.index_source_overwritten`: a document whose page is replaced by the index
-/

namespace WorkflowDocs

/-! ## The names of sources -/

namespace Path

theorem exists_of_endsWith {name piece : String} (h : Text.endsWith name piece = true) :
    ∃ first : List Char, name.toList = first ++ piece.toList := by
  rw [Text.endsWith, List.isPrefixOf_iff_prefix, List.reverse_prefix] at h
  obtain ⟨first, hfirst⟩ := h
  exact ⟨first, hfirst.symm⟩

theorem splitName_of_source {first : List Char} (h : first ≠ []) :
    splitName (String.ofList (first ++ sourceSuffix.toList)) =
      (String.ofList first, sourceSuffix) := by
  have hsuffix : sourceSuffix.toList = ['.', 'w', 'd', 'l'] := by decide
  have htail : ((first ++ ['.', 'w', 'd', 'l']).reverse.takeWhile (· != '.')).reverse =
      ['w', 'd', 'l'] := by
    simp
  have hstem : (first ++ ['.', 'w', 'd', 'l']).take
      ((first ++ ['.', 'w', 'd', 'l']).length - ['w', 'd', 'l'].length - 1) = first := by
    simp
  rw [splitName, String.toList_ofList, hsuffix, htail, hstem, if_pos (by simp [h])]
  rfl

/-- The name of a source is its stem with the ending of sources, or this ending alone. -/
theorem name_of_source {name : String} (h : Text.endsWith name sourceSuffix = true) :
    name = (splitName name).1 ++ sourceSuffix ∨ name = sourceSuffix := by
  obtain ⟨first, hname⟩ := exists_of_endsWith h
  have hofList : name = String.ofList (first ++ sourceSuffix.toList) := by
    rw [← hname, String.ofList_toList]
  by_cases hfirst : first = []
  · refine .inr ?_
    rw [hofList, hfirst, List.nil_append, String.ofList_toList]
  · refine .inl ?_
    rw [hofList, splitName_of_source hfirst, String.ofList_append, String.ofList_toList]

theorem stem_sourceSuffix : (splitName sourceSuffix).1 = sourceSuffix := by decide

/-- Sources with the same stem have the same name, but for a source that is named like the ending of
sources. -/
theorem name_eq_of_stem_eq {name name' : String} (h : Text.endsWith name sourceSuffix = true)
    (h' : Text.endsWith name' sourceSuffix = true)
    (hstem : (splitName name).1 = (splitName name').1) :
    name = name' ∨ (name = sourceSuffix ∧ name' = sourceSuffix ++ sourceSuffix) ∨
      (name' = sourceSuffix ∧ name = sourceSuffix ++ sourceSuffix) := by
  rcases name_of_source h with hname | rfl
  · rcases name_of_source h' with hname' | rfl
    · exact .inl (by rw [hname, hname', hstem])
    · rw [stem_sourceSuffix] at hstem
      exact .inr (.inr ⟨rfl, by rw [hname, hstem]⟩)
  · rcases name_of_source h' with hname' | rfl
    · rw [stem_sourceSuffix] at hstem
      exact .inr (.inl ⟨rfl, by rw [hname', ← hstem]⟩)
    · exact .inl rfl

theorem name_ne_nil_of_plain {p : Path} (hplain : Plain p.names) (h : p.names ≠ []) :
    p.name ≠ "" := by
  rw [name, List.getLast?_eq_some_getLast h, Option.getD_some]
  exact (hplain _ (List.getLast_mem h)).1

end Path

/-! ## The files of pages -/

namespace SiteJob

/-- The file that the page of a document is written to. -/
def pageFile? (job : SiteJob) (cwd : Path) (d : DocumentInfo) : Option Path :=
  (Path.page? d.relativePath).map fun page => Path.resolve cwd (job.output.join page)

/-- The directory of the page of a source at a place. -/
def pageDir (job : SiteJob) (cwd place : Path) : Path :=
  Path.resolve cwd (job.output.join place.parent)

theorem documentPage_path {look : Appearance} {d : DocumentInfo} {all : List DocumentInfo}
    {page : Page} (h : documentPage look d all = .ok page) :
    Path.page? d.relativePath = some page.path := by
  obtain ⟨path, hpath, h⟩ := exists_of_bind_eq_ok h
  obtain ⟨-, -, h⟩ := exists_of_bind_eq_ok h
  obtain ⟨callers, -, h⟩ := exists_of_bind_eq_ok h
  obtain ⟨content, -, h⟩ := exists_of_bind_eq_ok h
  obtain ⟨-, -, h⟩ := exists_of_bind_eq_ok h
  have hpage : page.path = path := by
    split at h
    · exact absurd h (by simp)
    · obtain rfl := Except.ok.inj h
      rfl
  cases hsome : Path.page? d.relativePath with
  | none => simp [hsome] at hpath
  | some path' =>
    rw [hsome] at hpath
    rw [hpage, Except.ok.inj hpath]

/-- Writing the page of a document puts a file at its place, and changes nothing else. -/
theorem writePage_eq_some {job : SiteJob} {cwd : Path} {look : Appearance} {all : List DocumentInfo}
    {d : DocumentInfo} {t t' : FileTree} (h : job.writePage cwd look all d t = some t') :
    ∃ file, job.pageFile? cwd d = some file ∧
      (∃ content, t'.get? file.names = some (.file content)) ∧
      ∀ q, q ≠ file.names → t'.get? q = t.get? q := by
  have hwritten : ∃ page text, Path.page? d.relativePath = some page ∧
      FileTree.writeText cwd (job.output.join page) text t = some t' := by
    rw [writePage] at h
    split at h
    · rename_i page hpage
      exact ⟨page.path, _, documentPage_path hpage, h⟩
    · obtain ⟨page, hpage, h⟩ := Option.bind_eq_some_iff.1 h
      exact ⟨page, _, hpage, h⟩
    · exact absurd h (by simp)
  obtain ⟨page, text, hpage, hwrite⟩ := hwritten
  obtain ⟨hne, rfl⟩ := FileTree.write_eq_some hwrite
  refine ⟨_, by rw [pageFile?, hpage, Option.map_some], ⟨text.toUTF8, ?_⟩, fun q hq => ?_⟩
  · rw [FileTree.get?_put _ hne, if_pos rfl]
  · rw [FileTree.get?_put _ hne, if_neg hq]

/-! ## The file of a page by the place of its source -/

theorem withSuffix?_eq_some_iff {place page : Path} {suffix : String}
    (hplain : Path.Plain place.names) :
    place.withSuffix? suffix = some page ↔
      place.names ≠ [] ∧ page = place.parent.child (place.stem ++ suffix) := by
  by_cases hnames : place.names = []
  · have hname : place.name = "" := by rw [Path.name, hnames]; rfl
    simp [Path.withSuffix?, hname, hnames]
  · rw [Path.withSuffix?, if_neg (Path.name_ne_nil_of_plain hplain hnames), Option.some.injEq]
    exact ⟨fun h => ⟨hnames, h.symm⟩, fun h => h.2.symm⟩

theorem pageName_ne_dots (stem : String) : stem ++ Path.pageSuffix ≠ ".." := by
  intro h
  have hlast : (stem ++ Path.pageSuffix).toList.getLast? = some 'l' := by
    rw [String.toList_append, show Path.pageSuffix.toList = ['.', 'h', 't', 'm', 'l'] by decide]
    simp
  rw [h] at hlast
  exact absurd hlast (by decide)

/-- The page of a document is in the directory of the place of its source, under the stem of its
name. -/
theorem pageFile?_eq_some_iff {job : SiteJob} {cwd root file : Path} {d : DocumentInfo}
    (hsource : Path.IsSourceOf root d.filePath)
    (hplace : d.relativePath = Path.relativeToRoot cwd d.filePath root) :
    job.pageFile? cwd d = some file ↔
      d.relativePath.names ≠ [] ∧
        file = (job.pageDir cwd d.relativePath).child (d.relativePath.stem ++ Path.pageSuffix) := by
  have hplain : Path.Plain d.relativePath.names :=
    hplace ▸ (Path.placed_relativeToRoot hsource).plain hsource
  have hnormal : d.relativePath.normalize = d.relativePath := by
    rw [hplace, Path.relativeToRoot, Path.normalize_normalize]
  have hresolve : Path.resolve cwd (job.output.join
      (d.relativePath.parent.child (d.relativePath.stem ++ Path.pageSuffix))) =
      (job.pageDir cwd d.relativePath).child (d.relativePath.stem ++ Path.pageSuffix) := by
    rw [Path.join_child, Path.resolve_child (pageName_ne_dots _), pageDir]
  rw [pageFile?, Path.page?, hnormal, Option.map_eq_some_iff]
  constructor
  · rintro ⟨page, hpage, rfl⟩
    obtain ⟨hne, rfl⟩ := (withSuffix?_eq_some_iff hplain).1 hpage
    exact ⟨hne, hresolve⟩
  · rintro ⟨hne, rfl⟩
    exact ⟨_, (withSuffix?_eq_some_iff hplain).2 ⟨hne, rfl⟩, hresolve⟩

/-- Two places share a page: its directory and the stem of its name are the same for both. -/
def SharePage (job : SiteJob) (cwd place place' : Path) : Prop :=
  job.pageDir cwd place = job.pageDir cwd place' ∧ place.stem = place'.stem

/-- A place takes the page with the given stem at the top of the site. -/
def TakesTop (job : SiteJob) (cwd place : Path) (stem : String) : Prop :=
  job.pageDir cwd place = Path.resolve cwd job.output ∧ place.stem = stem

/-- The place of a document that has a page. -/
def PagePlace (p : Project) (d : DocumentInfo) (place : Path) : Prop :=
  Path.Placed p.root d.filePath place ∧ place.names ≠ []

theorem pageName_inj {stem stem' : String} :
    stem ++ Path.pageSuffix = stem' ++ Path.pageSuffix ↔ stem = stem' :=
  String.append_left_inj _

theorem resolve_output_child (job : SiteJob) (cwd : Path) (stem : String) :
    Path.resolve cwd (job.output.child (stem ++ Path.pageSuffix)) =
      (Path.resolve cwd job.output).child (stem ++ Path.pageSuffix) :=
  Path.resolve_child (pageName_ne_dots stem) cwd job.output

section Documents

variable {job : SiteJob} {w : Workspace} {p : Project} {d d' : DocumentInfo}

/-- The sources of documents have names that entries of the tree have. -/
theorem isSourceOf_of_mem_files (htree : w.tree.WellFormed) {file : Path}
    (h : file ∈ p.internalFiles w.tree w.cwd ++ w.thirdParty p) : Path.IsSourceOf p.root file := by
  rcases List.mem_append.1 h with hinternal | hexternal
  · obtain ⟨place, names, hplace, -, -, -, rfl⟩ := Project.exists_of_mem_internalFiles hinternal
    exact .below ((htree.plain _ hplace).of_suffix (List.suffix_append _ _))
  · obtain ⟨place, hplace, rfl⟩ :=
      List.mem_map.1 (Workspace.mem_allPaths_of_mem_thirdParty hexternal)
    refine .resolved ?_
    rcases List.mem_cons.1 hplace with rfl | hentry
    · exact fun name hmem => absurd hmem List.not_mem_nil
    · exact htree.plain place hentry

theorem isSourceOf_of_mem (htree : w.tree.WellFormed) (hd : d ∈ (w.collect p).1) :
    Path.IsSourceOf p.root d.filePath ∧
      d.relativePath = Path.relativeToRoot w.cwd d.filePath p.root := by
  obtain ⟨hfile, hparse⟩ := Workspace.mem_documents.1 hd
  obtain ⟨-, -, -, hplace, -⟩ := Workspace.parse_eq_ok hparse
  exact ⟨isSourceOf_of_mem_files htree hfile, hplace⟩

theorem pagePlace_iff (htree : w.tree.WellFormed) (hd : d ∈ (w.collect p).1) {place : Path} :
    PagePlace p d place ↔ d.relativePath = place ∧ place.names ≠ [] := by
  obtain ⟨hsource, hplace⟩ := isSourceOf_of_mem htree hd
  rw [PagePlace, Path.placed_iff hsource, ← hplace]

/-- A document has one place. -/
theorem PagePlace.eq (htree : w.tree.WellFormed) (hd : d ∈ (w.collect p).1) {place place' : Path}
    (h : PagePlace p d place) (h' : PagePlace p d place') : place = place' :=
  ((pagePlace_iff htree hd).1 h).1.symm.trans ((pagePlace_iff htree hd).1 h').1

theorem pageFile?_eq_some_iff_of_mem (htree : w.tree.WellFormed) (hd : d ∈ (w.collect p).1)
    {file : Path} :
    job.pageFile? w.cwd d = some file ↔
      ∃ place, PagePlace p d place ∧
        file = (job.pageDir w.cwd place).child (place.stem ++ Path.pageSuffix) := by
  obtain ⟨hsource, hplace⟩ := isSourceOf_of_mem htree hd
  rw [pageFile?_eq_some_iff hsource hplace]
  constructor
  · rintro ⟨hne, rfl⟩
    exact ⟨d.relativePath, (pagePlace_iff htree hd).2 ⟨rfl, hne⟩, rfl⟩
  · rintro ⟨place, hpagePlace, rfl⟩
    obtain ⟨rfl, hne⟩ := (pagePlace_iff htree hd).1 hpagePlace
    exact ⟨hne, rfl⟩

theorem exists_shared_iff (htree : w.tree.WellFormed) (hd : d ∈ (w.collect p).1)
    (hd' : d' ∈ (w.collect p).1) :
    (∃ file, job.pageFile? w.cwd d = some file ∧ job.pageFile? w.cwd d' = some file) ↔
      ∃ place place', PagePlace p d place ∧ PagePlace p d' place' ∧
        job.SharePage w.cwd place place' := by
  simp only [pageFile?_eq_some_iff_of_mem htree hd, pageFile?_eq_some_iff_of_mem htree hd']
  constructor
  · rintro ⟨file, ⟨place, hplace, hfile⟩, place', hplace', hfile'⟩
    obtain ⟨hdir, hname⟩ := Path.child_inj.1 (hfile.symm.trans hfile')
    exact ⟨place, place', hplace, hplace', hdir, pageName_inj.1 hname⟩
  · rintro ⟨place, place', hplace, hplace', hdir, hstem⟩
    exact ⟨_, ⟨place, hplace, rfl⟩, place', hplace', by rw [hdir, hstem]⟩

theorem pageFile?_eq_top_iff (htree : w.tree.WellFormed) (hd : d ∈ (w.collect p).1)
    (stem : String) :
    job.pageFile? w.cwd d =
        some (Path.resolve w.cwd (job.output.child (stem ++ Path.pageSuffix))) ↔
      ∃ place, PagePlace p d place ∧ job.TakesTop w.cwd place stem := by
  rw [resolve_output_child, pageFile?_eq_some_iff_of_mem htree hd]
  refine exists_congr fun place => and_congr_right fun _ => ?_
  rw [eq_comm, Path.child_inj, pageName_inj, TakesTop]

/-! ## Sources of the project -/

theorem pageDir_concat {dir : List String} (hdots : ".." ∉ dir) (cwd : Path) (name : String) :
    job.pageDir cwd ⟨.relative, dir ++ [name]⟩ =
      ⟨.slash, (Path.resolve cwd job.output).names ++ dir⟩ := by
  have hjoin : cwd.join (job.output.join ⟨.relative, dir⟩) =
      ⟨(cwd.join job.output).root, (cwd.join job.output).names ++ dir⟩ :=
    Path.join_append cwd job.output.root job.output.names dir
  rw [pageDir, Path.parent_concat, Path.resolve, hjoin, Path.collapse_append_of_not_mem _ hdots,
    Path.resolve]

/-- The place of a source of the project is its path below the root, in some directory `dir` under
a name with the ending of sources. -/
theorem exists_place_of_internal (htree : w.tree.WellFormed)
    (hinternal : d.filePath ∈ p.internalFiles w.tree w.cwd) :
    ∃ dir name, ".." ∉ dir ∧ Text.endsWith name sourceSuffix = true ∧
      d.filePath = ⟨p.root.root, p.root.names ++ dir ++ [name]⟩ ∧
      PagePlace p d ⟨.relative, dir ++ [name]⟩ := by
  obtain ⟨place, names, hplace, hne, hends, hexternal, hfile⟩ :=
    Project.exists_of_mem_internalFiles hinternal
  have hplain : Path.Plain names := (htree.plain _ hplace).of_suffix (List.suffix_append _ _)
  have hnames := List.dropLast_concat_getLast hne
  rw [List.getLast?_eq_some_getLast hne, Option.getD_some] at hends
  refine ⟨names.dropLast, names.getLast hne,
    fun hmem => hplain.not_mem (List.mem_of_mem_dropLast hmem), hends, ?_, ?_⟩
  · rw [List.append_assoc, hnames, hfile]
  · rw [hnames]
    refine ⟨.inside ?_ hexternal, hne⟩
    rw [hfile]
    exact Path.relativeTo?_append _ _ _

theorem pageFile?_of_internal (htree : w.tree.WellFormed) (hd : d ∈ (w.collect p).1)
    (hinternal : d.filePath ∈ p.internalFiles w.tree w.cwd) :
    ∃ file, job.pageFile? w.cwd d = some file := by
  obtain ⟨dir, name, -, -, -, hplace⟩ := exists_place_of_internal htree hinternal
  exact ⟨_, (pageFile?_eq_some_iff_of_mem htree hd).2 ⟨_, hplace, rfl⟩⟩

/-- Two sources of the project share a page only when one is named `.wdl` and the other `.wdl.wdl`,
in the same directory. -/
theorem names_of_internal_shared (htree : w.tree.WellFormed) (hd : d ∈ (w.collect p).1)
    (hd' : d' ∈ (w.collect p).1) (hinternal : d.filePath ∈ p.internalFiles w.tree w.cwd)
    (hinternal' : d'.filePath ∈ p.internalFiles w.tree w.cwd) (hne : d.filePath ≠ d'.filePath)
    {file : Path} (hfile : job.pageFile? w.cwd d = some file)
    (hfile' : job.pageFile? w.cwd d' = some file) :
    d.filePath.parent = d'.filePath.parent ∧
      (d.filePath.name = ".wdl" ∧ d'.filePath.name = ".wdl.wdl" ∨
        d'.filePath.name = ".wdl" ∧ d.filePath.name = ".wdl.wdl") := by
  obtain ⟨dir, name, hdots, hends, hpath, hplace⟩ := exists_place_of_internal htree hinternal
  obtain ⟨dir', name', hdots', hends', hpath', hplace'⟩ := exists_place_of_internal htree hinternal'
  obtain ⟨place, place', hshown, hshown', hshare⟩ :=
    (exists_shared_iff htree hd hd').1 ⟨file, hfile, hfile'⟩
  obtain rfl := hshown.eq htree hd hplace
  obtain rfl := hshown'.eq htree hd' hplace'
  obtain ⟨hpageDir, hstem⟩ := hshare
  rw [pageDir_concat hdots, pageDir_concat hdots'] at hpageDir
  obtain rfl : dir = dir' := List.append_cancel_left (Path.mk.inj hpageDir).2
  rw [Path.stem, Path.stem, Path.name_concat, Path.name_concat] at hstem
  rw [hpath, hpath', Path.parent_concat, Path.parent_concat, Path.name_concat, Path.name_concat]
  refine ⟨rfl, (Path.name_eq_of_stem_eq hends hends' hstem).resolve_left fun hsame => hne ?_⟩
  rw [hpath, hpath', hsame]

/-- A source of the project takes a page at the top of the site only when it is at the top of the
project, under that name. A source named like the ending of sources has that name as its stem. -/
theorem takesTop_of_internal_iff (htree : w.tree.WellFormed) (hd : d ∈ (w.collect p).1)
    (hinternal : d.filePath ∈ p.internalFiles w.tree w.cwd) (stem : List Char) (hstem : stem ≠ [])
    (hsource : String.ofList stem ≠ sourceSuffix) :
    (∃ place, PagePlace p d place ∧ job.TakesTop w.cwd place (String.ofList stem)) ↔
      d.filePath = p.root.child (String.ofList (stem ++ sourceSuffix.toList)) := by
  obtain ⟨dir, name, hdots, hends, hpath, hplace⟩ := exists_place_of_internal htree hinternal
  constructor
  · rintro ⟨place, hshown, hpageDir, hname⟩
    obtain rfl := hshown.eq htree hd hplace
    rw [pageDir_concat hdots] at hpageDir
    obtain rfl : dir = [] := List.append_right_eq_self.1 (Path.mk.inj hpageDir).2
    rw [Path.stem, Path.name_concat] at hname
    have hfull : name = String.ofList (stem ++ sourceSuffix.toList) := by
      rcases Path.name_of_source hends with hfull | hbare
      · rw [hfull, hname, String.ofList_append, String.ofList_toList]
      · rw [hbare, Path.stem_sourceSuffix] at hname
        exact absurd hname.symm hsource
    rw [hpath, List.append_nil, hfull]
    rfl
  · intro hfile
    have hnames : p.root.names ++ (dir ++ [name]) =
        p.root.names ++ ([] ++ [String.ofList (stem ++ sourceSuffix.toList)]) := by
      rw [← List.append_assoc]
      exact (Path.mk.inj (hpath.symm.trans hfile)).2
    obtain ⟨rfl, hname⟩ := List.append_inj' (List.append_cancel_left hnames) rfl
    obtain rfl := List.singleton_inj.1 hname
    refine ⟨_, hplace, ?_, ?_⟩
    · rw [pageDir_concat hdots, List.append_nil]
      rfl
    · rw [Path.stem, Path.name_concat, Path.splitName_of_source hstem]

end Documents

/-! ## When pages are apart -/

theorem indexName_eq : indexName = "index" ++ Path.pageSuffix := by decide

theorem inventoryName_eq : inventoryName = "docker_images" ++ Path.pageSuffix := by decide

/-- Writing a page changes the file of that page and nothing else. The pages of the documents of a
project are written to files of their own, apart from the index and the image inventory, exactly
when no two of their places share a page and none takes the page of one of these. Every source of
the project has a page; two of them share it only if they are named `.wdl` and `.wdl.wdl` in one
directory, and one takes the page of the index or of the inventory only if it has its name at the
top of the project. -/
theorem pages_apart_iff (job : SiteJob) (w : Workspace) (p : Project) (htree : w.tree.WellFormed) :
    (((∀ d ∈ (w.collect p).1, ∀ d' ∈ (w.collect p).1, d.filePath ≠ d'.filePath →
          ∀ file, job.pageFile? w.cwd d = some file → job.pageFile? w.cwd d' ≠ some file) ∧
        ∀ d ∈ (w.collect p).1,
          job.pageFile? w.cwd d ≠ some (Path.resolve w.cwd (job.output.child indexName)) ∧
          job.pageFile? w.cwd d ≠ some (Path.resolve w.cwd (job.output.child inventoryName))) ↔
      (∀ d ∈ (w.collect p).1, ∀ d' ∈ (w.collect p).1, d.filePath ≠ d'.filePath →
          ∀ place place', PagePlace p d place → PagePlace p d' place' →
            ¬ job.SharePage w.cwd place place') ∧
        ∀ d ∈ (w.collect p).1, ∀ place, PagePlace p d place →
          ¬ job.TakesTop w.cwd place "index" ∧ ¬ job.TakesTop w.cwd place "docker_images") ∧
    (∀ d ∈ (w.collect p).1, d.filePath ∈ p.internalFiles w.tree w.cwd →
      (∃ file, job.pageFile? w.cwd d = some file) ∧
      (job.pageFile? w.cwd d = some (Path.resolve w.cwd (job.output.child indexName)) ↔
        d.filePath = p.root.child "index.wdl") ∧
      (job.pageFile? w.cwd d = some (Path.resolve w.cwd (job.output.child inventoryName)) ↔
        d.filePath = p.root.child "docker_images.wdl") ∧
      ∀ d' ∈ (w.collect p).1, d'.filePath ∈ p.internalFiles w.tree w.cwd →
        d.filePath ≠ d'.filePath → ∀ file, job.pageFile? w.cwd d = some file →
          job.pageFile? w.cwd d' = some file →
            d.filePath.parent = d'.filePath.parent ∧
              (d.filePath.name = ".wdl" ∧ d'.filePath.name = ".wdl.wdl" ∨
                d'.filePath.name = ".wdl" ∧ d.filePath.name = ".wdl.wdl")) ∧
    (∀ look all d t t', job.writePage w.cwd look all d t = some t' →
      ∃ file, job.pageFile? w.cwd d = some file ∧
        (∃ content, t'.get? file.names = some (.file content)) ∧
        ∀ q, q ≠ file.names → t'.get? q = t.get? q) := by
  refine ⟨?_, fun d hd hinternal => ⟨pageFile?_of_internal htree hd hinternal, ?_, ?_, ?_⟩,
    fun look all d t t' hwrite => writePage_eq_some hwrite⟩
  · refine and_congr ?_ ?_
    · refine forall₅_congr fun d hd d' hd' _ => ?_
      have hshared : (∃ file, job.pageFile? w.cwd d = some file ∧
          job.pageFile? w.cwd d' = some file) ↔ ∃ place place', PagePlace p d place ∧
            PagePlace p d' place' ∧ job.SharePage w.cwd place place' :=
        exists_shared_iff htree hd hd'
      constructor
      · intro happart place place' hplace hplace' hshare
        obtain ⟨file, hfile, hfile'⟩ := hshared.2 ⟨place, place', hplace, hplace', hshare⟩
        exact happart file hfile hfile'
      · intro happart file hfile hfile'
        obtain ⟨place, place', hplace, hplace', hshare⟩ := hshared.1 ⟨file, hfile, hfile'⟩
        exact happart place place' hplace hplace' hshare
    · refine forall₂_congr fun d hd => ?_
      rw [indexName_eq, inventoryName_eq, ne_eq, ne_eq, pageFile?_eq_top_iff htree hd,
        pageFile?_eq_top_iff htree hd]
      simp only [not_exists, not_and]
      exact ⟨fun h place hplace => ⟨h.1 place hplace, h.2 place hplace⟩,
        fun h => ⟨fun place hplace => (h place hplace).1, fun place hplace => (h place hplace).2⟩⟩
  · rw [indexName_eq, pageFile?_eq_top_iff htree hd]
    exact takesTop_of_internal_iff htree hd hinternal "index".toList (by decide) (by decide)
  · rw [inventoryName_eq, pageFile?_eq_top_iff htree hd]
    exact takesTop_of_internal_iff htree hd hinternal "docker_images".toList (by decide) (by decide)
  · intro d' hd' hinternal' hne file hfile hfile'
    exact names_of_internal_shared htree hd hd' hinternal hinternal' hne hfile hfile'

/-- A project whose only source imports two third-party sources, in two directories `external`. -/
def librariesWorkspace : Workspace where
  tree := ⟨[(["p"], .directory), (["p", "a.wdl"], .file .empty), (["p", "external"], .directory),
    (["p", "external", "t.wdl"], .file .empty), (["p", "lib"], .directory),
    (["p", "lib", "external"], .directory), (["p", "lib", "external", "t.wdl"], .file .empty)]⟩
  sources :=
    [(["p", "a.wdl"], .ok { imports :=
        [⟨"external/t.wdl", none, none⟩, ⟨"lib/external/t.wdl", none, none⟩] }),
      (["p", "external", "t.wdl"], .ok {}), (["p", "lib", "external", "t.wdl"], .ok {})]

/-- The project of `librariesWorkspace`. -/
def librariesProject : Project := Project.make ⟨.slash, ["p"]⟩ none none

/-- A site beside the project. -/
def siteBeside : SiteJob where
  output := ⟨.slash, ["out"]⟩

theorem wellFormed_libraries : librariesWorkspace.tree.WellFormed := ⟨by decide, by decide⟩

theorem exists_document_libraries (names : List String)
    (himports : librariesWorkspace.Imports librariesProject ⟨.slash, ["p", "a.wdl"]⟩
      ⟨.slash, names⟩)
    (hexternal : librariesProject.isExternal
      (Path.resolve librariesWorkspace.cwd ⟨.slash, names⟩) = true)
    (hdots : ".." ∉ names)
    (hparse : ∃ d, librariesWorkspace.parse librariesProject.root ⟨.slash, names⟩ = .ok d) :
    ∃ d ∈ (librariesWorkspace.collect librariesProject).1, d.filePath = ⟨.slash, names⟩ := by
  have hsource : ⟨.slash, ["p", "a.wdl"]⟩ ∈
      librariesProject.internalFiles librariesWorkspace.tree librariesWorkspace.cwd :=
    Project.mem_internalFiles.2 ⟨by decide, by decide⟩
  have hresolve : Path.resolve librariesWorkspace.cwd ⟨.slash, names⟩ = ⟨.slash, names⟩ :=
    Path.resolve_of_not_mem rfl hdots _
  have hdocument := Workspace.exists_imported_document rfl wellFormed_libraries rfl (by decide)
    hsource himports hexternal (by rw [hresolve]; exact hparse)
  rwa [hresolve] at hdocument

/-- The two third-party sources have one place, so their pages are not apart. -/
theorem pages_apart_iff_libraries :
    librariesWorkspace.tree.WellFormed ∧
    ¬ ((∀ d ∈ (librariesWorkspace.collect librariesProject).1,
          ∀ d' ∈ (librariesWorkspace.collect librariesProject).1, d.filePath ≠ d'.filePath →
          ∀ file, siteBeside.pageFile? librariesWorkspace.cwd d = some file →
            siteBeside.pageFile? librariesWorkspace.cwd d' ≠ some file) ∧
        ∀ d ∈ (librariesWorkspace.collect librariesProject).1,
          siteBeside.pageFile? librariesWorkspace.cwd d ≠
            some (Path.resolve librariesWorkspace.cwd (siteBeside.output.child indexName)) ∧
          siteBeside.pageFile? librariesWorkspace.cwd d ≠
            some (Path.resolve librariesWorkspace.cwd
              (siteBeside.output.child inventoryName))) := by
  refine ⟨wellFormed_libraries, fun happart => ?_⟩
  obtain ⟨hexact, -⟩ :=
    pages_apart_iff siteBeside librariesWorkspace librariesProject wellFormed_libraries
  obtain ⟨d, hd, hfile⟩ := exists_document_libraries ["p", "external", "t.wdl"]
    ⟨⟨_, rfl⟩, _, rfl, _, List.mem_cons_self, by decide, by decide⟩ (by decide) (by decide) ⟨_, rfl⟩
  obtain ⟨d', hd', hfile'⟩ := exists_document_libraries ["p", "lib", "external", "t.wdl"]
    ⟨⟨_, rfl⟩, _, rfl, _, List.mem_cons_of_mem _ List.mem_cons_self, by decide, by decide⟩
    (by decide) (by decide) ⟨_, rfl⟩
  have hplace : PagePlace librariesProject d ⟨.relative, ["external", "t.wdl"]⟩ := by
    refine ⟨?_, by decide⟩
    rw [hfile]
    exact @Path.Placed.insideExternal _ _ [] ["t.wdl"] (by decide) (by decide)
  have hplace' : PagePlace librariesProject d' ⟨.relative, ["external", "t.wdl"]⟩ := by
    refine ⟨?_, by decide⟩
    rw [hfile']
    exact @Path.Placed.insideExternal _ _ ["lib"] ["t.wdl"] (by decide) (by decide)
  have hne : d.filePath ≠ d'.filePath := by
    rw [hfile, hfile']
    decide
  exact (hexact.1 happart).1 d hd d' hd' hne _ _ hplace hplace' ⟨rfl, rfl⟩

/-- A project whose only source is named like the index. -/
def indexWorkspace : Workspace where
  tree := ⟨[(["p"], .directory), (["p", "index.wdl"], .file .empty)]⟩
  sources := [(["p", "index.wdl"], .ok {})]

/-- The page of a document is written where the index is written after it. -/
theorem index_source_overwritten :
    ∃ d ∈ (indexWorkspace.collect librariesProject).1,
      siteBeside.pageFile? indexWorkspace.cwd d =
        some (Path.resolve indexWorkspace.cwd (siteBeside.output.child indexName)) := by
  have hsource : ⟨.slash, ["p", "index.wdl"]⟩ ∈
      librariesProject.internalFiles indexWorkspace.tree indexWorkspace.cwd :=
    Project.mem_internalFiles.2 ⟨by decide, by decide⟩
  have htree : indexWorkspace.tree.WellFormed := ⟨by decide, by decide⟩
  obtain ⟨d, hd, hfile⟩ :=
    Workspace.exists_document (List.mem_append_left _ hsource) ⟨_, rfl⟩
  refine ⟨d, hd, ?_⟩
  rw [indexName_eq, pageFile?_eq_top_iff htree hd]
  exact (takesTop_of_internal_iff htree hd (hfile ▸ hsource) "index".toList (by decide)
    (by decide)).2 hfile

end SiteJob

end WorkflowDocs
