import WorkflowDocs.Proofs.Images.Called
import WorkflowDocs.Proofs.Lists
import WorkflowDocs.Proofs.Site.Inventory

/-!
# The links of the inventory

Each use of an image is linked to the task that is called. The task is looked up by the name that
the call goes by, among the tasks of the calling document and then of all others, in order. So the
link misses a task that is called under another name, and a task of an import if a document before
it has a task of the same name. Otherwise it leads to the task.

## Main definitions

* `DefinedFirst`: the first of a list of documents that has a task
* `Workspace.CallsTaskOf`: a call of a document, with the task that is called and its document

## Main results

* `url_eq_iff`: when a link leads to a task of a page
* `usage_links_to_task_iff`: when the link of a use leads to the task that is called
* `usage_link_misses`: links that lead elsewhere
-/

namespace WorkflowDocs

open scoped List

/-! ## Addresses -/

/-- Names of calls and tasks: letters, digits and underscores. -/
def isIdentifier (name : String) : Bool :=
  name.toList.all fun c => c.isAlphanum || c = '_'

theorem not_mem_of_isIdentifier {name : String} (h : isIdentifier name = true) {c : Char}
    (hc : (c.isAlphanum || c = '_') = false) : c ∉ name.toList := by
  intro hmem
  have hword := List.all_eq_true.1 h c hmem
  rw [hc] at hword
  cases hword

theorem toList_taskAddress (page task : String) :
    (page ++ ("#task-" ++ task)).toList =
      page.toList ++ '#' :: ("task-".toList ++ task.toList) := by
  rw [String.toList_append, String.toList_append]
  rfl

/-- Pages and tasks can be told from addresses. -/
theorem taskAddress_inj {page page' task task' : String} (htask : isIdentifier task = true)
    (htask' : isIdentifier task' = true) :
    page ++ ("#task-" ++ task) = page' ++ ("#task-" ++ task') ↔ page = page' ∧ task = task' := by
  constructor
  · intro h
    have hmark : ∀ {name : String}, isIdentifier name = true →
        '#' ∉ "task-".toList ++ name.toList := by
      intro name hname hmem
      rcases List.mem_append.1 hmem with hmem | hmem
      · exact absurd hmem (by decide)
      · exact not_mem_of_isIdentifier hname (by decide) hmem
    rw [← String.toList_inj, toList_taskAddress, toList_taskAddress] at h
    obtain ⟨hpage, hname⟩ := append_cons_inj_of_not_mem (hmark htask) (hmark htask') h
    exact ⟨String.toList_inj.1 hpage, String.toList_inj.1 (List.append_cancel_left hname)⟩
  · rintro ⟨rfl, rfl⟩
    rfl

/-- The address of a page is not that of a task. Both have the extension of pages, and what follows
its dot is longer in that of a task. -/
theorem page_ne_taskAddress {p p' page page' : Path} {task : String}
    (hpage : Path.page? p = some page) (hpage' : Path.page? p' = some page')
    (htask : isIdentifier task = true) : page.text ≠ page'.text ++ ("#task-" ++ task) := by
  intro h
  obtain ⟨start, hstart⟩ := Path.exists_text_page hpage
  obtain ⟨start', hstart'⟩ := Path.exists_text_page hpage'
  have hleft : page.text.toList = start.toList ++ '.' :: "html".toList := by
    rw [hstart, String.toList_append]
    rfl
  have hright : (page'.text ++ ("#task-" ++ task)).toList =
      start'.toList ++ '.' :: ("html#task-".toList ++ task.toList) := by
    rw [hstart', String.toList_append, String.toList_append, String.toList_append,
      List.append_assoc]
    rfl
  rw [← String.toList_inj, hleft, hright] at h
  have hdot : '.' ∉ "html#task-".toList ++ task.toList := by
    intro hmem
    rcases List.mem_append.1 hmem with hmem | hmem
    · exact absurd hmem (by decide)
    · exact not_mem_of_isIdentifier htask (by decide) hmem
  have hlength := congrArg List.length (append_cons_inj_of_not_mem (by decide) hdot h).2
  rw [List.length_append] at hlength
  have hshort : "html".toList.length < "html#task-".toList.length := by decide
  omega

/-! ## Tasks by name -/

/-- The first of the documents that has a task of the given name. -/
def DefinedFirst (task : String) (documents : List DocumentInfo) (first : DocumentInfo) : Prop :=
  ∃ before after, documents = before ++ first :: after ∧ first.definesTask task = true ∧
    ∀ e ∈ before, e.definesTask task = false

theorem find?_definesTask_iff {task : String} {documents : List DocumentInfo}
    {first : DocumentInfo} :
    documents.find? (·.definesTask task) = some first ↔ DefinedFirst task documents first := by
  rw [List.find?_eq_some_iff_append, DefinedFirst]
  constructor
  · rintro ⟨hdefines, before, after, hsplit, hbefore⟩
    exact ⟨before, after, hsplit, hdefines, fun e he => by simpa using hbefore e he⟩
  · rintro ⟨before, after, hsplit, hdefines, hbefore⟩
    exact ⟨hdefines, before, after, hsplit, fun e he => by simp [hbefore e he]⟩

theorem exists_definedFirst {task : String} {documents : List DocumentInfo} {d : DocumentInfo}
    (hd : d ∈ documents) (hdefines : d.definesTask task = true) :
    ∃ first, DefinedFirst task documents first := by
  have hsome : (documents.find? (·.definesTask task)).isSome = true :=
    List.find?_isSome.2 ⟨d, hd, hdefines⟩
  obtain ⟨first, hfirst⟩ := Option.isSome_iff_exists.1 hsome
  exact ⟨first, find?_definesTask_iff.1 hfirst⟩

/-- A link leads to a task of a page if it is made for this name, and the first document with such a
task has this page. -/
theorem url_eq_iff {documents : List DocumentInfo} {d : DocumentInfo} {p page : Path}
    {name task : String} {link : TaskLink} (hlink : findTask? name d documents = some link)
    (hpage : Path.page? p = some page) (hname : isIdentifier name = true)
    (htask : isIdentifier task = true) :
    link.url = page.text ++ ("#task-" ++ task) ↔
      name = task ∧ ∃ first, DefinedFirst task (d :: documents) first ∧
        (Path.page? first.relativePath).map Path.text = some page.text := by
  rw [findTask?] at hlink
  split at hlink
  · rename_i first hfind
    obtain ⟨page', hpage', rfl⟩ := Option.map_eq_some_iff.1 hlink
    dsimp only
    rw [taskAddress_inj hname htask]
    constructor
    · rintro ⟨htext, rfl⟩
      refine ⟨rfl, first, find?_definesTask_iff.1 hfind, ?_⟩
      rw [hpage', Option.map_some, htext]
    · rintro ⟨rfl, first', hfirst', htext⟩
      obtain rfl : first = first' :=
        Option.some.inj (hfind.symm.trans (find?_definesTask_iff.2 hfirst'))
      rw [hpage', Option.map_some] at htext
      exact ⟨Option.some.inj htext, rfl⟩
  · rename_i hfind
    obtain ⟨page', hpage', rfl⟩ := Option.map_eq_some_iff.1 hlink
    dsimp only
    rw [String.append_empty]
    refine iff_of_false (page_ne_taskAddress hpage' hpage htask) ?_
    rintro ⟨rfl, first, hfirst, -⟩
    rw [find?_definesTask_iff.2 hfirst] at hfind
    cases hfind

/-! ## Calls of tasks -/

namespace Workspace

/-- The workflow of the document `d` has the call `c` of the task `t` of the document `owner`: a
task of its own, by its name, or a task of the document that an import leads to. -/
inductive CallsTaskOf (w : Workspace) (d : DocumentInfo) (c : CallNode) (t : TaskSource) :
    DocumentInfo → Prop
  | own {doc : DocumentSource} {wf : WorkflowSource} (hload : w.load d.filePath = .ok doc)
      (hworkflow : doc.workflow = some wf) (hcall : c ∈ Node.callsOf wf.body)
      (htask : t ∈ doc.tasks) (hpath : c.path = [t.name])
      (hcallee : c.callee = some ⟨.task, t.name⟩) : CallsTaskOf w d c t d
  | imported {owner : DocumentInfo} {doc : DocumentSource} {written : Path}
      (hcall : w.CallsThrough d c written)
      (htarget : Path.resolve w.cwd written = Path.resolve w.cwd owner.filePath)
      (hload : w.load owner.filePath = .ok doc) (htask : t ∈ doc.tasks)
      (hcallee : c.callee = some ⟨.task, t.name⟩) : CallsTaskOf w d c t owner

variable {w : Workspace} {root : Path} {d owner : DocumentInfo} {c : CallNode} {t : TaskSource}

theorem name_of_ofSource {dialect : Literal.Dialect} {info : TaskInfo}
    (h : TaskInfo.ofSource dialect t = .ok info) :
    info.name = t.name := by
  obtain ⟨inputs, -, h⟩ := exists_of_bind_eq_ok h
  obtain ⟨outputs, -, h⟩ := exists_of_bind_eq_ok h
  obtain ⟨command, -, h⟩ := exists_of_bind_eq_ok h
  obtain rfl := Except.ok.inj h
  rfl

/-- The task of a source is documented under its name. -/
theorem definesTask_of_parse {doc : DocumentSource} (hparse : w.parse root d.filePath = .ok d)
    (hload : w.load d.filePath = .ok doc) (ht : t ∈ doc.tasks) : d.definesTask t.name = true := by
  obtain ⟨-, htasks⟩ := entries_of_parse hparse hload
  have hnames : doc.tasks.map (·.name) = d.tasks.map (·.name) :=
    map_eq_of_forall₂ (htasks.imp fun _ _ hinfo => (name_of_ofSource hinfo).symm)
  have hname : t.name ∈ d.tasks.map (·.name) := by
    rw [← hnames]
    exact List.mem_map_of_mem ht
  obtain ⟨info, hinfo, hsame⟩ := List.mem_map.1 hname
  exact List.any_eq_true.2 ⟨info, hinfo, beq_iff_eq.2 hsame⟩

/-- The document of a task that is called has a task of this name. -/
theorem CallsTaskOf.definesTask (h : w.CallsTaskOf d c t owner)
    (hparse : w.parse root owner.filePath = .ok owner) : owner.definesTask t.name = true := by
  cases h with
  | own hload _ _ htask => exact definesTask_of_parse hparse hload htask
  | imported _ _ hload htask => exact definesTask_of_parse hparse hload htask

end Workspace

/-! ## Links of uses -/

/-- A use of an image is linked as its call is looked up. -/
theorem findTask?_of_mem_usages {i : ImageInfo} {d : DocumentInfo} {documents : List DocumentInfo}
    {usages : List Usage} (h : usages? i d documents = some usages) {u : Usage} (hu : u ∈ usages) :
    ∃ link, findTask? u.task d documents = some link ∧ u.url = link.url := by
  obtain ⟨task, -, hmade⟩ := (mem_of_mapM_eq_some h).2 u hu
  obtain ⟨link, hlink, rfl⟩ := Option.map_eq_some_iff.1 hmade
  exact ⟨link, hlink, rfl⟩

/-- **When the inventory links to the task that is called.** Let a document call a task of its own
or of an import, and let the call be listed under an image. The inventory lists the uses of this
image together, and that of the call is linked to the task on the page of its document exactly if
the call goes by the name of the task and the first document with a task of this name, with the
calling one before all others, has this page. The document of the task has a task of this name, so
there is a first one. -/
theorem usage_links_to_task_iff {w : Workspace} {root : Path} {documents : List DocumentInfo}
    (hparsed : ∀ e ∈ documents, w.parse root e.filePath = .ok e)
    (hplaces : ∀ e ∈ documents, e.relativePath.NamesFile) {d owner : DocumentInfo}
    (hd : d ∈ documents) (howner : owner ∈ documents) {c : CallNode} {t : TaskSource}
    (hcall : w.CallsTaskOf d c t owner) (hname : isIdentifier c.name = true)
    (htask : isIdentifier t.name = true) {info : WorkflowInfo} {i : ImageInfo}
    (hinfo : d.workflow = some info) (hi : i ∈ info.images) (hlisted : c.name ∈ i.tasks) :
    ∃ inventory usages page, inventory? documents = some inventory ∧
      usages? i d documents = some usages ∧ (inventory.shelfOf d).ListsUses i usages ∧
      Path.page? owner.relativePath = some page ∧ (∃ u ∈ usages, u.task = c.name) ∧
      ∀ u ∈ usages, u.task = c.name →
        (u.url = page.text ++ ("#task-" ++ t.name) ↔
          c.name = t.name ∧ ∀ first, DefinedFirst t.name (d :: documents) first →
            (Path.page? first.relativePath).map Path.text = some page.text) := by
  obtain ⟨inventory, hinventory⟩ := exists_inventory? (havePages_of_namesFile hplaces)
  obtain ⟨usages, husages, hlists⟩ := exists_listsUses hinventory hd hinfo hi
  obtain ⟨page, hpage⟩ := (hplaces owner howner).exists_page
  refine ⟨inventory, usages, page, hinventory, husages, hlists, hpage, ?_, fun u hu hutask => ?_⟩
  · obtain ⟨u, hu, hmade⟩ := (mem_of_mapM_eq_some husages).1 _ hlisted
    obtain ⟨link, -, rfl⟩ := Option.map_eq_some_iff.1 hmade
    exact ⟨_, hu, rfl⟩
  · obtain ⟨link, hlink, hurl⟩ := findTask?_of_mem_usages husages hu
    rw [hutask] at hlink
    rw [hurl, url_eq_iff hlink hpage hname htask]
    obtain ⟨first, hfirst⟩ := exists_definedFirst (List.mem_cons_of_mem d howner)
      (hcall.definesTask (hparsed owner howner))
    refine and_congr_right fun _ => ⟨?_, fun h => ⟨first, hfirst, h first hfirst⟩⟩
    rintro ⟨first, hfirst, htext⟩ other hother
    obtain rfl : first = other := Option.some.inj
      ((find?_definesTask_iff.2 hfirst).symm.trans (find?_definesTask_iff.2 hother))
    exact htext

/-- A call of the task `sort` through the import `lib`. -/
def sortCall : CallNode :=
  ⟨["lib", "sort"], "sort", [], some ⟨.task, "sort"⟩⟩

/-- A call of the task `align` under another name. -/
def renamedCall : CallNode :=
  { Images.alignCall with name := "first" }

/-- A source that calls a task of its own, also under another name, and a task of an import. -/
def toolsSource : DocumentSource where
  tasks := [Images.imageTask "align" "aligner:1"]
  imports := [⟨"lib.wdl", some "lib", some { tasks := [Images.imageTask "sort" "sorter:1"] }⟩]
  workflow := some
    { name := "main", body := [.call Images.alignCall, .call renamedCall, .call sortCall] }

/-- A project with that source, the imported one, and one with a task of the same name. -/
def toolsWorkspace : Workspace where
  tree := ⟨[(["p"], .directory), (["p", "archive.wdl"], .file .empty),
    (["p", "lib.wdl"], .file .empty), (["p", "main.wdl"], .file .empty)]⟩
  sources := [(["p", "archive.wdl"], .ok { tasks := [Images.imageTask "sort" "sorter:0"] }),
    (["p", "lib.wdl"], .ok { tasks := [Images.imageTask "sort" "sorter:1"] }),
    (["p", "main.wdl"], .ok toolsSource)]

/-- The document of a source of that project. -/
def toolsDocument (name : String) : DocumentInfo :=
  (toolsWorkspace.parse ⟨.slash, ["p"]⟩ ⟨.slash, ["p", name]⟩).toOption.getD default

/-- The image of the task `align` of that source, with its calls. -/
def alignImage : ImageInfo :=
  ⟨"aligner:1", ["align", "first"], false, none, none⟩

/-- The image of the task of the import, with its call. -/
def sortImage : ImageInfo :=
  ⟨"sorter:1", ["sort"], false, none, none⟩

theorem images_toolsDocument :
    (toolsDocument "main.wdl").workflow.map (·.images) = some [alignImage, sortImage] := rfl

theorem callsTaskOf_sort :
    toolsWorkspace.CallsTaskOf (toolsDocument "main.wdl") sortCall
      (Images.imageTask "sort" "sorter:1") (toolsDocument "lib.wdl") := by
  have hcall : toolsWorkspace.CallsThrough (toolsDocument "main.wdl") sortCall
      ⟨.slash, ["p", "lib.wdl"]⟩ :=
    ⟨toolsSource, _, "lib", _, rfl, rfl, .tail _ (.tail _ (.head _)), rfl, rfl, rfl, rfl⟩
  exact .imported hcall rfl rfl (.head _) rfl

theorem callsTaskOf_renamed :
    toolsWorkspace.CallsTaskOf (toolsDocument "main.wdl") renamedCall
      (Images.imageTask "align" "aligner:1") (toolsDocument "main.wdl") :=
  .own rfl rfl (.tail _ (.head _)) (.head _) rfl rfl

/-- With the imported source before the other one, the call through the import is linked to it. -/
theorem usage_links_to_task_iff_imported :
    ∃ inventory usages,
      inventory? (["main.wdl", "lib.wdl", "archive.wdl"].map toolsDocument) = some inventory ∧
      (inventory.shelfOf (toolsDocument "main.wdl")).ListsUses sortImage usages ∧
      ∃ u ∈ usages, u.task = "sort" ∧ u.url = "lib.html#task-sort" := by
  obtain ⟨info, hinfo, himages⟩ := Option.map_eq_some_iff.1 images_toolsDocument
  have hparsed : ∀ e ∈ ["main.wdl", "lib.wdl", "archive.wdl"].map toolsDocument,
      toolsWorkspace.parse ⟨.slash, ["p"]⟩ e.filePath = .ok e := by
    intro e he
    obtain ⟨name, hname, rfl⟩ := List.mem_map.1 he
    simp only [List.mem_cons, List.not_mem_nil, or_false] at hname
    rcases hname with rfl | rfl | rfl <;> rfl
  have himage : sortImage ∈ info.images := by
    rw [himages]
    exact .tail _ (.head _)
  obtain ⟨inventory, usages, page, hinventory, -, hlists, hpage, ⟨u, hu, hutask⟩, hlinks⟩ :=
    usage_links_to_task_iff hparsed (by decide +kernel) (.head _) (.tail _ (.head _))
      callsTaskOf_sort (by decide) (by decide) hinfo himage (.head _)
  have hfind : (toolsDocument "main.wdl" :: ["main.wdl", "lib.wdl", "archive.wdl"].map
      toolsDocument).find? (·.definesTask "sort") = some (toolsDocument "lib.wdl") := rfl
  have htext : page.text = "lib.html" := by
    have hplace : (Path.page? (toolsDocument "lib.wdl").relativePath).map Path.text =
        some "lib.html" := by decide +kernel
    rw [hpage] at hplace
    exact Option.some.inj hplace
  refine ⟨inventory, usages, hinventory, hlists, u, hu, hutask, ?_⟩
  refine ((hlinks u hu hutask).2 ⟨rfl, fun first hfirst => ?_⟩).trans (by rw [htext]; rfl)
  obtain rfl := Option.some.inj (hfind.symm.trans (find?_definesTask_iff.2 hfirst))
  rw [hpage, Option.map_some]

/-- A call under another name is linked to the page of the calling document only, and a call through
an import to another document with a task of the same name. -/
theorem usage_link_misses :
    (toolsDocument "main.wdl").workflow.map (·.images) = some [alignImage, sortImage] ∧
      toolsWorkspace.CallsTaskOf (toolsDocument "main.wdl") renamedCall
        (Images.imageTask "align" "aligner:1") (toolsDocument "main.wdl") ∧
      usages? alignImage (toolsDocument "main.wdl")
          (["archive.wdl", "lib.wdl", "main.wdl"].map toolsDocument) =
        some [⟨"align", "main", "main.html#task-align", "main.wdl", false⟩,
          ⟨"first", "main", "main.html", "main.wdl", false⟩] ∧
      toolsWorkspace.CallsTaskOf (toolsDocument "main.wdl") sortCall
        (Images.imageTask "sort" "sorter:1") (toolsDocument "lib.wdl") ∧
      usages? sortImage (toolsDocument "main.wdl")
          (["archive.wdl", "lib.wdl", "main.wdl"].map toolsDocument) =
        some [⟨"sort", "main", "archive.html#task-sort", "archive.wdl", false⟩] :=
  ⟨images_toolsDocument, callsTaskOf_renamed, by decide +kernel, callsTaskOf_sort,
    by decide +kernel⟩

end WorkflowDocs
