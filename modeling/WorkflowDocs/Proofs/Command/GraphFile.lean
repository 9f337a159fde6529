import WorkflowDocs.Command.Graph
import WorkflowDocs.Proofs.FileTree.Effect
import WorkflowDocs.Proofs.Results

/-!
# The file of a graph

The command for the graph of a workflow ends with an answer on every file tree. It makes the file if
the source is there and shows a workflow, the tree takes a file at the output path, and the text can
be written to the end; then this is the only file that changes. A command that fails before it opens
the output changes no file and leaves at most directories on the way to it. One that fails
afterwards has emptied the output.

## Main definitions

* `FileTree.Writable`: a tree takes a file at a path, together with the directories on the way
* `Workspace.ShowsWorkflow`: a source is there, can be read and shows a workflow

## Main results

* `FileTree.run_makeDirs_write_iff`: when a file can be written together with its directories
* `FileTree.read?_of_makeDirs`, `FileTree.read?_of_run_eq_false`, `FileTree.read?_of_write`: what
  the files contain afterwards
* `FileTree.run_open_fill`: what becomes of a file that is opened and filled
* `Workspace.graphSource?_of_showsWorkflow`, `Workspace.showsWorkflow_of_graphSource?`: the sources
  that show a workflow
* `Workspace.graph_file_outcome`: what the command for a graph does
* `Workspace.cut_short_graph_empties_output`: a command that fails and empties its output
-/

namespace WorkflowDocs

namespace FileTree

variable {t t' u : FileTree} {cwd file : Path} {content : ByteArray} {q : Place}

/-- The tree takes a file at a path, together with the directories on the way to it. -/
structure Writable (t : FileTree) (cwd file : Path) : Prop where
  /-- The last name of the path is one that a file can have. -/
  named : isEntryName file.name = true
  /-- The path is not too long. -/
  short : (cwd.join file).isLong = false
  /-- The directories that are missing on the way have names that directories can have. -/
  makeable : t.Makeable [] (cwd.join file.parent).names
  /-- No file is on the way. -/
  passable : ∀ q ∈ Path.wayTo cwd file, t.isFile q = false
  /-- The way does not lead through the place of the file itself. -/
  apart : (Path.resolve cwd file).names ∉ Path.wayTo cwd file
  /-- No directory is at the place of the file. -/
  free : t.isDirectory (Path.resolve cwd file).names = false

/-! ## Writing a file together with its directories -/

theorem makeable_of_makeDirs {dir : Path} (h : makeDirs cwd dir t = some t') :
    t.Makeable [] (cwd.join dir).names := by
  obtain ⟨⟨made, place⟩, hmade, rfl⟩ := Option.map_eq_some_iff.1 h
  rw [makeDirs?] at hmade
  split at hmade
  · exact absurd hmade (by simp)
  · exact makeable_of_makeDirsFrom? (fun q => t.isDirectory_of_prefix_nil) hmade

/-- Directories can be made where names and files allow it. -/
theorem exists_makeDirs {dir : Path} (hshort : (cwd.join dir).isLong = false)
    (hmakeable : t.Makeable [] (cwd.join dir).names)
    (hpassable : ∀ q ∈ Path.passed cwd dir, t.isFile q = false) :
    ∃ t', makeDirs cwd dir t = some t' := by
  obtain ⟨made, place, hmade, -⟩ := exists_makeDirsFrom? (fun q => t.isDirectory_of_prefix_nil)
    hmakeable fun part hpart => hpassable _ (Path.mem_passed.2 ⟨part, hpart, rfl⟩)
  refine ⟨made, ?_⟩
  rw [makeDirs, makeDirs?, if_neg (by simp [hshort]), hmade]
  rfl

/-- Making directories takes none away and makes those that the path leads through. -/
theorem isDirectory_of_makeDirs {dir : Path} (h : makeDirs cwd dir t = some t') (q : Place) :
    t'.isDirectory q = true ↔ q ∈ Path.passed cwd dir ∨ t.isDirectory q = true := by
  have hget := (makeDirs_eq_some h).2 q
  by_cases hq : q ∈ Path.passed cwd dir
  · rw [wayAt?_of_mem hq] at hget
    exact iff_of_true (isDirectory_of_get? hget) (.inl hq)
  · rw [wayAt?_of_not_mem hq] at hget
    rw [isDirectory_of_eq hget]
    exact (or_iff_right hq).symm

/-- The trees after each of two steps that succeed. -/
theorem exists_of_run_pair {first second : Step} (h : (run [first, second] t).2 = true) :
    ∃ u t', first t = some u ∧ second u = some t' ∧ run [first, second] t = (t', true) := by
  obtain ⟨u, hfirst, hrun⟩ := exists_of_run_cons h
  obtain ⟨t', hsecond, -⟩ := exists_of_run_cons hrun
  refine ⟨u, t', hfirst, hsecond, ?_⟩
  rw [run_cons_of_eq_some hfirst, run_cons_of_eq_some hsecond, run]

/-- **Writing a file together with its directories** succeeds exactly if the tree takes it. -/
theorem run_makeDirs_write_iff :
    (run [makeDirs cwd file.parent, write cwd file content] t).2 = true ↔ t.Writable cwd file := by
  constructor
  · intro h
    obtain ⟨u, t', hmade, hwrite, -⟩ := exists_of_run_pair h
    obtain ⟨dir, -, -, ⟨hname, hshort⟩, hplace, hfree⟩ := exists_of_write hwrite
    rw [← hplace] at hfree
    have hdirs := isDirectory_of_makeDirs hmade (Path.resolve cwd file).names
    rw [hfree, eq_comm, Bool.true_eq_false, false_iff, not_or] at hdirs
    exact ⟨hname, hshort, makeable_of_makeDirs hmade, (makeDirs_eq_some hmade).1, hdirs.1,
      Bool.eq_false_iff.2 hdirs.2⟩
  · intro h
    have hnames := names_ne_nil_of_isEntryName h.named
    obtain ⟨u, hmade⟩ := exists_makeDirs (isLong_join_parent hnames h.short) h.makeable h.passable
    have hdirs := isDirectory_of_makeDirs hmade
    have hfree : u.isDirectory (Path.resolve cwd file).names = false := by
      rw [Bool.eq_false_iff, Ne, hdirs, not_or]
      exact ⟨h.apart, by simp [h.free]⟩
    have hwritten : ∃ t', write cwd file content u = some t' :=
      exists_write_of_way h.named h.short (fun q hq => (hdirs q).2 (.inl hq)) hfree
    obtain ⟨t', hwrite⟩ := hwritten
    rw [run_cons_of_eq_some hmade, run_cons_of_eq_some hwrite, run]

/-! ## The content of files -/

theorem read?_of_isFile (h : t.isFile q = false) : t.read? q = none := by
  rw [read?]
  cases hget : t.get? q with
  | none => rfl
  | some e =>
    cases e with
    | directory => rfl
    | file content =>
      rw [isFile_of_get?_file hget] at h
      exact absurd h (by simp)

/-- Making directories leaves the content of all files as it is. -/
theorem read?_of_makeDirs {dir : Path} (h : makeDirs cwd dir t = some t') (q : Place) :
    t'.read? q = t.read? q := by
  obtain ⟨hfiles, hget⟩ := makeDirs_eq_some h
  by_cases hq : q ∈ Path.passed cwd dir
  · have hdirectory := (isDirectory_of_makeDirs h q).2 (.inl hq)
    rw [read?_of_isFile (hfiles q hq), read?_of_isFile (isFile_of_isDirectory hdirectory)]
  · rw [read?, read?, hget, wayAt?_of_not_mem hq]

/-- A file that could not be written leaves the content of all files as it is. -/
theorem read?_of_run_eq_false
    (h : (run [makeDirs cwd file.parent, write cwd file content] t).2 = false) (q : Place) :
    (run [makeDirs cwd file.parent, write cwd file content] t).1.read? q = t.read? q := by
  cases hmade : makeDirs cwd file.parent t with
  | none => rw [run, hmade]
  | some u =>
    rw [run_cons_of_eq_some hmade] at h ⊢
    cases hwrite : write cwd file content u with
    | none =>
      rw [run, hwrite]
      exact read?_of_makeDirs hmade q
    | some t' =>
      rw [run_cons_of_eq_some hwrite, run] at h
      exact absurd h (by simp)

/-- A file that was written has its content, and that of all other files is as it was. -/
theorem read?_of_write (h : write cwd file content t = some t') (q : Place) :
    t'.read? q = if q = (Path.resolve cwd file).names then some content else t.read? q := by
  obtain ⟨hne, rfl⟩ := write_eq_some h
  rw [read?, get?_put t hne]
  by_cases hq : q = (Path.resolve cwd file).names
  · rw [if_pos hq, if_pos hq]
  · rw [if_neg hq, if_neg hq]
    rfl

/-! ## Writing to an open file -/

/-- A file that was opened together with its directories can be written. The way to it does not lead
through the file itself, so it is still there. -/
theorem exists_write_of_open
    (h : (run [makeDirs cwd file.parent, openFile cwd file] t).2 = true) (content : ByteArray) :
    ∃ u, write cwd file content (run [makeDirs cwd file.parent, openFile cwd file] t).1 =
      some u := by
  have hwritable := run_makeDirs_write_iff.1 h
  obtain ⟨u, t', hmade, hopen, hrun⟩ := exists_of_run_pair h
  rw [hrun]
  obtain ⟨hne, rfl⟩ := write_eq_some hopen
  refine exists_write_of_way hwritable.named hwritable.short (fun q hq => ?_) ?_
  · have hq' : q ≠ (Path.resolve cwd file).names := by
      rintro rfl
      exact hwritable.apart hq
    rw [isDirectory, get?_put u hne, if_neg hq']
    exact (isDirectory_of_makeDirs hmade q).2 (.inl hq)
  · rw [isDirectory, get?_put u hne, if_pos rfl]
    rfl

/-- What is written to a file that was opened together with its directories is all that changes. -/
theorem read?_of_open_write
    (h : (run [makeDirs cwd file.parent, openFile cwd file] t).2 = true)
    (hwrite : write cwd file content (run [makeDirs cwd file.parent, openFile cwd file] t).1 =
      some u) (q : Place) :
    u.read? q = if q = (Path.resolve cwd file).names then some content else t.read? q := by
  obtain ⟨v, t', hmade, hopen, hrun⟩ := exists_of_run_pair h
  rw [hrun] at hwrite
  rw [read?_of_write hwrite, read?_of_write hopen, read?_of_makeDirs hmade]
  split <;> rfl

/-- **Filling an open file** succeeds exactly if the text does not break off. The file then has the
text, and otherwise the remnant of it; the content of all other files is as it was. -/
theorem run_open_fill (h : t.Writable cwd file) (text : String) (remnant : Option ByteArray) :
    (run ([makeDirs cwd file.parent, openFile cwd file] ++ fill cwd file text remnant) t).2 =
        remnant.isNone ∧
      ∀ q, (run ([makeDirs cwd file.parent, openFile cwd file] ++
          fill cwd file text remnant) t).1.read? q =
        if q = (Path.resolve cwd file).names then some (remnant.getD text.toUTF8)
        else t.read? q := by
  have hopen : (run [makeDirs cwd file.parent, openFile cwd file] t).2 = true :=
    run_makeDirs_write_iff.2 h
  rw [run_append, if_pos hopen]
  cases remnant with
  | none =>
    obtain ⟨u, hwrite⟩ := exists_write_of_open hopen text.toUTF8
    rw [fill, writeText, run_cons_of_eq_some hwrite, run]
    exact ⟨rfl, read?_of_open_write hopen hwrite⟩
  | some part =>
    obtain ⟨u, hwrite⟩ := exists_write_of_open hopen part
    rw [fill, run_cons_of_eq_some hwrite, run]
    exact ⟨rfl, read?_of_open_write hopen hwrite⟩

/-- A file that cannot be opened is not filled, and the content of all files is as it was. -/
theorem run_open_fill_of_not (h : ¬ t.Writable cwd file) (text : String)
    (remnant : Option ByteArray) :
    (run ([makeDirs cwd file.parent, openFile cwd file] ++ fill cwd file text remnant) t).2 =
        false ∧
      ∀ q, (run ([makeDirs cwd file.parent, openFile cwd file] ++
          fill cwd file text remnant) t).1.read? q = t.read? q := by
  have hopen : (run [makeDirs cwd file.parent, openFile cwd file] t).2 = false :=
    Bool.eq_false_iff.2 (mt run_makeDirs_write_iff.1 h)
  rw [run_append, if_neg (by simp [hopen])]
  exact ⟨hopen, read?_of_run_eq_false hopen⟩

end FileTree

/-- A document shows a workflow if it has one or one of the documents that it imports does. -/
theorem DocumentSource.isSome_shownWorkflow?_iff (doc : DocumentSource) :
    doc.shownWorkflow?.isSome = true ↔ doc.workflow.isSome = true ∨
      ∃ i ∈ doc.imports, ∃ imported, i.target = some imported ∧
        imported.workflow.isSome = true := by
  rw [shownWorkflow?, Option.isSome_or, Bool.or_eq_true, List.findSome?_isSome_iff]
  simp only [Option.isSome_bind, Option.any_eq_true]

namespace Workspace

/-- The source at a path is there, can be read, and shows a workflow: it or one of the documents
that it imports has one. -/
structure ShowsWorkflow (w : Workspace) (source : Path) : Prop where
  /-- The path is not too long to be followed. -/
  answerable : w.tree.isUnanswerable w.cwd source = false
  /-- Something is there. -/
  exists_source : w.tree.pathExists w.cwd source = true
  /-- It has the name of a source. -/
  suffix : source.suffix = ".wdl"
  /-- It can be read as a document with a workflow. -/
  loads : ∃ doc, w.load source = .ok doc ∧ (doc.workflow.isSome = true ∨
    ∃ i ∈ doc.imports, ∃ imported, i.target = some imported ∧ imported.workflow.isSome = true)

variable {w : Workspace} {source output : Path}

theorem graphSource?_of_showsWorkflow (h : w.ShowsWorkflow source) :
    ∃ workflow, w.graphSource? source = some workflow := by
  obtain ⟨doc, hload, hworkflow⟩ := h.loads
  have hsome := doc.isSome_shownWorkflow?_iff.2 hworkflow
  obtain ⟨workflow, hshown⟩ := Option.isSome_iff_exists.1 hsome
  have hsource : isSource w.tree w.cwd source = true := by
    rw [isSource, h.exists_source, h.suffix]
    rfl
  refine ⟨workflow, ?_⟩
  rw [graphSource?, h.answerable, hsource, hload]
  exact hshown

theorem showsWorkflow_of_graphSource? {workflow : WorkflowSource}
    (h : w.graphSource? source = some workflow) :
    w.ShowsWorkflow source ∧
      (w.load source).toOption.bind DocumentSource.shownWorkflow? = some workflow := by
  rw [graphSource?, Option.ite_none_right_eq_some, Bool.and_eq_true, Bool.not_eq_true'] at h
  obtain ⟨⟨hanswerable, hsource⟩, hshown⟩ := h
  rw [isSource, Bool.and_eq_true, beq_iff_eq] at hsource
  refine ⟨⟨hanswerable, hsource.1, hsource.2, ?_⟩, hshown⟩
  obtain ⟨doc, hdoc, hworkflow⟩ := Option.bind_eq_some_iff.1 hshown
  have hshows := doc.isSome_shownWorkflow?_iff.1 (Option.isSome_of_eq_some hworkflow)
  exact ⟨doc, eq_ok_of_toOption hdoc, hshows⟩

theorem graphText?_eq_some {text : String} (h : w.graphText? source = some text) :
    w.ShowsWorkflow source ∧ ∃ workflow,
      (w.load source).toOption.bind DocumentSource.shownWorkflow? = some workflow ∧
        text = graphMarkdown workflow.name (Flowchart.render workflow) source := by
  obtain ⟨workflow, hsource, rfl⟩ := Option.map_eq_some_iff.1 h
  obtain ⟨hshows, hshown⟩ := showsWorkflow_of_graphSource? hsource
  exact ⟨hshows, workflow, hshown, rfl⟩

theorem not_showsWorkflow_of_graphText? (h : w.graphText? source = none) :
    ¬ w.ShowsWorkflow source := by
  intro hshows
  obtain ⟨workflow, hworkflow⟩ := graphSource?_of_showsWorkflow hshows
  rw [graphText?, hworkflow] at h
  exact absurd h (by simp)

/-- **The file of a graph.** The command succeeds exactly if the source is there under the name of a
source, can be read, and shows a workflow of its own or of a document that it imports, if the tree
takes a file at the output path, and if the text of the graph can be written to the end. If it
fails, all files have the content that they had, except the output if it was opened: what was in it
is then lost, and it has the remnant of the text. If the command succeeds, the output has the graph,
and all other files have the content that they had. -/
theorem graph_file_outcome (w : Workspace) (source output : Path) :
    ((w.writeGraph source output).2 = true ↔
      w.ShowsWorkflow source ∧ w.tree.Writable w.cwd output ∧
        (w.graphText? source).bind w.remnant? = none) ∧
    ((w.writeGraph source output).2 = false →
      (∀ q, q ≠ (Path.resolve w.cwd output).names →
        (w.writeGraph source output).1.read? q = w.tree.read? q) ∧
      (w.ShowsWorkflow source ∧ w.tree.Writable w.cwd output →
        ∃ part, (w.graphText? source).bind w.remnant? = some part ∧
          (w.writeGraph source output).1.read? (Path.resolve w.cwd output).names = some part) ∧
      (¬ (w.ShowsWorkflow source ∧ w.tree.Writable w.cwd output) →
        (w.writeGraph source output).1.read? (Path.resolve w.cwd output).names =
          w.tree.read? (Path.resolve w.cwd output).names)) ∧
    ((w.writeGraph source output).2 = true →
      ∃ workflow, (w.load source).toOption.bind DocumentSource.shownWorkflow? = some workflow ∧
        ∀ q, (w.writeGraph source output).1.read? q =
          if q = (Path.resolve w.cwd output).names then
            some (graphMarkdown workflow.name (Flowchart.render workflow) source).toUTF8
          else w.tree.read? q) := by
  cases htext : w.graphText? source with
  | none =>
    have hnot := not_showsWorkflow_of_graphText? htext
    have hwrite : w.writeGraph source output = (w.tree, false) := by rw [writeGraph, htext]
    rw [hwrite]
    exact ⟨iff_of_false (by simp) fun h => hnot h.1,
      fun _ => ⟨fun _ _ => rfl, fun h => absurd h.1 hnot, fun _ => rfl⟩,
      fun h => absurd h (by simp)⟩
  | some text =>
    obtain ⟨hshows, workflow, hshown, rfl⟩ := graphText?_eq_some htext
    rw [writeGraph, htext, Option.bind_some]
    dsimp only
    by_cases hwritable : w.tree.Writable w.cwd output
    · obtain ⟨hanswer, hread⟩ := FileTree.run_open_fill hwritable
        (graphMarkdown workflow.name (Flowchart.render workflow) source)
        (w.remnant? (graphMarkdown workflow.name (Flowchart.render workflow) source))
      rw [hanswer, Option.isNone_iff_eq_none]
      refine ⟨by simp [hshows, hwritable], fun hpart => ⟨fun q hq => ?_, fun _ => ?_, fun h => ?_⟩,
        fun hwhole => ⟨workflow, hshown, fun q => ?_⟩⟩
      · rw [hread, if_neg hq]
      · obtain ⟨part, hremnant⟩ := Option.isSome_iff_exists.1 (by simpa using hpart)
        exact ⟨part, hremnant, by rw [hread, if_pos rfl, hremnant, Option.getD_some]⟩
      · exact absurd ⟨hshows, hwritable⟩ h
      · rw [hread, hwhole, Option.getD_none]
    · obtain ⟨hanswer, hread⟩ := FileTree.run_open_fill_of_not hwritable
        (graphMarkdown workflow.name (Flowchart.render workflow) source)
        (w.remnant? (graphMarkdown workflow.name (Flowchart.render workflow) source))
      rw [hanswer]
      exact ⟨iff_of_false (by simp) fun h => hwritable h.2.1,
        fun _ => ⟨fun q _ => hread q, fun h => absurd h.2 hwritable, fun _ => hread _⟩,
        fun h => absurd h (by simp)⟩

/-- A source with a workflow, and an output with a text, where no text can be written. -/
def fullWorkspace : Workspace where
  tree := ⟨[(["a.wdl"], .file .empty), (["graph.md"], .file "old".toUTF8)]⟩
  sources := [(["a.wdl"], .ok { workflow := some { name := "w" } })]
  remnant? := fun _ => some .empty

/-- A command that fails can leave the output empty that had a text before. -/
theorem cut_short_graph_empties_output :
    (fullWorkspace.writeGraph ⟨.slash, ["a.wdl"]⟩ ⟨.slash, ["graph.md"]⟩).2 = false ∧
      fullWorkspace.tree.read? ["graph.md"] = some "old".toUTF8 ∧
      (fullWorkspace.writeGraph ⟨.slash, ["a.wdl"]⟩ ⟨.slash, ["graph.md"]⟩).1.read? ["graph.md"] =
        some .empty := by
  refine ⟨?_, rfl, ?_⟩
  · decide
  · decide

end Workspace

end WorkflowDocs
