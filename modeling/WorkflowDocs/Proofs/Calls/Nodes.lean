import WorkflowDocs.Proofs.Flowchart.Nesting
import WorkflowDocs.Proofs.Site.Links

/-!
# The call list and the chart show the same calls

A workflow is documented by a list of its calls and by a chart, which are made by two traversals of
its body. The list takes the calls as they stand and leaves out those that cannot be documented. The
chart numbers names rather than calls, so that a name that was met before gets no node, and it
leaves out blocks without calls. For a body in which the calls have different names and are of
something known, neither traversal leaves out a call.

A call is also left out of the list when the file behind its import cannot be followed to. The
imports of a document have been found in a file tree, and then this does not happen.

## Main definitions

* `CallInfo.nodeText`: the node that shows a call of the list
* `Flowchart.readNodes`: the nodes of a chart as they are read
* `ImportInfo.FoundIn`: an import whose file was found in a tree

## Main results

* `Calls.callInfo_of_callee`: a call of something known is documented
* `Flowchart.readNodes_ofBody`: the nodes of a chart, one for each call of the body
* `Calls.callList_nodes_agree`: the list and the chart show the same calls
-/

namespace WorkflowDocs

/-- What the node of a call shows: the name the call is shown under, with what it refers to below if
it has a name of its own, in a rectangle if it refers to a task. -/
def CallInfo.nodeText (c : CallInfo) : String :=
  Flowchart.nodeShape
    (match c.aliasName with
      | none => c.displayName
      | some _ => c.displayName ++ "<br/><i>" ++ c.target ++ "</i>")
    (c.kind == .task)

/-! ## The nodes of a chart -/

namespace Flowchart

/-- The nodes that are read, with their identifiers and what they show, in the order of their
lines. -/
def readNodes (forest : List Block) : List (String × String) :=
  (Block.marksOf forest).filterMap fun
    | .node id shape => some (id, shape)
    | _ => none

theorem readNodes_append (a b : List Block) : readNodes (a ++ b) = readNodes a ++ readNodes b := by
  rw [readNodes, Block.marksOf_append, List.filterMap_append]
  rfl

mutual

theorem readNodes_block : ∀ f : Figure,
    readNodes [f.block] = f.nodes.map fun x => (nodeId x.1, nodeShape x.2.1 x.2.2)
  | .node _ _ _ => rfl
  | .box _ _ _ children => by
    simpa [readNodes, Figure.block, Block.marksOf, Block.marks, Figure.nodes] using
      readNodes_blocksOf children

/-- The nodes that are read are those that were drawn. -/
theorem readNodes_blocksOf : ∀ figures : List Figure,
    readNodes (Figure.blocksOf figures) =
      (Figure.nodesOf figures).map fun x => (nodeId x.1, nodeShape x.2.1 x.2.2)
  | [] => rfl
  | f :: fs => by
    rw [Figure.blocksOf, ← List.singleton_append, readNodes_append, readNodes_block f,
      readNodes_blocksOf fs, Figure.nodesOf, List.map_append]

end

/-- The chart of a body has a node for each call, numbered in order. -/
theorem readNodes_ofBody {body : List Node} (hcalls : (callNames body).Nodup) (name : String) :
    readNodes (Figure.blocksOf (Chart.ofBody name body).figures) =
      ((Node.callsOf body).zipIdx 1).map fun x => (nodeId x.2, callShape x.1) := by
  have hnodes : Figure.nodesOf (Chart.ofBody name body).figures =
      numberedNodes 1 (Node.callsOf body) := (drawnCalls_body hcalls).nodes
  rw [readNodes_blocksOf, hnodes, numberedNodes, List.map_map]
  rfl

end Flowchart

/-! ## The documented calls -/

/-- The file behind the import, if there is one, stands in the tree. -/
def ImportInfo.FoundIn (t : FileTree) (cwd : Path) (i : ImportInfo) : Prop :=
  ∀ file, i.resolved = some file → t.pathExists cwd file = true

/-- The imports of a document have been found in the tree of its workspace. -/
theorem Workspace.foundIn_of_mem_importInfos {w : Workspace} {file : Path} {doc : DocumentSource}
    {i : ImportInfo} (hi : i ∈ w.importInfos file doc) : i.FoundIn w.tree w.cwd := by
  rw [importInfos, List.mem_map] at hi
  obtain ⟨source, -, rfl⟩ := hi
  intro target htarget
  dsimp only [resolveImport] at htarget
  split at htarget
  · obtain rfl := Option.some.inj htarget
    assumption
  · cases htarget

/-- A path that leads somewhere in a tree with names that a file system takes can be followed. -/
theorem FileTree.Regular.isFollowable {t : FileTree} (ht : t.Regular) {cwd file : Path}
    (h : t.pathExists cwd file = true) : file.isFollowable = true := by
  obtain ⟨place, hplace⟩ := Option.isSome_iff_exists.1 h
  rw [Path.isFollowable, Bool.not_eq_true', List.any_eq_false]
  intro name hname
  have hmem : name ∈ (cwd.join file).names := (Path.names_suffix_join cwd file).subset hname
  rw [(ht.name_of_walk hplace hmem).2.2]
  exact Bool.false_ne_true

namespace Calls

variable {t : FileTree} {cwd : Path} {imports : List ImportInfo} {c : CallNode} (root : Path)

/-- Where a call leads is known, unless the file behind its import cannot be followed to. -/
theorem exists_linkTarget (ht : t.Regular) (himports : ∀ i ∈ imports, i.FoundIn t cwd)
    (c : CallNode) (isLocal : Bool) (callee : String) :
    ∃ link, linkTarget? cwd root imports isLocal c callee = some link := by
  rw [linkTarget?]
  split
  · exact ⟨_, rfl⟩
  · dsimp only
    split
    · rename_i file hfile
      obtain ⟨scope, -, hscope⟩ := Option.bind_eq_some_iff.1 hfile
      obtain ⟨i, hi, hresolved⟩ := Option.bind_eq_some_iff.1 hscope
      have hfound := himports i (List.mem_of_find?_eq_some hi) file hresolved
      rw [Path.relativeToRoot?, ht.isFollowable hfound, Bool.or_true, if_pos rfl]
      exact ⟨_, rfl⟩
    · exact ⟨_, rfl⟩

/-- A call of something known is documented, and its node shows what the documentation says. The
entry names the callee only if the call goes by another name, and so does the label. -/
theorem callInfo_of_callee (ht : t.Regular) (himports : ∀ i ∈ imports, i.FoundIn t cwd)
    (hname : c.name ≠ "") (hcallee : c.callee.isSome = true) :
    ∃ info, callInfo cwd root imports c = .ok info ∧ info.nodeText = Flowchart.callShape c := by
  obtain ⟨callee, hcallee⟩ := Option.isSome_iff_exists.1 hcallee
  obtain ⟨link, hlink⟩ := exists_linkTarget root ht himports c (isLocalCall imports c) callee.name
  rw [callInfo, hcallee, Option.elim_some]
  simp only [bind, Except.bind, hlink, Option.elim_some]
  refine ⟨_, rfl, ?_⟩
  obtain ⟨kind, name⟩ := callee
  have hkind : (CallKind.workflow == .task) = (CalleeKind.workflow == .task) := rfl
  rw [CallInfo.nodeText, Flowchart.callShape, Flowchart.nodeLabel, Flowchart.calleeName,
    Flowchart.callsTask, hcallee]
  by_cases hown : c.name = name
  · cases kind <;> simp [CallInfo.displayName, hown, presentText, hkind]
  · cases kind <;> simp [CallInfo.displayName, hown, presentText_of_ne hname, hkind]

/-- The list documents every call of a body, in order, if all are of something known. -/
theorem callList_forall₂ (ht : t.Regular) (himports : ∀ i ∈ imports, i.FoundIn t cwd)
    {body : List Node} (hnames : ∀ c ∈ Node.callsOf body, c.name ≠ "")
    (hcallees : ∀ c ∈ Node.callsOf body, c.callee.isSome = true) :
    List.Forall₂ (fun c info => callInfo cwd root imports c = .ok info ∧
      info.nodeText = Flowchart.callShape c)
      (Node.callsOf body) (callList cwd root imports body) := by
  rw [callList]
  generalize Node.callsOf body = calls at hnames hcallees
  induction calls with
  | nil => exact .nil
  | cons c calls ih =>
    obtain ⟨info, hinfo, htext⟩ := callInfo_of_callee root ht himports
      (hnames c List.mem_cons_self) (hcallees c List.mem_cons_self)
    rw [List.filterMap_cons_some (by rw [hinfo]; rfl)]
    exact .cons ⟨hinfo, htext⟩ (ih (fun c hc => hnames c (List.mem_cons_of_mem _ hc))
      fun c hc => hcallees c (List.mem_cons_of_mem _ hc))

/-- Entries that say what the nodes of calls show say it position by position. -/
theorem numbered_of_forall₂ {calls : List CallNode} {infos : List CallInfo}
    (h : List.Forall₂ (fun c info => info.nodeText = Flowchart.callShape c) calls infos)
    (first : Nat) :
    ((calls.zipIdx first).map fun x => (Flowchart.nodeId x.2, Flowchart.callShape x.1)) =
      (infos.zipIdx first).map fun x => (Flowchart.nodeId x.2, x.1.nodeText) := by
  induction h generalizing first with
  | nil => rfl
  | cons htext _ ih =>
    rw [List.zipIdx_cons, List.zipIdx_cons, List.map_cons, List.map_cons, ih, htext]

/-- **The call list and the chart show the same calls.** For a workflow whose calls have different
names that are not empty and are of something known, and imports that were found in a file tree, the
list documents each call, in the order in which they stand. The nodes that are read from the lines
before the edges are as many; they are named `N1`, `N2`, …, and each shows the name of the call at
the same position of the list, with what it refers to below if the call has a name of its own, in a
rectangle exactly if this is a task. -/
theorem callList_nodes_agree (t : FileTree) (ht : t.Regular) (cwd root : Path)
    (imports : List ImportInfo) (himports : ∀ i ∈ imports, i.FoundIn t cwd) (w : WorkflowSource)
    (hdistinct : (Flowchart.callNames w.body).Nodup)
    (hnames : ∀ c ∈ Node.callsOf w.body, c.name ≠ "")
    (hcallees : ∀ c ∈ Node.callsOf w.body, c.callee.isSome = true) :
    let chart := Flowchart.Chart.ofBody w.name w.body
    let calls := callList cwd root imports w.body
    List.Forall₂ (fun c info => callInfo cwd root imports c = .ok info)
      (Node.callsOf w.body) calls ∧
    (w.body ≠ [] → Flowchart.render w = Text.joinWith "\n" chart.lines) ∧
    ∃ blocks forest, chart.Encloses blocks ∧ Flowchart.readBlocks blocks = some forest ∧
      Flowchart.readNodes forest =
        (calls.zipIdx 1).map fun x => (Flowchart.nodeId x.2, x.1.nodeText) := by
  intro chart calls
  have hlist : List.Forall₂ _ (Node.callsOf w.body) calls :=
    callList_forall₂ root ht himports hnames hcallees
  refine ⟨hlist.imp fun _ _ h => h.1, fun hbody => ?_, _, _,
    Flowchart.Chart.encloses_linesOf (Flowchart.endTerminals_ne_nil _ _ _),
    Flowchart.readBlocks_linesOf chart.figures, ?_⟩
  · rw [Flowchart.render, if_neg (mt List.isEmpty_iff.1 hbody)]
  · rw [Flowchart.readNodes_ofBody hdistinct w.name]
    exact numbered_of_forall₂ (hlist.imp fun _ _ h => h.2) 1

/-- A workflow that calls an imported task under another name inside a block, after a block without
calls, and then a workflow under its own name. -/
def renamingWorkflow : WorkflowSource where
  name := "renaming"
  body :=
    [.scatter "x" (some (.ident "xs")) [.decl ⟨"n", .primitive .int false, none⟩],
      .conditional (some (.ident "ok"))
        [.call ⟨["lib", "t"], "first", [], some ⟨.task, "t"⟩⟩],
      .call ⟨["inner"], "inner", [], some ⟨.workflow, "inner"⟩⟩]

theorem callList_nodes_agree_renaming :
    let imports := SiteJob.detourWorkspace.importInfos ⟨.slash, ["p", "a.wdl"]⟩
      { imports := [⟨"../p/b.wdl", some "lib", none⟩] }
    imports.map (·.resolved) = [some ⟨.slash, ["p", "..", "p", "b.wdl"]⟩] ∧
    (Flowchart.callNames renamingWorkflow.body).Nodup ∧
    ∃ blocks forest,
      (Flowchart.Chart.ofBody renamingWorkflow.name renamingWorkflow.body).Encloses blocks ∧
      Flowchart.readBlocks blocks = some forest ∧
      Flowchart.readNodes forest =
        [("N1", "[\"first<br/><i>t</i>\"]"), ("N2", "[/\"inner\"/]")] := by
  intro imports
  have hdistinct : (Flowchart.callNames renamingWorkflow.body).Nodup := by decide
  obtain ⟨-, -, blocks, forest, hblocks, hread, hnodes⟩ := callList_nodes_agree
    SiteJob.detourWorkspace.tree SiteJob.regular_detour SiteJob.detourWorkspace.cwd
    ⟨.slash, ["p"]⟩ imports (fun i hi => Workspace.foundIn_of_mem_importInfos hi)
    renamingWorkflow hdistinct (by decide) (by decide)
  refine ⟨rfl, hdistinct, blocks, forest, hblocks, hread, hnodes.trans ?_⟩
  decide

end Calls

end WorkflowDocs
