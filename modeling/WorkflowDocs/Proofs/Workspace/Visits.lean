import WorkflowDocs.Proofs.Workspace.Closure
import Mathlib.Data.List.Perm.Subperm
import Mathlib.Logic.Function.Iterate

/-!
# The loop that documents a project

Imports can also be followed with one set of paths that grows: the documented sources of the project
are in it from the start, a third-party source enters it when it is queued, and a source without a
document never does. Every import is looked up in it twice, as it is written and resolved. This loop
ends, after as many rounds as third-party sources are followed, with the outcomes of the project;
and these are those of the sources of the project and of the closure of imports.

## Main definitions

* `Visits`, `Visits.consider`, `Visits.step`, `Visits.start`: the loop
* `Visits.Matches`: the loop agrees with a frontier

## Main results

* `Visits.iterate_step`: the loop ends with the outcomes of a project
* `Workspace.collect_files_exact`: every file of the project and of the closure of its imports gives
  one document or one report
* `Workspace.doubleSlash_skips_import`: an import that is written with the path of a documented
  source is not followed, although it resolves to a third-party path
-/

namespace WorkflowDocs

open Workspace

/-- The state of the loop: the files that wait, the paths that count as documented, and the outcomes
so far. -/
structure Visits where
  queue : List Path
  parsed : List Path
  outcomes : List Outcome

namespace Visits

/-- Queues what an import leads to if it is a third-party source that does not count yet. -/
def consider (w : Workspace) (p : Project) (v : Visits) (written : Path) : Visits :=
  let target := Path.resolve w.cwd written
  if v.parsed.contains written || v.parsed.contains target || !p.isExternal target then v
  else { v with queue := v.queue ++ [target], parsed := v.parsed ++ [target] }

/-- One round of the loop: the first file that waits is documented, and its imports are
considered. -/
def step (w : Workspace) (p : Project) (v : Visits) : Visits :=
  match v.queue with
  | [] => v
  | file :: queue =>
    let o := w.outcome p.root file
    o.imported.foldl (consider w p) ⟨queue, v.parsed, v.outcomes ++ [o]⟩

/-- The loop at its start: the sources of the project are documented and their imports are
considered. -/
def start (w : Workspace) (p : Project) : Visits :=
  ((w.internalOutcomes p).flatMap Outcome.imported).foldl (consider w p)
    ⟨[], w.documentedFiles p, w.internalOutcomes p⟩

/-! ## The loop and the frontier -/

/-- The same files wait, and the paths that count are the `known` ones and those that were
reached. -/
structure Matches (w : Workspace) (known : List Path) (f : Frontier) (v : Visits) : Prop where
  queue : v.queue = f.queue
  parsed : ∀ q, q ∈ v.parsed ↔ q ∈ known ∨ (q ∈ w.allPaths ∧ q ∉ f.unreached)

variable {w : Workspace} {p : Project} {known : List Path}

theorem outcomes_consider (v : Visits) (written : Path) :
    (consider w p v written).outcomes = v.outcomes := by
  unfold consider
  dsimp only
  split <;> rfl

theorem outcomes_foldl_consider (files : List Path) (v : Visits) :
    (files.foldl (consider w p) v).outcomes = v.outcomes := by
  induction files generalizing v with
  | nil => rfl
  | cons file files ih => rw [List.foldl_cons, ih, outcomes_consider]

theorem resolve_of_mem_allPaths (htree : w.tree.WellFormed) {q : Path} (h : q ∈ w.allPaths) :
    Path.resolve w.cwd q = q := by
  obtain ⟨place, hplace, rfl⟩ := List.mem_map.1 h
  refine Path.resolve_of_not_mem rfl ?_ w.cwd
  rcases List.mem_cons.1 hplace with rfl | hentry
  · exact List.not_mem_nil
  · exact (htree.plain place hentry).not_mem

/-- The frontier after considering an import that leads somewhere. -/
def reachWritten (w : Workspace) (p : Project) (known : List Path) (f : Frontier)
    (written : Path) : Frontier :=
  let target := Path.resolve w.cwd written
  if !known.contains written && (!known.contains target && p.isExternal target) then f.reach target
  else f

/-- An import is taken up or left out by both. What counts as it is written is its own target, so a
target that was not reached is taken up, and one that was reached counts already. -/
theorem Matches.consider (htree : w.tree.WellFormed) {f : Frontier} {v : Visits}
    (h : Matches w known f v) {written : Path} (hexists : w.tree.pathExists w.cwd written = true) :
    Matches w known (reachWritten w p known f written) (v.consider w p written) := by
  set target := Path.resolve w.cwd written with htarget
  have hpath : target ∈ w.allPaths := resolve_mem_allPaths hexists
  by_cases hcounts : written ∈ known ∨ target ∈ known ∨ p.isExternal target = false
  · have hsame : v.consider w p written = v := by
      rw [Visits.consider, if_pos]
      rcases hcounts with hknown | hknown | hinside
      · simp [(h.parsed written).2 (.inl hknown)]
      · simp [← htarget, (h.parsed target).2 (.inl hknown)]
      · simp [← htarget, hinside]
    have hstays : reachWritten w p known f written = f := by
      rw [reachWritten, if_neg]
      rcases hcounts with hknown | hknown | hinside
      · simp [hknown]
      · simp [← htarget, hknown]
      · simp [← htarget, hinside]
    rw [hsame, hstays]
    exact h
  · obtain ⟨hwritten, hnotknown, hexternal⟩ := not_or.1 hcounts |>.imp_right not_or.1
    rw [Bool.not_eq_false] at hexternal
    have hreach : reachWritten w p known f written = f.reach target := by
      rw [reachWritten, if_pos (by simp [← htarget, hwritten, hnotknown, hexternal])]
    rw [hreach]
    by_cases hunreached : target ∈ f.unreached
    · have hw : written ∉ v.parsed := by
        intro hparsed
        obtain ⟨hall, hreached⟩ := ((h.parsed written).1 hparsed).resolve_left hwritten
        rw [htarget, resolve_of_mem_allPaths htree hall] at hunreached
        exact hreached hunreached
      have ht : target ∉ v.parsed := fun hparsed =>
        (((h.parsed target).1 hparsed).resolve_left hnotknown).2 hunreached
      have hqueued : v.consider w p written =
          { v with queue := v.queue ++ [target], parsed := v.parsed ++ [target] } := by
        rw [Visits.consider, if_neg (by simp [← htarget, hw, ht, hexternal])]
      rw [hqueued]
      refine ⟨?_, fun q => ?_⟩
      · rw [Frontier.reach, if_pos (List.contains_iff_mem.2 hunreached), h.queue]
      · rw [List.mem_append, List.mem_singleton, h.parsed, Frontier.mem_unreached_reach]
        by_cases heq : q = target
        · simp [heq, hpath]
        · simp [heq]
    · have hparsed : target ∈ v.parsed := (h.parsed target).2 (.inr ⟨hpath, hunreached⟩)
      rw [Visits.consider, if_pos (by simp [← htarget, hparsed]), Frontier.reach,
        if_neg (fun hmem => hunreached (List.contains_iff_mem.1 hmem))]
      exact h

theorem Matches.considerAll (htree : w.tree.WellFormed) {f : Frontier} {v : Visits}
    (h : Matches w known f v) {files : List Path}
    (hexists : ∀ written ∈ files, w.tree.pathExists w.cwd written = true) :
    Matches w known (files.foldl (reachWritten w p known) f)
      (files.foldl (Visits.consider w p) v) := by
  induction files generalizing f v with
  | nil => exact h
  | cons written files ih =>
    obtain ⟨hwritten, hfiles⟩ := List.forall_mem_cons.1 hexists
    exact ih (h.consider htree hwritten) hfiles

theorem reachAll_followed (f : Frontier) (o : Outcome) :
    f.reachAll (w.followed p known o) = o.imported.foldl (reachWritten w p known) f := by
  rw [followed]
  induction o.imported generalizing f with
  | nil => rfl
  | cons written files ih =>
    rw [List.foldl_cons, ← ih, reachWritten]
    by_cases hknown : written ∈ known
    · simp [hknown]
    · by_cases htarget : Path.resolve w.cwd written ∈ known
      · simp [hknown, htarget]
      · by_cases hexternal : p.isExternal (Path.resolve w.cwd written) = true <;>
          simp [hknown, htarget, hexternal, Frontier.reachAll]

theorem reachAll_flatMap_followed (f : Frontier) (os : List Outcome) :
    f.reachAll (os.flatMap (w.followed p known)) =
      (os.flatMap Outcome.imported).foldl (reachWritten w p known) f := by
  induction os generalizing f with
  | nil => rfl
  | cons o os ih =>
    rw [List.flatMap_cons, List.flatMap_cons, Frontier.reachAll, List.foldl_append,
      ← Frontier.reachAll, ← Frontier.reachAll, reachAll_followed, ih, List.foldl_append]

theorem exists_of_mem_imported {source written : Path}
    (h : written ∈ (w.outcome p.root source).imported) :
    w.tree.pathExists w.cwd written = true := by
  obtain ⟨-, -, -, -, -, -, hexists⟩ := mem_imported_outcome.1 h
  exact hexists

theorem matches_start (htree : w.tree.WellFormed) :
    Matches w (w.documentedFiles p) (w.firstFrontier p) (start w p) := by
  rw [firstFrontier, reachAll_flatMap_followed]
  refine Matches.considerAll htree ⟨rfl, fun q => ?_⟩ fun written hwritten => ?_
  · simp
  · obtain ⟨o, ho, himported⟩ := List.mem_flatMap.1 hwritten
    obtain ⟨source, -, rfl⟩ := List.mem_map.1 ho
    exact exists_of_mem_imported himported

/-- One round takes the first file from the queue and agrees with the frontier afterwards. -/
theorem Matches.step (htree : w.tree.WellFormed) {file : Path} {queue unreached : List Path}
    {v : Visits} (h : Matches w known ⟨file :: queue, unreached⟩ v) :
    Matches w known (Frontier.reachAll ⟨queue, unreached⟩ (w.next p known file)) (v.step w p) ∧
      (v.step w p).outcomes = v.outcomes ++ [w.outcome p.root file] := by
  have hstep : v.step w p = (w.outcome p.root file).imported.foldl (Visits.consider w p)
      ⟨queue, v.parsed, v.outcomes ++ [w.outcome p.root file]⟩ := by
    rw [Visits.step, h.queue]
  rw [hstep, next, reachAll_followed]
  refine ⟨?_, outcomes_foldl_consider _ _⟩
  have hpopped : Matches w known ⟨queue, unreached⟩
      ⟨queue, v.parsed, v.outcomes ++ [w.outcome p.root file]⟩ := ⟨rfl, h.parsed⟩
  exact hpopped.considerAll htree fun written hwritten => exists_of_mem_imported hwritten

/-- From a state that agrees with a frontier, the loop ends after as many rounds as files are
followed. -/
theorem Matches.iterate (htree : w.tree.WellFormed) {f : Frontier} {v : Visits}
    (h : Matches w known f v) :
    ((Visits.step w p)^[(w.visited p known f).length] v).queue = [] ∧
      ((Visits.step w p)^[(w.visited p known f).length] v).outcomes =
        v.outcomes ++ w.follow p known f := by
  induction f using follow_induction w p known generalizing v with
  | nil unreached =>
    rw [visited_nil, follow, List.append_nil]
    exact ⟨h.queue, rfl⟩
  | cons file queue unreached ih =>
    obtain ⟨hnext, houtcomes⟩ := h.step (p := p) htree
    obtain ⟨hqueue, hrest⟩ := ih hnext
    rw [visited_cons, List.length_cons, Function.iterate_succ_apply]
    refine ⟨hqueue, hrest.trans ?_⟩
    rw [houtcomes, follow, List.append_assoc]
    rfl

/-- The loop ends with the outcomes of the project. Considering imports adds no outcome, so the loop
starts with those of the project. -/
theorem iterate_step (htree : w.tree.WellFormed) :
    ((step w p)^[(w.thirdParty p).length] (start w p)).queue = [] ∧
      ((step w p)^[(w.thirdParty p).length] (start w p)).outcomes = w.outcomes p := by
  obtain ⟨hqueue, houtcomes⟩ := (matches_start (p := p) htree).iterate (p := p) htree
  refine ⟨hqueue, houtcomes.trans ?_⟩
  rw [start, outcomes_foldl_consider]
  rfl

end Visits

/-! ## The files of a project -/

namespace Workspace

/-- Each source of the project and each third-party source of the closure of imports gives one
document or one report, and no other file does. The closure leaves out imports that are written with
the path of a documented source; where the root starts with one slash there is none of them to leave
out, because a tree has no links. The loop that follows imports comes to its end after one round for
each third-party source. -/
theorem collect_files_exact (w : Workspace) (p : Project) (htree : w.tree.WellFormed)
    (habs : p.root.isAbsolute = true) (hdots : ".." ∉ p.root.names)
    (hdirs : p.externalDirs = [Path.externalName]) :
    ∃ external : List Path,
      (∀ q, q ∈ external ↔ w.Reached p (w.Documented p) q) ∧
      (p.root.root = .slash → ∀ q, q ∈ external ↔ w.Reached p (fun _ => False) q) ∧
      (p.internalFiles w.tree w.cwd ++ external).Nodup ∧
      ((w.collect p).1.map (·.filePath) ++ (w.collect p).2.map (·.filePath)).Perm
        (p.internalFiles w.tree w.cwd ++ external) ∧
      (∀ d, d ∈ (w.collect p).1 ↔
        d.filePath ∈ p.internalFiles w.tree w.cwd ++ external ∧
          w.parse p.root d.filePath = .ok d) ∧
      (∀ f, f ∈ (w.collect p).2 ↔
        f.filePath ∈ p.internalFiles w.tree w.cwd ++ external ∧
          ∃ e, w.parse p.root f.filePath = .error e ∧ f = w.report p.root f.filePath e) ∧
      external.length ≤ w.allPaths.length ∧
      ((Visits.step w p)^[external.length] (Visits.start w p)).queue = [] ∧
      ((Visits.step w p)^[external.length] (Visits.start w p)).outcomes = w.outcomes p := by
  refine ⟨w.thirdParty p, fun q => mem_thirdParty_iff habs hdirs, fun hroot q => ?_,
    nodup_files habs hdirs htree, collect_files_perm, fun d => mem_documents,
    fun f => mem_failures, ?_, Visits.iterate_step htree⟩
  · rw [mem_thirdParty_iff habs hdirs, reached_documented_iff habs hdirs htree hroot hdots]
  · exact (List.subperm_of_subset nodup_thirdParty
      fun q hq => mem_allPaths_of_mem_thirdParty hq).length_le

/-- A document that only imports. -/
def importing (addresses : List String) : DocumentSource where
  imports := addresses.map fun address => ⟨address, none, none⟩

/-- A project with a source that cannot be read and one that imports it, a missing file, and the
first of two third-party sources that import each other. -/
def cyclicWorkspace : Workspace where
  tree := ⟨[(["p"], .directory), (["p", "a.wdl"], .file .empty), (["p", "b.wdl"], .file .empty),
    (["p", "external"], .directory), (["p", "external", "x.wdl"], .file .empty),
    (["lib"], .directory), (["lib", "y.wdl"], .file .empty)]⟩
  sources :=
    [(["p", "a.wdl"], .ok (importing ["b.wdl", "missing.wdl", "external/x.wdl"])),
      (["p", "b.wdl"], .error .manyInvalid),
      (["p", "external", "x.wdl"], .ok (importing ["../a.wdl", "../../lib/y.wdl"])),
      (["lib", "y.wdl"], .ok (importing ["y.wdl", "../p/external/x.wdl"]))]

/-- The project of `cyclicWorkspace`. -/
def cyclicProject : Project := Project.make ⟨.slash, ["p"]⟩ none none

theorem reached_cyclic :
    cyclicWorkspace.Reached cyclicProject (fun _ => False) ⟨.slash, ["lib", "y.wdl"]⟩ := by
  have hfirst : cyclicWorkspace.Imports cyclicProject ⟨.slash, ["p", "a.wdl"]⟩
      ⟨.slash, ["p", "external", "x.wdl"]⟩ :=
    ⟨⟨_, rfl⟩, _, rfl, _, List.mem_map_of_mem (a := "external/x.wdl") (by decide), by decide,
      by decide⟩
  have hsecond : cyclicWorkspace.Imports cyclicProject ⟨.slash, ["p", "external", "x.wdl"]⟩
      ⟨.slash, ["p", "external", "..", "..", "lib", "y.wdl"]⟩ :=
    ⟨⟨_, rfl⟩, _, rfl, _, List.mem_map_of_mem (a := "../../lib/y.wdl") (by decide), by decide,
      by decide⟩
  have hsource : ⟨.slash, ["p", "a.wdl"]⟩ ∈
      cyclicProject.internalFiles cyclicWorkspace.tree cyclicWorkspace.cwd :=
    Project.mem_internalFiles.2 ⟨by decide, by decide⟩
  exact .fromReached (.fromProject hsource hfirst (fun hfalse => hfalse) (by decide)) hsecond
    (fun hfalse => hfalse) (by decide)

theorem collect_files_exact_cyclic :
    (cyclicWorkspace.tree.WellFormed ∧ cyclicProject.root.isAbsolute = true ∧
      ".." ∉ cyclicProject.root.names ∧ cyclicProject.externalDirs = [Path.externalName]) ∧
    ⟨.slash, ["lib", "y.wdl"]⟩ ∈ (cyclicWorkspace.collect cyclicProject).1.map (·.filePath) ++
      (cyclicWorkspace.collect cyclicProject).2.map (·.filePath) := by
  have htree : cyclicWorkspace.tree.WellFormed := ⟨by decide, by decide⟩
  have habs : cyclicProject.root.isAbsolute = true := rfl
  have hdots : ".." ∉ cyclicProject.root.names := by decide
  obtain ⟨external, -, hexternal, -, hperm, -⟩ :=
    collect_files_exact cyclicWorkspace cyclicProject htree habs hdots rfl
  refine ⟨⟨htree, habs, hdots, rfl⟩, hperm.mem_iff.2 (List.mem_append_right _ ?_)⟩
  exact (hexternal rfl _).2 reached_cyclic

/-- Two sources of a project, the first of which imports the second. -/
def pairWorkspace : Workspace where
  tree := ⟨[(["p"], .directory), (["p", "a.wdl"], .file .empty), (["p", "b.wdl"], .file .empty)]⟩
  sources := [(["p", "a.wdl"], .ok (importing ["b.wdl"])), (["p", "b.wdl"], .ok (importing []))]

/-- The project of `pairWorkspace`, addressed with two leading slashes. -/
def pairProject : Project := Project.make ⟨.doubleSlash, ["p"]⟩ none none

/-- The only import is written with the path of a documented source. -/
theorem not_reached_pair (q : Path) :
    ¬ pairWorkspace.Reached pairProject (pairWorkspace.Documented pairProject) q := by
  intro h
  induction h with
  | fromReached _ _ _ _ ih => exact ih
  | @fromProject source written hsource himports hskip hexternal =>
    have hfiles : Project.sourcesBelow pairWorkspace.tree pairWorkspace.cwd pairProject.root =
      [⟨.doubleSlash, ["p", "a.wdl"]⟩, ⟨.doubleSlash, ["p", "b.wdl"]⟩] := by decide
    obtain ⟨-, doc, hload, i, hi, hwritten, -⟩ := himports
    have hmem := (Project.mem_internalFiles.1 hsource).1
    rw [hfiles, List.mem_cons, List.mem_singleton] at hmem
    rcases hmem with rfl | rfl
    · obtain rfl := Except.ok.inj hload
      obtain rfl := List.mem_singleton.1 hi
      refine hskip ⟨?_, ?_⟩
      · rw [hwritten]
        exact Project.mem_internalFiles.2 ⟨by decide, by decide⟩
      · rw [hwritten]
        exact ⟨_, rfl⟩
    · obtain rfl := Except.ok.inj hload
      exact absurd hi List.not_mem_nil

/-- An import that is written with the path of a documented source is not followed, although it
resolves to a third-party path that gives neither a document nor a report. -/
theorem doubleSlash_skips_import :
    pairWorkspace.Reached pairProject (fun _ => False) ⟨.slash, ["p", "b.wdl"]⟩ ∧
      ⟨.slash, ["p", "b.wdl"]⟩ ∉ (pairWorkspace.collect pairProject).1.map (·.filePath) ++
        (pairWorkspace.collect pairProject).2.map (·.filePath) := by
  refine ⟨?_, fun hmem => ?_⟩
  · have himports : pairWorkspace.Imports pairProject ⟨.doubleSlash, ["p", "a.wdl"]⟩
        ⟨.doubleSlash, ["p", "b.wdl"]⟩ :=
      ⟨⟨_, rfl⟩, _, rfl, _, List.mem_singleton_self _, by decide, by decide⟩
    exact .fromProject (Project.mem_internalFiles.2 ⟨by decide, by decide⟩) himports
      (fun hfalse => hfalse) (by decide)
  · rcases List.mem_append.1 (collect_files_perm.mem_iff.1 hmem) with hinternal | hexternal
    · obtain ⟨_, _, _, _, _, _, hfile⟩ := Project.exists_of_mem_internalFiles hinternal
      exact absurd (Path.mk.inj hfile).1 (by decide)
    · exact not_reached_pair _ ((mem_thirdParty_iff rfl rfl).1 hexternal)

end Workspace

end WorkflowDocs
