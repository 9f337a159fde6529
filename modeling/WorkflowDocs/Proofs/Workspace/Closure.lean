import WorkflowDocs.Workspace.Collect
import WorkflowDocs.Proofs.Project.Sources

/-!
# The closure of imports

The third-party sources that are documented are the least set of paths that is closed under the
imports of documented files. Following works on a frontier: a queue of files, and the paths that
were not reached so far. A path moves from the second to the first when it is reached, and from
there to the outcomes, so that no path comes to the outcomes twice; and whatever an outcome leads to
was either reached before or is reached now.

An import counts by the path that it is *written* with, and again by the path that this resolves to.
The first matters where a project is addressed with two leading slashes: its sources are known by
such paths, which no resolved path is equal to.

## Main definitions

* `Workspace.Imports`: an import of a documented file that leads somewhere
* `Workspace.Documented`: the sources of the project that have a document
* `Workspace.Reached`: the closure of imports among third-party sources
* `Workspace.visited`: the files that are followed from a frontier

## Main results

* `Workspace.nodup_visited`, `Workspace.visited_closed`, `Workspace.visited_least`: following
  visits each file once, and the least closed set of them
* `Workspace.mem_thirdParty_iff`: the third-party sources that are followed are the closure
* `Workspace.collect_files_perm`, `Workspace.mem_documents`, `Workspace.mem_failures`: every file
  gives one document or one report
-/

namespace WorkflowDocs

/-! ## Frontiers -/

namespace Frontier

theorem mem_queue_reach {f : Frontier} {file q : Path} :
    q ∈ (f.reach file).queue ↔ q ∈ f.queue ∨ (q = file ∧ q ∈ f.unreached) := by
  unfold reach
  split
  · rename_i h
    have hfile : file ∈ f.unreached := List.contains_iff_mem.1 h
    rw [List.mem_append, List.mem_singleton]
    exact or_congr_right ⟨fun heq => ⟨heq, heq ▸ hfile⟩, And.left⟩
  · rename_i h
    have hfile : file ∉ f.unreached := fun hmem => h (List.contains_iff_mem.2 hmem)
    exact ⟨Or.inl, fun hq => hq.resolve_right fun hnew => hfile (hnew.1 ▸ hnew.2)⟩

theorem mem_unreached_reach {f : Frontier} {file q : Path} :
    q ∈ (f.reach file).unreached ↔ q ∈ f.unreached ∧ q ≠ file := by
  unfold reach
  split
  · simp
  · rename_i h
    have hfile : file ∉ f.unreached := fun hmem => h (List.contains_iff_mem.2 hmem)
    exact ⟨fun hq => ⟨hq, fun heq => hfile (heq ▸ hq)⟩, And.left⟩

theorem mem_unreached_reachAll {files : List Path} {f : Frontier} {q : Path} :
    q ∈ (f.reachAll files).unreached ↔ q ∈ f.unreached ∧ q ∉ files := by
  induction files generalizing f with
  | nil => simp [reachAll]
  | cons file files ih =>
    rw [reachAll, List.foldl_cons, ← reachAll, ih, mem_unreached_reach, List.mem_cons, not_or,
      and_assoc]

theorem mem_queue_reachAll {files : List Path} {f : Frontier} {q : Path} :
    q ∈ (f.reachAll files).queue ↔ q ∈ f.queue ∨ (q ∈ files ∧ q ∈ f.unreached) := by
  induction files generalizing f with
  | nil => simp [reachAll]
  | cons file files ih =>
    rw [reachAll, List.foldl_cons, ← reachAll, ih, mem_queue_reach, mem_unreached_reach,
      List.mem_cons]
    by_cases heq : q = file <;> simp [heq]

/-- The files that wait are distinct, and all of them were reached. -/
structure Separate (f : Frontier) : Prop where
  nodup : f.queue.Nodup
  reached : ∀ q ∈ f.queue, q ∉ f.unreached

theorem Separate.reach {f : Frontier} (h : f.Separate) (file : Path) :
    (f.reach file).Separate where
  nodup := by
    unfold Frontier.reach
    split
    · rename_i hfile
      rw [← List.concat_eq_append]
      exact h.nodup.concat fun hmem => h.reached file hmem (List.contains_iff_mem.1 hfile)
    · exact h.nodup
  reached q hq hunreached := by
    obtain ⟨hq', hne⟩ := mem_unreached_reach.1 hunreached
    rcases mem_queue_reach.1 hq with hold | ⟨heq, -⟩
    · exact h.reached q hold hq'
    · exact hne heq

theorem Separate.reachAll {f : Frontier} (h : f.Separate) (files : List Path) :
    (f.reachAll files).Separate := by
  induction files generalizing f with
  | nil => exact h
  | cons file files ih => exact ih (h.reach file)

end Frontier

/-! ## Outcomes -/

/-- The file that an outcome is about. -/
def Outcome.file : Outcome → Path
  | .ok d => d.filePath
  | .error f => f.filePath

namespace Workspace

/-- The documented file `source` has an import, written as the path `written`, that leads
somewhere. -/
def Imports (w : Workspace) (p : Project) (source written : Path) : Prop :=
  (∃ d, w.parse p.root source = .ok d) ∧ ∃ doc, w.load source = .ok doc ∧
    ∃ i ∈ doc.imports, written = source.parent.join (Path.ofText i.address) ∧
      w.tree.pathExists w.cwd written = true

/-- The source belongs to the project and has a document. -/
def Documented (w : Workspace) (p : Project) (file : Path) : Prop :=
  file ∈ p.internalFiles w.tree w.cwd ∧ ∃ d, w.parse p.root file = .ok d

/-- The third-party sources that the documented files import, directly or through others of them,
apart from imports that are written with a path to `skip`. -/
inductive Reached (w : Workspace) (p : Project) (skip : Path → Prop) : Path → Prop
  | fromProject {source written : Path} (hsource : source ∈ p.internalFiles w.tree w.cwd)
      (himports : w.Imports p source written) (hskip : ¬ skip written)
      (hexternal : p.isExternal (Path.resolve w.cwd written) = true) :
      Reached w p skip (Path.resolve w.cwd written)
  | fromReached {source written : Path} (hsource : Reached w p skip source)
      (himports : w.Imports p source written) (hskip : ¬ skip written)
      (hexternal : p.isExternal (Path.resolve w.cwd written) = true) :
      Reached w p skip (Path.resolve w.cwd written)

variable {w : Workspace} {p : Project} {known : List Path}

theorem parse_eq_ok {root file : Path} {d : DocumentInfo} (h : w.parse root file = .ok d) :
    ∃ doc, w.load file = .ok doc ∧ d.filePath = file ∧
      d.relativePath = Path.relativeToRoot w.cwd file root ∧
      d.imports = w.importInfos file doc := by
  rw [parse] at h
  cases hload : w.load file with
  | error e => simp [hload, Except.mapError, bind, Except.bind] at h
  | ok doc =>
    refine ⟨doc, rfl, ?_⟩
    simp only [hload, Except.mapError, bind, Except.bind, pure, Except.pure] at h
    split at h
    · exact absurd h (by simp)
    · split at h
      · exact absurd h (by simp)
      · obtain rfl := Except.ok.inj h
        exact ⟨rfl, rfl, rfl⟩

theorem file_outcome (root file : Path) : (w.outcome root file).file = file := by
  rw [outcome]
  cases hparse : w.parse root file with
  | ok d =>
    obtain ⟨-, -, hfile, -⟩ := parse_eq_ok hparse
    exact hfile
  | error e => cases e <;> rfl

theorem outcome_eq_ok_iff {root file : Path} {d : DocumentInfo} :
    w.outcome root file = .ok d ↔ w.parse root file = .ok d := by
  rw [outcome]
  cases w.parse root file <;> simp [Except.mapError]

theorem outcome_eq_error_iff {root file : Path} {f : ParseFailure} :
    w.outcome root file = .error f ↔
      ∃ e, w.parse root file = .error e ∧ f = w.report root file e := by
  rw [outcome]
  cases w.parse root file <;> simp [Except.mapError, eq_comm]

theorem mem_imported_outcome {source written : Path} :
    written ∈ (w.outcome p.root source).imported ↔ w.Imports p source written := by
  cases hparse : w.parse p.root source with
  | error e => simp [outcome, hparse, Except.mapError, Outcome.imported, Imports]
  | ok d =>
    obtain ⟨doc, hload, -, -, himports⟩ := parse_eq_ok hparse
    have houtcome : w.outcome p.root source = .ok d := outcome_eq_ok_iff.2 hparse
    simp only [houtcome, Outcome.imported, himports, importInfos, List.filterMap_map,
      List.mem_filterMap, Function.comp_apply, resolveImport, Option.ite_none_right_eq_some,
      Option.some.injEq, Imports, hparse, hload, Except.ok.injEq, exists_eq', true_and,
      exists_eq_left']
    constructor
    · rintro ⟨i, hi, hexists, rfl⟩
      exact ⟨i, hi, rfl, hexists⟩
    · rintro ⟨i, hi, rfl, hexists⟩
      exact ⟨i, hi, hexists, rfl⟩

theorem mem_followed {o : Outcome} {target : Path} :
    target ∈ w.followed p known o ↔
      ∃ written ∈ o.imported, written ∉ known ∧ Path.resolve w.cwd written = target ∧
        target ∉ known ∧ p.isExternal target = true := by
  simp only [followed, List.mem_filterMap, List.mem_filter, Bool.not_eq_true',
    List.contains_eq_mem, decide_eq_false_iff_not, Bool.and_eq_true, Option.ite_none_right_eq_some,
    Option.some.injEq]
  constructor
  · rintro ⟨written, ⟨hwritten, hknown⟩, ⟨htarget, hexternal⟩, rfl⟩
    exact ⟨written, hwritten, hknown, rfl, htarget, hexternal⟩
  · rintro ⟨written, hwritten, hknown, rfl, htarget, hexternal⟩
    exact ⟨written, ⟨hwritten, hknown⟩, ⟨htarget, hexternal⟩, rfl⟩

/-- What an import leads to is a path of the tree. -/
theorem resolve_mem_allPaths {file : Path} (h : w.tree.pathExists w.cwd file = true) :
    Path.resolve w.cwd file ∈ w.allPaths := by
  obtain ⟨place, hplace⟩ := Option.isSome_iff_exists.1 h
  obtain ⟨rfl, hget⟩ := FileTree.locate?_eq_some hplace
  rw [allPaths, List.mem_map]
  exact ⟨_, List.mem_cons.2 (FileTree.mem_places_of_get? hget), rfl⟩

/-! ## Following -/

/-- The third-party sources that a file leads to in one step. -/
def next (w : Workspace) (p : Project) (known : List Path) (file : Path) : List Path :=
  w.followed p known (w.outcome p.root file)

/-- Induction along the files that are followed: a file is taken from the queue, and what it leads
to is reached. -/
theorem follow_induction (w : Workspace) (p : Project) (known : List Path)
    {motive : Frontier → Prop} (nil : ∀ unreached, motive ⟨[], unreached⟩)
    (cons : ∀ file queue unreached,
      motive (Frontier.reachAll ⟨queue, unreached⟩ (w.next p known file)) →
        motive ⟨file :: queue, unreached⟩) (f : Frontier) : motive f :=
  follow.induct w p known motive nil cons f

/-- The files that are followed from a frontier, in order. -/
def visited (w : Workspace) (p : Project) (known : List Path) (f : Frontier) : List Path :=
  (w.follow p known f).map Outcome.file

theorem visited_nil (unreached : List Path) : w.visited p known ⟨[], unreached⟩ = [] := by
  rw [visited, follow, List.map_nil]

theorem visited_cons (file : Path) (queue unreached : List Path) :
    w.visited p known ⟨file :: queue, unreached⟩ =
      file :: w.visited p known (Frontier.reachAll ⟨queue, unreached⟩ (w.next p known file)) := by
  rw [visited, follow, List.map_cons, file_outcome]
  rfl

theorem follow_eq_map (f : Frontier) :
    w.follow p known f = (w.visited p known f).map (w.outcome p.root) := by
  induction f using follow_induction w p known with
  | nil unreached => rw [visited_nil, follow, List.map_nil]
  | cons file queue unreached ih =>
    rw [visited_cons, follow, List.map_cons]
    exact congrArg _ ih

theorem mem_visited_of_mem_queue {f : Frontier} {q : Path} (h : q ∈ f.queue) :
    q ∈ w.visited p known f := by
  induction f using follow_induction w p known with
  | nil unreached => exact absurd h List.not_mem_nil
  | cons file queue unreached ih =>
    rw [visited_cons]
    rcases List.mem_cons.1 h with rfl | h
    · exact List.mem_cons_self
    · exact List.mem_cons_of_mem _ (ih (Frontier.mem_queue_reachAll.2 (.inl h)))

theorem mem_of_mem_visited {f : Frontier} {q : Path} (h : q ∈ w.visited p known f) :
    q ∈ f.queue ∨ q ∈ f.unreached := by
  induction f using follow_induction w p known with
  | nil unreached =>
    rw [visited_nil] at h
    exact absurd h List.not_mem_nil
  | cons file queue unreached ih =>
    rw [visited_cons] at h
    rcases List.mem_cons.1 h with rfl | h
    · exact .inl List.mem_cons_self
    · rcases ih h with hqueue | hunreached
      · rcases Frontier.mem_queue_reachAll.1 hqueue with hold | ⟨-, hnew⟩
        · exact .inl (List.mem_cons_of_mem _ hold)
        · exact .inr hnew
      · exact .inr (Frontier.mem_unreached_reachAll.1 hunreached).1

/-- No file is followed twice. A file that is followed leaves the queue, and a path that was reached
is not reached again. -/
theorem nodup_visited {f : Frontier} (h : f.Separate) : (w.visited p known f).Nodup := by
  induction f using follow_induction w p known with
  | nil unreached =>
    rw [visited_nil]
    exact List.nodup_nil
  | cons file queue unreached ih =>
    have hrest : Frontier.Separate ⟨queue, unreached⟩ :=
      ⟨(List.nodup_cons.1 h.nodup).2, fun q hq => h.reached q (List.mem_cons_of_mem _ hq)⟩
    have hfile : file ∉ unreached := h.reached file List.mem_cons_self
    rw [visited_cons, List.nodup_cons]
    refine ⟨fun hagain => ?_, ih (hrest.reachAll _)⟩
    rcases mem_of_mem_visited hagain with hqueue | hunreached
    · rcases Frontier.mem_queue_reachAll.1 hqueue with hold | ⟨-, hnew⟩
      · exact (List.nodup_cons.1 h.nodup).1 hold
      · exact hfile hnew
    · exact hfile (Frontier.mem_unreached_reachAll.1 hunreached).1

/-- Whatever a followed file leads to is followed, unless it was reached before. Either the first
file leads to `r`, which queues it, or `r` stays unreached for the others. -/
theorem visited_closed {f : Frontier} {q r : Path} (hq : q ∈ w.visited p known f)
    (hr : r ∈ w.next p known q) (hunreached : r ∈ f.unreached) : r ∈ w.visited p known f := by
  induction f using follow_induction w p known with
  | nil unreached =>
    rw [visited_nil] at hq
    exact absurd hq List.not_mem_nil
  | cons file queue unreached ih =>
    rw [visited_cons] at hq ⊢
    refine List.mem_cons_of_mem _ ?_
    by_cases hfile : r ∈ w.next p known file
    · exact mem_visited_of_mem_queue (Frontier.mem_queue_reachAll.2 (.inr ⟨hfile, hunreached⟩))
    · rcases List.mem_cons.1 hq with rfl | hq
      · exact absurd hr hfile
      · exact ih hq (Frontier.mem_unreached_reachAll.2 ⟨hunreached, hfile⟩)

/-- Followed files are in every set that holds the queue and what its members lead to. -/
theorem visited_least {f : Frontier} {P : Path → Prop} (hqueue : ∀ q ∈ f.queue, P q)
    (hnext : ∀ q, P q → ∀ r ∈ w.next p known q, P r) : ∀ q ∈ w.visited p known f, P q := by
  induction f using follow_induction w p known with
  | nil unreached =>
    rw [visited_nil]
    exact fun q hq => absurd hq List.not_mem_nil
  | cons file queue unreached ih =>
    rw [visited_cons]
    have hfile : P file := hqueue file List.mem_cons_self
    refine List.forall_mem_cons.2 ⟨hfile, ih fun q hq => ?_⟩
    rcases Frontier.mem_queue_reachAll.1 hq with hold | ⟨hnew, -⟩
    · exact hqueue q (List.mem_cons_of_mem _ hold)
    · exact hnext file hfile q hnew

/-! ## The sources of a project and what they lead to -/

/-- The sources of the project that have a document, in order. -/
def documentedFiles (w : Workspace) (p : Project) : List Path :=
  ((w.internalOutcomes p).filterMap (·.toOption)).map (·.filePath)

/-- The frontier after the sources of the project. -/
def firstFrontier (w : Workspace) (p : Project) : Frontier :=
  Frontier.reachAll ⟨[], w.allPaths⟩
    ((w.internalOutcomes p).flatMap (w.followed p (w.documentedFiles p)))

/-- The third-party sources that are followed, in order. -/
def thirdParty (w : Workspace) (p : Project) : List Path :=
  w.visited p (w.documentedFiles p) (w.firstFrontier p)

theorem outcomes_eq_map :
    w.outcomes p = (p.internalFiles w.tree w.cwd ++ w.thirdParty p).map (w.outcome p.root) := by
  rw [List.map_append, thirdParty, ← follow_eq_map]
  rfl

theorem mem_documentedFiles {file : Path} : file ∈ w.documentedFiles p ↔ w.Documented p file := by
  simp only [documentedFiles, internalOutcomes, List.mem_map, List.mem_filterMap,
    exists_exists_and_eq_and, Documented]
  constructor
  · rintro ⟨d, ⟨source, hsource, hd⟩, rfl⟩
    have hparse : w.parse p.root source = .ok d := by
      rw [← outcome_eq_ok_iff]
      cases houtcome : w.outcome p.root source with
      | error f => simp [houtcome, Except.toOption] at hd
      | ok d' => simpa [houtcome, Except.toOption] using hd
    obtain ⟨-, -, hfile, -⟩ := parse_eq_ok hparse
    rw [hfile]
    exact ⟨hsource, d, hparse⟩
  · rintro ⟨hfile, d, hparse⟩
    obtain ⟨-, -, hpath, -⟩ := parse_eq_ok hparse
    refine ⟨d, ⟨file, hfile, ?_⟩, hpath⟩
    rw [outcome_eq_ok_iff.2 hparse]
    rfl

theorem separate_firstFrontier : (w.firstFrontier p).Separate :=
  Frontier.Separate.reachAll ⟨List.nodup_nil, fun _ hq => absurd hq List.not_mem_nil⟩ _

theorem mem_seeds {q : Path} :
    q ∈ (w.internalOutcomes p).flatMap (w.followed p known) ↔
      ∃ source ∈ p.internalFiles w.tree w.cwd, q ∈ w.next p known source := by
  simp [internalOutcomes, next, List.flatMap_map]

theorem mem_allPaths_of_mem_thirdParty {q : Path} (h : q ∈ w.thirdParty p) : q ∈ w.allPaths := by
  rcases mem_of_mem_visited h with hqueue | hunreached
  · rcases Frontier.mem_queue_reachAll.1 hqueue with hold | ⟨-, hnew⟩
    · exact absurd hold List.not_mem_nil
    · exact hnew
  · exact (Frontier.mem_unreached_reachAll.1 hunreached).1

theorem nodup_thirdParty : (w.thirdParty p).Nodup :=
  nodup_visited separate_firstFrontier

/-- Only what the project takes as third-party is followed. -/
theorem isExternal_of_mem_thirdParty {q : Path} (h : q ∈ w.thirdParty p) :
    p.isExternal q = true := by
  have hnext : ∀ source, ∀ r ∈ w.next p (w.documentedFiles p) source, p.isExternal r = true := by
    intro source r hr
    obtain ⟨-, -, -, -, -, hexternal⟩ := mem_followed.1 hr
    exact hexternal
  refine visited_least (fun r hr => ?_) (fun source _ => hnext source) q h
  rcases Frontier.mem_queue_reachAll.1 hr with hold | ⟨hseed, -⟩
  · exact absurd hold List.not_mem_nil
  · obtain ⟨source, -, hr⟩ := mem_seeds.1 hseed
    exact hnext source r hr

section Standard

variable (habs : p.root.isAbsolute = true) (hdirs : p.externalDirs = [Path.externalName])

include habs hdirs

/-- One step leads to the third-party sources among the imports that are not written with the path
of a documented source. A third-party path is not that of a documented source, so the second look-up
says nothing new. -/
theorem mem_next_iff {q r : Path} :
    r ∈ w.next p (w.documentedFiles p) q ↔
      ∃ written, w.Imports p q written ∧ ¬ w.Documented p written ∧
        Path.resolve w.cwd written = r ∧ p.isExternal r = true := by
  simp only [next, mem_followed, mem_documentedFiles, mem_imported_outcome]
  refine exists_congr fun written => and_congr_right fun _ => and_congr_right fun _ =>
    and_congr_right fun _ => ⟨And.right, fun hexternal => ⟨fun hdocumented => ?_, hexternal⟩⟩
  rw [Project.isExternal_of_mem_internalFiles habs hdirs hdocumented.1] at hexternal
  exact absurd hexternal (by simp)

theorem next_subset_allPaths {q r : Path} (h : r ∈ w.next p (w.documentedFiles p) q) :
    r ∈ w.allPaths := by
  obtain ⟨written, himports, -, rfl, -⟩ := (mem_next_iff habs hdirs).1 h
  obtain ⟨-, -, -, -, -, -, hexists⟩ := himports
  exact resolve_mem_allPaths hexists

/-- A path that the sources of the project or the followed files lead to is followed. What the
sources of the project lead to is queued at the start. -/
theorem mem_thirdParty_of_next {q r : Path}
    (hq : q ∈ p.internalFiles w.tree w.cwd ∨ q ∈ w.thirdParty p)
    (hr : r ∈ w.next p (w.documentedFiles p) q) : r ∈ w.thirdParty p := by
  have hpaths : r ∈ w.allPaths := next_subset_allPaths habs hdirs hr
  by_cases hseed : r ∈ (w.internalOutcomes p).flatMap (w.followed p (w.documentedFiles p))
  · exact mem_visited_of_mem_queue (Frontier.mem_queue_reachAll.2 (.inr ⟨hseed, hpaths⟩))
  · rcases hq with hq | hq
    · exact absurd (mem_seeds.2 ⟨q, hq, hr⟩) hseed
    · exact visited_closed hq hr (Frontier.mem_unreached_reachAll.2 ⟨hpaths, hseed⟩)

/-- The third-party sources that are followed are the closure of imports. -/
theorem mem_thirdParty_iff {q : Path} :
    q ∈ w.thirdParty p ↔ w.Reached p (w.Documented p) q := by
  constructor
  · refine visited_least (fun q hq => ?_) (fun q hq r hr => ?_) q
    · rcases Frontier.mem_queue_reachAll.1 hq with hold | ⟨hseed, -⟩
      · exact absurd hold List.not_mem_nil
      · obtain ⟨source, hsource, hnext⟩ := mem_seeds.1 hseed
        obtain ⟨written, himports, hskip, rfl, hexternal⟩ := (mem_next_iff habs hdirs).1 hnext
        exact .fromProject hsource himports hskip hexternal
    · obtain ⟨written, himports, hskip, rfl, hexternal⟩ := (mem_next_iff habs hdirs).1 hr
      exact .fromReached hq himports hskip hexternal
  · intro h
    induction h with
    | @fromProject source written hsource himports hskip hexternal =>
      exact mem_thirdParty_of_next habs hdirs (.inl hsource)
        ((mem_next_iff habs hdirs).2 ⟨written, himports, hskip, rfl, hexternal⟩)
    | @fromReached source written hsource himports hskip hexternal ih =>
      exact mem_thirdParty_of_next habs hdirs (.inr ih)
        ((mem_next_iff habs hdirs).2 ⟨written, himports, hskip, rfl, hexternal⟩)

/-- No source of the project is among the third-party sources. Whatever is reached is third-party,
in either way of reaching it. -/
theorem nodup_files (htree : w.tree.WellFormed) :
    (p.internalFiles w.tree w.cwd ++ w.thirdParty p).Nodup := by
  refine List.nodup_append.2
    ⟨Project.nodup_internalFiles htree p w.cwd, nodup_thirdParty, fun q hq r hr heq => ?_⟩
  subst heq
  have hexternal : p.isExternal q = true := by
    cases (mem_thirdParty_iff habs hdirs).1 hr <;> assumption
  rw [Project.isExternal_of_mem_internalFiles habs hdirs hq] at hexternal
  exact absurd hexternal (by simp)

/-- Where the root starts with one slash, its sources are known by their resolved paths, so that
imports written with such a path are not third-party anyway. -/
theorem reached_documented_iff (htree : w.tree.WellFormed) (hroot : p.root.root = .slash)
    (hdots : ".." ∉ p.root.names) {q : Path} :
    w.Reached p (w.Documented p) q ↔ w.Reached p (fun _ => False) q := by
  have hskip : ∀ written, p.isExternal (Path.resolve w.cwd written) = true →
      ¬ w.Documented p written := by
    intro written hexternal hdocumented
    obtain ⟨place, names, hplace, -, -, -, hwritten⟩ :=
      Project.exists_of_mem_internalFiles hdocumented.1
    have hnames : ".." ∉ p.root.names ++ names := by
      rw [List.mem_append, not_or]
      exact ⟨hdots, fun hmem => (htree.plain _ hplace).not_mem (List.mem_append_right _ hmem)⟩
    rw [Path.resolve_of_not_mem (by rw [hwritten, hroot]) (by rw [hwritten]; exact hnames),
      Project.isExternal_of_mem_internalFiles habs hdirs hdocumented.1] at hexternal
    exact absurd hexternal (by simp)
  constructor
  · intro h
    induction h with
    | fromProject hsource himports _ hexternal =>
      exact .fromProject hsource himports (fun hfalse => hfalse) hexternal
    | fromReached _ himports _ hexternal ih =>
      exact .fromReached ih himports (fun hfalse => hfalse) hexternal
  · intro h
    induction h with
    | fromProject hsource himports _ hexternal =>
      exact .fromProject hsource himports (hskip _ hexternal) hexternal
    | fromReached _ himports _ hexternal ih =>
      exact .fromReached ih himports (hskip _ hexternal) hexternal

end Standard

/-! ## Documents and reports -/

/-- Every outcome is a document or a report, and not both. -/
theorem files_perm (os : List Outcome) :
    ((os.filterMap (·.toOption)).map (·.filePath) ++
      (os.filterMap failureOf?).map (·.filePath)).Perm (os.map Outcome.file) := by
  induction os with
  | nil => exact .nil
  | cons o os ih =>
    cases o with
    | ok d => exact ih.cons d.filePath
    | error f => exact List.perm_middle.trans (ih.cons f.filePath)

theorem collect_files_perm :
    ((w.collect p).1.map (·.filePath) ++ (w.collect p).2.map (·.filePath)).Perm
      (p.internalFiles w.tree w.cwd ++ w.thirdParty p) := by
  have hfiles : (w.outcomes p).map Outcome.file =
      p.internalFiles w.tree w.cwd ++ w.thirdParty p := by
    rw [outcomes_eq_map, List.map_map]
    exact List.map_id'' (fun file => file_outcome p.root file) _
  exact hfiles ▸ files_perm (w.outcomes p)

theorem mem_documents {d : DocumentInfo} :
    d ∈ (w.collect p).1 ↔
      d.filePath ∈ p.internalFiles w.tree w.cwd ++ w.thirdParty p ∧
        w.parse p.root d.filePath = .ok d := by
  have hok : d ∈ (w.collect p).1 ↔ .ok d ∈ w.outcomes p := by
    rw [collect, List.mem_filterMap]
    constructor
    · rintro ⟨o, ho, hd⟩
      cases o with
      | ok d' => exact Option.some.inj hd ▸ ho
      | error f => exact absurd hd (by simp [Except.toOption])
    · exact fun ho => ⟨.ok d, ho, rfl⟩
  rw [hok, outcomes_eq_map, List.mem_map]
  constructor
  · rintro ⟨file, hfile, houtcome⟩
    have hparse := outcome_eq_ok_iff.1 houtcome
    obtain ⟨-, -, hpath, -⟩ := parse_eq_ok hparse
    rw [hpath]
    exact ⟨hfile, hparse⟩
  · rintro ⟨hfile, hparse⟩
    exact ⟨d.filePath, hfile, outcome_eq_ok_iff.2 hparse⟩

theorem exists_document {file : Path}
    (hfile : file ∈ p.internalFiles w.tree w.cwd ++ w.thirdParty p)
    (hparse : ∃ d, w.parse p.root file = .ok d) : ∃ d ∈ (w.collect p).1, d.filePath = file := by
  obtain ⟨d, hd⟩ := hparse
  obtain ⟨-, -, hpath, -⟩ := parse_eq_ok hd
  exact ⟨d, mem_documents.2 (by rw [hpath]; exact ⟨hfile, hd⟩), hpath⟩

/-- A third-party source that a source of the project imports has a document, if it can be
documented. -/
theorem exists_imported_document (hdirs : p.externalDirs = [Path.externalName])
    (htree : w.tree.WellFormed) (hroot : p.root.root = .slash) (hdots : ".." ∉ p.root.names)
    {source written : Path} (hsource : source ∈ p.internalFiles w.tree w.cwd)
    (himports : w.Imports p source written)
    (hexternal : p.isExternal (Path.resolve w.cwd written) = true)
    (hparse : ∃ d, w.parse p.root (Path.resolve w.cwd written) = .ok d) :
    ∃ d ∈ (w.collect p).1, d.filePath = Path.resolve w.cwd written := by
  have habs : p.root.isAbsolute = true := by simp [Path.isAbsolute, hroot]
  refine exists_document (List.mem_append_right _ ?_) hparse
  rw [mem_thirdParty_iff habs hdirs, reached_documented_iff habs hdirs htree hroot hdots]
  exact .fromProject hsource himports (fun hfalse => hfalse) hexternal

theorem mem_failures {f : ParseFailure} :
    f ∈ (w.collect p).2 ↔
      f.filePath ∈ p.internalFiles w.tree w.cwd ++ w.thirdParty p ∧
        ∃ e, w.parse p.root f.filePath = .error e ∧ f = w.report p.root f.filePath e := by
  have herror : f ∈ (w.collect p).2 ↔ .error f ∈ w.outcomes p := by
    rw [collect, List.mem_filterMap]
    constructor
    · rintro ⟨o, ho, hf⟩
      cases o with
      | ok d => exact absurd hf (by simp [failureOf?])
      | error f' => exact Option.some.inj hf ▸ ho
    · exact fun ho => ⟨.error f, ho, rfl⟩
  rw [herror, outcomes_eq_map, List.mem_map]
  constructor
  · rintro ⟨file, hfile, houtcome⟩
    have hpath : f.filePath = file := by
      rw [← file_outcome (w := w) p.root file, houtcome]
      rfl
    rw [hpath]
    exact ⟨hfile, outcome_eq_error_iff.1 houtcome⟩
  · rintro ⟨hfile, hreport⟩
    exact ⟨f.filePath, hfile, outcome_eq_error_iff.2 hreport⟩

end Workspace

end WorkflowDocs
