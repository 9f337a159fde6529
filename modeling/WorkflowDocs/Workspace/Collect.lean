import WorkflowDocs.Workspace.Parse

/-!
# Documenting a project

All sources of a project are documented, and then the third-party sources that they import, those
that these import, and so on. Each imported file is followed once.

## Main definitions

* `Frontier`: the third-party sources that are to be documented, and the paths not reached yet
* `Workspace.outcomes`: what documenting each source gives
* `Workspace.collect`: the documents and the reports of a project
-/

namespace WorkflowDocs

/-- The state of following imports: the files that wait to be documented, and the paths of the
tree that were not reached so far. -/
structure Frontier where
  queue : List Path
  unreached : List Path
  deriving DecidableEq, Repr, Inhabited

namespace Frontier

/-- The number of files that wait or may still be reached. -/
def size (f : Frontier) : Nat :=
  f.queue.length + f.unreached.length

/-- The frontier after reaching a file: it is queued when it is reached first. -/
def reach (f : Frontier) (file : Path) : Frontier :=
  if f.unreached.contains file then
    ⟨f.queue ++ [file], f.unreached.filter (· != file)⟩
  else f

/-- The frontier after reaching several files. -/
def reachAll (f : Frontier) (files : List Path) : Frontier :=
  files.foldl reach f

theorem size_reach_le (f : Frontier) (file : Path) : (f.reach file).size ≤ f.size := by
  unfold reach
  split
  · rename_i h
    have hlt : (f.unreached.filter (· != file)).length < f.unreached.length :=
      List.length_filter_lt_length_iff_exists.2
        ⟨file, List.contains_iff_mem.1 h, by simp⟩
    simp only [size, List.length_append, List.length_singleton]
    omega
  · exact Nat.le_refl _

theorem size_reachAll_le (files : List Path) (f : Frontier) :
    (f.reachAll files).size ≤ f.size := by
  induction files generalizing f with
  | nil => exact Nat.le_refl _
  | cons file files ih => exact Nat.le_trans (ih (f.reach file)) (size_reach_le f file)

end Frontier

/-- What documenting a file gives: a document or a report. -/
abbrev Outcome := Except ParseFailure DocumentInfo

/-- The imported files of an outcome. -/
def Outcome.imported : Outcome → List Path
  | .ok d => d.imports.filterMap (·.resolved)
  | .error _ => []

namespace Workspace

/-- The outcome of documenting a file. -/
def outcome (w : Workspace) (root file : Path) : Outcome :=
  (w.parse root file).mapError (w.report root file)

/-- The third-party sources among the imports of an outcome, apart from the `known` files. -/
def followed (w : Workspace) (p : Project) (known : List Path) (o : Outcome) : List Path :=
  (o.imported.filter fun file => !known.contains file).filterMap fun file =>
    let target := Path.resolve w.cwd file
    if !known.contains target && p.isExternal target then some target else none

/-- The outcomes for the files that wait in a frontier and for all that these lead to. -/
def follow (w : Workspace) (p : Project) (known : List Path) : Frontier → List Outcome
  | ⟨[], _⟩ => []
  | ⟨file :: queue, unreached⟩ =>
    let o := w.outcome p.root file
    o :: w.follow p known (Frontier.reachAll ⟨queue, unreached⟩ (w.followed p known o))
termination_by f => f.size
decreasing_by
  have := Frontier.size_reachAll_le (w.followed p known (w.outcome p.root file))
    ⟨queue, unreached⟩
  simp only [Frontier.size, List.length_cons] at this ⊢
  omega

/-- All paths of the tree. -/
def allPaths (w : Workspace) : List Path :=
  ([] :: w.tree.entries.map (·.1)).map fun place => ⟨.slash, place⟩

/-- The outcomes for the sources of a project. -/
def internalOutcomes (w : Workspace) (p : Project) : List Outcome :=
  (p.internalFiles w.tree w.cwd).map (w.outcome p.root)

/-- The outcomes for the sources of a project and then for the third-party sources they lead to. -/
def outcomes (w : Workspace) (p : Project) : List Outcome :=
  let inner := w.internalOutcomes p
  let known := (inner.filterMap (·.toOption)).map (·.filePath)
  inner ++ w.follow p known
    (Frontier.reachAll ⟨[], w.allPaths⟩ (inner.flatMap (w.followed p known)))

/-- The report of an outcome. -/
def failureOf? : Outcome → Option ParseFailure
  | .ok _ => none
  | .error f => some f

/-- The documents and the reports of a project. -/
def collect (w : Workspace) (p : Project) : List DocumentInfo × List ParseFailure :=
  ((w.outcomes p).filterMap (·.toOption), (w.outcomes p).filterMap failureOf?)

end Workspace

end WorkflowDocs
