import WorkflowDocs.Proofs.Flowchart.Drawing
import WorkflowDocs.Proofs.Flowchart.Lines

/-!
# The graph of a workflow

The edges of a chart connect points: the start, the calls, and the end. An edge between two calls
is drawn where the first is found among the dependencies of the second and has a number by then.
In a body whose names are defined before they are used, the chart is exactly the dependency graph.

## Main definitions

* `Point`, `Point.id`: the ends of edges and how they are written
* `Arrow`: the edges of a graph of calls
* `GraphEdge`: the dependency graph of a body
* `Shown`, `ShownEdge`: the edges that are drawn

## Main results

* `mem_edgeLines_ofBody`, `nodup_edgeLines_ofBody`: the edge lines of a chart
* `render_edges_exact`: the chart is the dependency graph
-/

namespace WorkflowDocs.Flowchart

/-! ## Points and edges -/

/-- An end of an edge: the start, a call by its name, or the end. -/
inductive Point where
  | start
  | call (name : String)
  | finish
  deriving DecidableEq, Repr

/-- How a point of a body is written in an edge line. -/
def Point.id (body : List Node) : Point → String
  | .start => "Start"
  | .call name => nodeId (callIndex body name + 1)
  | .finish => "End([End])"

/-- The names of the calls of a body, in order. -/
def callNames (body : List Node) : List String :=
  (Node.callsOf body).map (·.name)

/-- The edges of a graph of calls, where `sends d c` says that the call `d` has an edge to `c`, and
`used d` that some call needs `d`: a call that is sent nothing follows the start, one that is not
used leads to the end, and without calls the start leads to the end. -/
inductive Arrow (calls : List String) (sends : String → String → Prop) (used : String → Prop) :
    Point → Point → Prop
  | between {c d : String} (h : sends d c) : Arrow calls sends used (.call d) (.call c)
  | first {c : String} (hc : c ∈ calls) (h : ∀ d, ¬ sends d c) :
      Arrow calls sends used .start (.call c)
  | last {c : String} (hc : c ∈ calls) (h : ¬ used c) : Arrow calls sends used (.call c) .finish
  | through (h : calls = []) : Arrow calls sends used .start .finish

/-- The dependency graph of a body. -/
def GraphEdge (body : List Node) : Point → Point → Prop :=
  Arrow (callNames body) (fun d c => DependsOn body c d) (fun d => ∃ c, DependsOn body c d)

/-- The call `d` is found among the dependencies of `c` and is numbered by the time that `c` is
drawn. -/
def Shown (body : List Node) (d c : String) : Prop :=
  Finds body c d ∧ callIndex body d ≤ callIndex body c

/-- The edges that are drawn for a body. -/
def ShownEdge (body : List Node) : Point → Point → Prop :=
  Arrow (callNames body) (Shown body) (fun d => ∃ c, Finds body c d)

/-! ## What a chart holds -/

section Chart

variable {body : List Node}

/-- Some call is not found among the dependencies of any call, if there are calls. -/
def HasLast (body : List Node) : Prop :=
  callNames body ≠ [] → ∃ c ∈ callNames body, ∀ b, ¬ Finds body b c

theorem Acyclic.hasLast (h : Acyclic body) : HasLast body := by
  intro hne
  obtain ⟨c, hc, hlast⟩ := h.exists_last (fun hnil => hne (by rw [callNames, hnil]; rfl))
  exact ⟨c, hc, fun b hb => hlast b hb.dependsOn⟩

theorem drawnCalls_body (h : (callNames body).Nodup) :
    DrawnCalls (Scope.collect body).callDeps [] (Node.callsOf body)
      (Plan.draw {} (Scope.collect body).callDeps body) :=
  drawnCalls_draw (nodup_getD_callDeps _) body (.start _) h

theorem sends_iff_shown (h : DistinctNames body) {d c : String} :
    Sends (Scope.collect body).callDeps (callNames body) d c ↔ Shown body d c := by
  unfold Sends Shown
  rw [mem_getD_callDeps h]
  constructor
  · rintro ⟨hfind, _, _, hle⟩
    exact ⟨hfind, hle⟩
  · rintro ⟨hfind, hle⟩
    exact ⟨hfind, hfind.dependsOn.mem_calls_left, hfind.dependsOn.mem_calls_right, hle⟩

theorem mem_edges_ofBody (h : DistinctNames body) (name : String) {a b : Nat} :
    (a, b) ∈ (Chart.ofBody name body).edges ↔
      ∃ d c, Shown body d c ∧ a = callIndex body d + 1 ∧ b = callIndex body c + 1 := by
  refine ((drawnCalls_body h.calls).plan.edges a b).trans ?_
  refine exists_congr fun d => exists_congr fun c => and_congr_left' ?_
  exact sends_iff_shown h

theorem mem_starts_ofBody (h : DistinctNames body) (name : String) {k : Nat} :
    k ∈ (Chart.ofBody name body).starts ↔
      ∃ c ∈ callNames body, k = callIndex body c + 1 ∧ ∀ d, ¬ Shown body d c := by
  refine ((drawnCalls_body h.calls).plan.starts k).trans ?_
  refine exists_congr fun c => and_congr_right' (and_congr_right' (forall_congr' fun d => ?_))
  exact not_congr (sends_iff_shown h)

theorem mem_leaves_callDeps (h : DistinctNames body) {c : String} :
    c ∈ leaves (Scope.collect body).callDeps ↔ c ∈ callNames body ∧ ¬ ∃ b, Finds body b c := by
  rw [mem_leaves (names_callDeps h ▸ h.calls), names_callDeps h, not_exists]
  exact and_congr_right' (forall_congr' fun b => not_congr (mem_getD_callDeps h))

theorem nodup_leaves_callDeps (h : DistinctNames body) :
    (leaves (Scope.collect body).callDeps).Nodup :=
  (names_callDeps h ▸ h.calls).filter _

theorem ends_ofBody_of_calls (h : DistinctNames body) (hlast : HasLast body)
    (hcalls : callNames body ≠ []) (name : String) :
    (Chart.ofBody name body).ends = (leaves (Scope.collect body).callDeps).map fun c =>
      Terminal.node (callIndex body c + 1) := by
  refine (drawnCalls_body h.calls).plan.endTerminals_of_leaf (names_callDeps h) ?_ body
  obtain ⟨c, hc, hnone⟩ := hlast hcalls
  exact List.ne_nil_of_mem ((mem_leaves_callDeps h).2 ⟨hc, fun ⟨b, hb⟩ => hnone b hb⟩)

theorem ends_ofBody_of_no_calls (h : DistinctNames body) (hcalls : callNames body = [])
    (name : String) : (Chart.ofBody name body).ends = [.start] :=
  (drawnCalls_body h.calls).plan.endTerminals_of_no_calls (names_callDeps h) hcalls
    (List.map_eq_nil_iff.1 hcalls)

theorem mem_ends_ofBody (h : DistinctNames body) (hlast : HasLast body) (name : String)
    {t : Terminal} :
    t ∈ (Chart.ofBody name body).ends ↔
      (∃ c ∈ callNames body, (¬ ∃ b, Finds body b c) ∧ t = .node (callIndex body c + 1)) ∨
        (callNames body = [] ∧ t = .start) := by
  by_cases hcalls : callNames body = []
  · rw [ends_ofBody_of_no_calls h hcalls]
    simp [hcalls]
  · rw [ends_ofBody_of_calls h hlast hcalls, List.mem_map]
    simp only [mem_leaves_callDeps h, hcalls, false_and, or_false, and_assoc, eq_comm]

/-- Two calls with one number are the same. -/
theorem callIndex_inj {c d : String} (hc : c ∈ callNames body)
    (h : callIndex body c = callIndex body d) : c = d :=
  (List.idxOf_inj hc).1 h

theorem nodup_ends_ofBody (h : DistinctNames body) (hlast : HasLast body) (name : String) :
    (Chart.ofBody name body).ends.Nodup := by
  by_cases hcalls : callNames body = []
  · rw [ends_ofBody_of_no_calls h hcalls]
    exact List.nodup_singleton _
  · rw [ends_ofBody_of_calls h hlast hcalls]
    refine (nodup_leaves_callDeps h).map_on fun c hc d _ hcd => ?_
    refine callIndex_inj ((mem_leaves_callDeps h).1 hc).1 ?_
    simpa using hcd

end Chart

/-! ## Edge lines -/

theorem Point.blank_not_mem_id (body : List Node) (a : Point) : ' ' ∉ (a.id body).toList := by
  cases a with
  | start => exact not_mem_start
  | call name => exact blank_not_mem_nodeId _
  | finish => simp [Point.id]

section Lines

variable {body : List Node} (h : DistinctNames body) (hlast : HasLast body) (name : String)

include h hlast

/-- The edge lines of a chart are those of the edges that are drawn. -/
theorem mem_edgeLines_ofBody {line : String} :
    line ∈ (Chart.ofBody name body).edgeLines ↔
      ∃ a b, ShownEdge body a b ∧ line = edgeLine (a.id body) (b.id body) := by
  rw [(Chart.edgeLines_perm _).mem_iff, List.mem_append, List.mem_append, List.mem_map,
    List.mem_map, List.mem_map]
  constructor
  · rintro ((⟨⟨a, b⟩, hab, rfl⟩ | ⟨k, hk, rfl⟩) | ⟨t, ht, rfl⟩)
    · obtain ⟨d, c, hshown, rfl, rfl⟩ := (mem_edges_ofBody h name).1 hab
      exact ⟨.call d, .call c, .between hshown, rfl⟩
    · obtain ⟨c, hc, rfl, hnone⟩ := (mem_starts_ofBody h name).1 hk
      exact ⟨.start, .call c, .first hc hnone, rfl⟩
    · rcases (mem_ends_ofBody h hlast name).1 ht with ⟨c, hc, hnone, rfl⟩ | ⟨hnil, rfl⟩
      · exact ⟨.call c, .finish, .last hc hnone, rfl⟩
      · exact ⟨.start, .finish, .through hnil, rfl⟩
  · rintro ⟨a, b, hab, rfl⟩
    cases hab with
    | between hshown =>
      exact .inl (.inl ⟨_, (mem_edges_ofBody h name).2 ⟨_, _, hshown, rfl, rfl⟩, rfl⟩)
    | first hc hnone =>
      exact .inl (.inr ⟨_, (mem_starts_ofBody h name).2 ⟨_, hc, rfl, hnone⟩, rfl⟩)
    | last hc hnone =>
      exact .inr ⟨_, (mem_ends_ofBody h hlast name).2 (.inl ⟨_, hc, hnone, rfl⟩), rfl⟩
    | through hnil =>
      exact .inr ⟨_, (mem_ends_ofBody h hlast name).2 (.inr ⟨hnil, rfl⟩), rfl⟩

/-- No edge line stands twice. -/
theorem nodup_edgeLines_ofBody : (Chart.ofBody name body).edgeLines.Nodup :=
  Chart.nodup_edgeLines (drawnCalls_body h.calls).plan.edges_nodup
    (drawnCalls_body h.calls).plan.starts_nodup (nodup_ends_ofBody h hlast name)

end Lines

/-- The figures of a chart have a node for each call, under the number of the call. Names are
different, so the place of a name is the place of its call. -/
theorem nodesOf_figures_of_nodup {body : List Node} (h : (callNames body).Nodup) (name : String) :
    Figure.nodesOf (Chart.ofBody name body).figures =
      (Node.callsOf body).map fun c => (callIndex body c.name + 1, nodeLabel c, callsTask c) := by
  refine (drawnCalls_body h).nodes.trans ?_
  refine List.ext_getElem (by simp [numberedNodes]) fun i hi hi' => ?_
  have hlt : i < (Node.callsOf body).length := by simpa using hi'
  have hindex : callIndex body (Node.callsOf body)[i].name = i := by
    have hget := h.idxOf_getElem i (by simpa [callNames] using hlt)
    unfold callNames at hget
    rwa [List.getElem_map] at hget
  simp [numberedNodes, hindex, Nat.add_comm]

theorem nodesOf_figures_ofBody {body : List Node} (h : DistinctNames body) (name : String) :
    Figure.nodesOf (Chart.ofBody name body).figures =
      (Node.callsOf body).map fun c => (callIndex body c.name + 1, nodeLabel c, callsTask c) :=
  nodesOf_figures_of_nodup h.calls name

/-! ## The chart is the dependency graph -/

/-- Where names are defined before they are used, the edges that are drawn are those of the
dependency graph. -/
theorem shownEdge_iff_graphEdge {body : List Node} (hnames : DistinctNames body)
    (hdef : DefinedBeforeUse body) {a b : Point} : ShownEdge body a b ↔ GraphEdge body a b := by
  have hshown : Shown body = fun d c => DependsOn body c d := by
    funext d c
    refine propext ⟨fun h => h.1.dependsOn, fun h => ?_⟩
    exact ⟨(finds_iff_dependsOn hnames hdef).2 h, (callIndex_lt_of_dependsOn hnames hdef h).le⟩
  unfold ShownEdge GraphEdge
  simp only [hshown, finds_iff_dependsOn hnames hdef]

/-- **The chart of a workflow is its dependency graph**: for a body with different names that are
defined before they are used, each call has one node, and the edge lines are those of the
dependency graph, each once. -/
theorem render_edges_exact (w : WorkflowSource) (hbody : w.body ≠ [])
    (hnames : DistinctNames w.body) (hdef : DefinedBeforeUse w.body) :
    let chart := Chart.ofBody w.name w.body
    render w = Text.joinWith "\n" (chart.frontLines ++ chart.edgeLines ++ styleLines) ∧
      Figure.nodesOf chart.figures = (Node.callsOf w.body).map (fun c =>
        (callIndex w.body c.name + 1, nodeLabel c, callsTask c)) ∧
      chart.edgeLines.Nodup ∧
      ∀ line, line ∈ chart.edgeLines ↔
        ∃ a b, GraphEdge w.body a b ∧ line = edgeLine (a.id w.body) (b.id w.body) := by
  intro chart
  have hlast : HasLast w.body := (hdef.acyclic hnames).hasLast
  refine ⟨?_, nodesOf_figures_ofBody hnames w.name, nodup_edgeLines_ofBody hnames hlast w.name,
    fun line => ?_⟩
  · rw [render, if_neg (mt List.isEmpty_iff.1 hbody), Chart.lines_eq]
  · rw [mem_edgeLines_ofBody hnames hlast w.name]
    simp only [shownEdge_iff_graphEdge hnames hdef]

/-- A workflow in which a call follows another through a declaration and a block, and a third
follows the second through an input. -/
def gatheredWorkflow : WorkflowSource where
  name := "gathered"
  body :=
    [.call ⟨["split"], "split", [], some ⟨.task, "split"⟩⟩,
      .decl ⟨"parts", .array (.primitive .file false) false false,
        some (.get (.ident "split.out") none)⟩,
      .scatter "part" (some (.get (.ident "parts") none))
        [.call ⟨["sort"], "sort", [("in", some (.get (.ident "part") none))],
          some ⟨.task, "sort"⟩⟩],
      .call ⟨["merge"], "merge", [("ins", some (.get (.ident "sort.out") none))],
        some ⟨.task, "merge"⟩⟩]

/-- The block around `sort` depends on `split`, through the declaration between them. -/
theorem dependsOn_gathered : DependsOn gatheredWorkflow.body "sort" "split" := by
  refine ⟨_, List.mem_cons_of_mem _ List.mem_cons_self, rfl, .get (.ident "parts") none,
    List.mem_append_right _ List.mem_cons_self,
    "parts", by decide, ?_⟩
  refine .decl (d := ⟨"parts", _, _⟩) (x := "split") (List.mem_cons_of_mem _ List.mem_cons_self) rfl
    (by decide) ?_
  exact .call (c := ⟨["split"], "split", [], _⟩) List.mem_cons_self

theorem render_edges_exact_gathered :
    (gatheredWorkflow.body ≠ [] ∧ DistinctNames gatheredWorkflow.body ∧
      DefinedBeforeUse gatheredWorkflow.body) ∧
    edgeLine (nodeId 1) (nodeId 2) ∈
      (Chart.ofBody gatheredWorkflow.name gatheredWorkflow.body).edgeLines := by
  have hbody : gatheredWorkflow.body ≠ [] := List.cons_ne_nil _ _
  have hnames : DistinctNames gatheredWorkflow.body := by decide
  have hdef : DefinedBeforeUse gatheredWorkflow.body := by decide
  obtain ⟨_, _, _, hlines⟩ := render_edges_exact gatheredWorkflow hbody hnames hdef
  exact ⟨⟨hbody, hnames, hdef⟩,
    (hlines _).2 ⟨.call "split", .call "sort", .between dependsOn_gathered, rfl⟩⟩

end WorkflowDocs.Flowchart
