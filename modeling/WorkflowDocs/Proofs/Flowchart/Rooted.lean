import Mathlib.Data.Prod.Lex
import WorkflowDocs.Proofs.Flowchart.Graph

/-!
# Charts are rooted and have no cycle

A call gets edges from those of its dependencies that have a number when it is drawn, so every edge
between nodes goes up in number, in whatever order the body stands. A call that gets no edge in this
way follows the start; going back along edges from any node therefore ends at the start.

Nothing is asked of the declarations of the body, nor that its dependencies have no cycle: it is
enough that no call is among its own dependencies.

## Main definitions

* `Vertex`, `Vertex.rank`: the ends of edge lines, from the start to the end
* `Chart.Prints`: the edges as they can be read from the text
* `computedDeps`: the dependencies of a call as they are collected

## Main results

* `Chart.prints_iff`: the edges that can be read from the text
* `Chart.rank_lt_of_prints`: chains of edges where edges between nodes go up in number
* `rooted_acyclic`: the edges have no cycle, and lead from the start to every call
-/

namespace WorkflowDocs.Flowchart

/-! ## Edges as they are printed -/

/-- What an edge line connects: the start, nodes by their numbers, and the end. -/
inductive Vertex where
  | start
  | node (number : Nat)
  | finish
  deriving DecidableEq, Repr

namespace Vertex

/-- How a vertex is written in an edge line. -/
def id : Vertex → String
  | .start => "Start"
  | .node k => nodeId k
  | .finish => "End([End])"

/-- The vertex of a terminal. -/
def ofTerminal : Terminal → Vertex
  | .start => .start
  | .node k => .node k

theorem id_ofTerminal (t : Terminal) : (ofTerminal t).id = t.id := by
  cases t <;> rfl

theorem blank_not_mem_id (v : Vertex) : ' ' ∉ v.id.toList := by
  cases v with
  | start => exact not_mem_start
  | node k => exact blank_not_mem_nodeId k
  | finish => decide

theorem id_injective : Function.Injective id := by
  have hstart : ∀ k, nodeId k ≠ "Start" := nodeId_ne_of_not_mem (by decide)
  have hend : ∀ k, nodeId k ≠ "End([End])" := nodeId_ne_of_not_mem (by decide)
  intro v v' h
  rcases v with _ | k | _ <;> rcases v' with _ | k' | _
  · rfl
  · exact absurd h.symm (hstart k')
  · exact absurd h (by decide)
  · exact absurd h (hstart k)
  · exact congrArg node (nodeId_injective h)
  · exact absurd h (hend k)
  · exact absurd h (by decide)
  · exact absurd h.symm (hend k')
  · rfl

/-- Vertices from the start to the end, with the nodes between them in the order of their
numbers. -/
def rank : Vertex → ℕ ×ₗ ℕ
  | .start => toLex (0, 0)
  | .node k => toLex (1, k)
  | .finish => toLex (2, 0)

theorem rank_node_lt_iff {j k : Nat} : rank (.node j) < rank (.node k) ↔ j < k := by
  simp [rank, Prod.Lex.toLex_lt_toLex]

theorem rank_start_lt (k : Nat) : rank .start < rank (.node k) := by
  simp [rank, Prod.Lex.toLex_lt_toLex]

theorem rank_lt_finish (t : Terminal) : rank (ofTerminal t) < rank .finish := by
  cases t <;> simp [rank, ofTerminal, Prod.Lex.toLex_lt_toLex]

end Vertex

namespace Chart

/-- The text of the chart has an edge line from the identifier `a` to the identifier `b`. -/
def Prints (c : Chart) (a b : String) : Prop :=
  edgeLine a b ∈ c.edgeLines

/-- The edges of the chart between vertices. -/
inductive Joins (c : Chart) : Vertex → Vertex → Prop
  | between {j k : Nat} (h : (j, k) ∈ c.edges) : Joins c (.node j) (.node k)
  | first {k : Nat} (h : k ∈ c.starts) : Joins c .start (.node k)
  | last {t : Terminal} (h : t ∈ c.ends) : Joins c (.ofTerminal t) .finish

/-- The edges that can be read from the text are those of the chart. Each line has vertices at its
ends, and these have no blanks in them. -/
theorem prints_iff {c : Chart} {a b : String} :
    c.Prints a b ↔ ∃ v v', c.Joins v v' ∧ a = v.id ∧ b = v'.id := by
  unfold Prints
  rw [c.edgeLines_perm.mem_iff, List.mem_append, List.mem_append, List.mem_map, List.mem_map,
    List.mem_map]
  have hread : ∀ v v' : Vertex, edgeLine v.id v'.id = edgeLine a b → a = v.id ∧ b = v'.id :=
    fun v v' hline => eq_of_edgeLine_eq v.blank_not_mem_id v'.blank_not_mem_id hline.symm
  constructor
  · rintro ((⟨⟨j, k⟩, hmem, hline⟩ | ⟨k, hmem, hline⟩) | ⟨t, hmem, hline⟩)
    · exact ⟨.node j, .node k, .between hmem, hread (.node j) (.node k) hline⟩
    · exact ⟨.start, .node k, .first hmem, hread .start (.node k) hline⟩
    · rw [← Vertex.id_ofTerminal] at hline
      exact ⟨.ofTerminal t, .finish, .last hmem, hread _ .finish hline⟩
  · rintro ⟨v, v', hjoins, rfl, rfl⟩
    cases hjoins with
    | between hmem => exact .inl (.inl ⟨_, hmem, rfl⟩)
    | first hmem => exact .inl (.inr ⟨_, hmem, rfl⟩)
    | @last t hmem => exact .inr ⟨t, hmem, by rw [Vertex.id_ofTerminal]; rfl⟩

theorem Joins.prints {c : Chart} {v v' : Vertex} (h : c.Joins v v') : c.Prints v.id v'.id :=
  prints_iff.2 ⟨v, v', h, rfl, rfl⟩

section Ascending

variable {c : Chart} (hup : ∀ j k, (j, k) ∈ c.edges → j < k)

include hup

theorem Joins.rank_lt {v v' : Vertex} (h : c.Joins v v') : v.rank < v'.rank := by
  cases h with
  | between hmem => exact Vertex.rank_node_lt_iff.2 (hup _ _ hmem)
  | first _ => exact Vertex.rank_start_lt _
  | last _ => exact Vertex.rank_lt_finish _

/-- Where edges between nodes go up in number, whatever a chain of edge lines leads to comes
later. -/
theorem rank_lt_of_prints {a b : String} (h : Relation.TransGen c.Prints a b) :
    ∃ v v' : Vertex, a = v.id ∧ b = v'.id ∧ v.rank < v'.rank := by
  induction h with
  | single h =>
    obtain ⟨v, v', hjoins, ha, hb⟩ := prints_iff.1 h
    exact ⟨v, v', ha, hb, hjoins.rank_lt hup⟩
  | tail _ h ih =>
    obtain ⟨v, u, ha, hu, hlt⟩ := ih
    obtain ⟨u', v', hjoins, hu', hb⟩ := prints_iff.1 h
    obtain rfl := Vertex.id_injective (hu.symm.trans hu')
    exact ⟨v, v', ha, hb, hlt.trans (hjoins.rank_lt hup)⟩

theorem not_prints_cycle (a : String) : ¬ Relation.TransGen c.Prints a a := by
  intro h
  obtain ⟨v, v', ha, ha', hlt⟩ := rank_lt_of_prints hup h
  obtain rfl := Vertex.id_injective (ha.symm.trans ha')
  exact lt_irrefl _ hlt

end Ascending

end Chart

/-! ## The chart of a body -/

/-- The dependencies of the call named `c` as they are collected from a body. -/
def computedDeps (body : List Node) (c : String) : List String :=
  ((Scope.collect body).callDeps.get? c).getD []

section Body

variable {body : List Node} (hcalls : (callNames body).Nodup)

include hcalls

/-- Edges between nodes go up in number if no call is among its own dependencies. -/
theorem lt_of_mem_edges_ofBody (hself : ∀ c ∈ callNames body, c ∉ computedDeps body c)
    (name : String) {j k : Nat} (h : (j, k) ∈ (Chart.ofBody name body).edges) : j < k := by
  obtain ⟨d, c, ⟨hdep, hc, hd, hle⟩, rfl, rfl⟩ := ((drawnCalls_body hcalls).plan.edges j k).1 h
  have hne : d ≠ c := by
    rintro rfl
    exact hself d hc hdep
  have hindex : (callNames body).idxOf d ≠ (callNames body).idxOf c := fun heq =>
    hne ((List.idxOf_inj hd).1 heq)
  exact Nat.succ_lt_succ (lt_of_le_of_ne hle hindex)

/-- The printed edges lead from the start to every call. The induction is on the number of the call:
what sends to it has a smaller one. -/
theorem prints_reach_call (hself : ∀ c ∈ callNames body, c ∉ computedDeps body c)
    (name : String) {c : String} (hc : c ∈ callNames body) :
    Relation.TransGen (Chart.ofBody name body).Prints "Start" (nodeId (callIndex body c + 1)) := by
  have hplan := (drawnCalls_body hcalls).plan
  induction hn : callIndex body c using Nat.strong_induction_on generalizing c with
  | _ n ih =>
    subst hn
    by_cases hsent : ∃ d, Sends (Scope.collect body).callDeps (callNames body) d c
    · obtain ⟨d, hsends⟩ := hsent
      have hedge : (callIndex body d + 1, callIndex body c + 1) ∈ (Chart.ofBody name body).edges :=
        (hplan.edges _ _).2 ⟨d, c, hsends, rfl, rfl⟩
      have hlt : callIndex body d < callIndex body c :=
        Nat.lt_of_succ_lt_succ (lt_of_mem_edges_ofBody hcalls hself name hedge)
      exact (ih _ hlt hsends.2.2.1 rfl).tail (Chart.Joins.between hedge).prints
    · have hstart : callIndex body c + 1 ∈ (Chart.ofBody name body).starts :=
        (hplan.starts _).2 ⟨c, hc, rfl, not_exists.1 hsent⟩
      exact .single (Chart.Joins.first hstart).prints

end Body

/-- **The chart of a workflow is a graph without cycles, rooted at the start**: for a body in which
the calls have different names and none is among its own dependencies, each call has one node, every
edge line between nodes goes from a smaller number to a larger one, no chain of edge lines comes
back to where it began, and some chain leads from the start to each call. -/
theorem rooted_acyclic (w : WorkflowSource) (hbody : w.body ≠ [])
    (hcalls : (callNames w.body).Nodup)
    (hself : ∀ c ∈ callNames w.body, c ∉ computedDeps w.body c) :
    let chart := Chart.ofBody w.name w.body
    render w = Text.joinWith "\n" (chart.frontLines ++ chart.edgeLines ++ styleLines) ∧
      Figure.nodesOf chart.figures = (Node.callsOf w.body).map (fun c =>
        (callIndex w.body c.name + 1, nodeLabel c, callsTask c)) ∧
      (∀ j k, chart.Prints (nodeId j) (nodeId k) → j < k) ∧
      (∀ a, ¬ Relation.TransGen chart.Prints a a) ∧
      ∀ c ∈ callNames w.body,
        Relation.TransGen chart.Prints "Start" (nodeId (callIndex w.body c + 1)) := by
  intro chart
  have hup : ∀ j k, (j, k) ∈ chart.edges → j < k := fun j k =>
    lt_of_mem_edges_ofBody hcalls hself w.name
  refine ⟨?_, nodesOf_figures_of_nodup hcalls w.name, fun j k h => ?_,
    Chart.not_prints_cycle hup, fun c => prints_reach_call hcalls hself w.name⟩
  · rw [render, if_neg (mt List.isEmpty_iff.1 hbody), Chart.lines_eq]
  · obtain ⟨v, v', hv, hv', hlt⟩ := Chart.rank_lt_of_prints hup (.single h)
    obtain rfl := @Vertex.id_injective (.node j) v hv
    obtain rfl := @Vertex.id_injective (.node k) v' hv'
    exact Vertex.rank_node_lt_iff.1 hlt

/-- A workflow whose first two calls need each other, where the first stands in a block that needs
the last. -/
def tangledWorkflow : WorkflowSource where
  name := "tangled"
  body :=
    [.scatter "x" (some (.get (.ident "late.out") none))
        [.call ⟨["early"], "early", [("in", some (.get (.ident "mid.out") none))],
          some ⟨.task, "early"⟩⟩],
      .call ⟨["mid"], "mid", [("in", some (.get (.ident "early.out") none))], some ⟨.task, "mid"⟩⟩,
      .conditional (some (.get (.ident "mid.ok") none))
        [.call ⟨["late"], "late", [], some ⟨.task, "late"⟩⟩]]

theorem rooted_acyclic_tangled :
    (tangledWorkflow.body ≠ [] ∧ (callNames tangledWorkflow.body).Nodup ∧
      ∀ c ∈ callNames tangledWorkflow.body, c ∉ computedDeps tangledWorkflow.body c) ∧
    Relation.TransGen (Chart.ofBody tangledWorkflow.name tangledWorkflow.body).Prints "Start"
      (nodeId 3) := by
  have hbody : tangledWorkflow.body ≠ [] := List.cons_ne_nil _ _
  have hcalls : (callNames tangledWorkflow.body).Nodup := by decide
  have hself : ∀ c ∈ callNames tangledWorkflow.body, c ∉ computedDeps tangledWorkflow.body c := by
    decide
  obtain ⟨_, _, _, _, hreach⟩ := rooted_acyclic tangledWorkflow hbody hcalls hself
  exact ⟨⟨hbody, hcalls, hself⟩, hreach "late" (by decide)⟩

end WorkflowDocs.Flowchart
