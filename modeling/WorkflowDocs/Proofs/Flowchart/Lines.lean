import Mathlib.Data.List.Nodup
import WorkflowDocs.Flowchart.Mermaid
import WorkflowDocs.Proofs.Decimal.Characters

/-!
# The edge lines of a chart

The text of a chart is a front part with the nodes and boxes, the edge lines, and the styles. An
edge line can be read back: it determines the identifiers at both of its ends, and the identifier
of a node determines its number.

## Main definitions

* `Chart.frontLines`, `Chart.edgeLines`: the parts of the text

## Main results

* `Chart.lines_eq`: the text consists of these parts
* `nodeId_injective`, `edgeLine_inj`: reading an edge line back
* `Chart.edgeLines_perm`, `Chart.nodup_edgeLines`: the edge lines are those of the edges, up to
  their order, and none stands twice
-/

namespace WorkflowDocs

theorem Decimal.natText_injective : Function.Injective Decimal.natText := by
  intro m n h
  have hdigits : Nat.toDigits 10 m = Nat.toDigits 10 n := String.ofList_injective h
  rw [← Nat.ofDigitChars_toDigits (n := m) (by decide) (Nat.le_refl 10), hdigits,
    Nat.ofDigitChars_toDigits (by decide) (Nat.le_refl 10)]

namespace Flowchart

/-! ## Identifiers -/

theorem nodeId_injective : Function.Injective nodeId := by
  intro m n h
  exact Decimal.natText_injective (String.append_right_inj _ |>.1 h)

theorem not_mem_nodeId {c : Char} (hN : c ≠ 'N') (hdigit : c.isDigit = false) (k : Nat) :
    c ∉ (nodeId k).toList := by
  rw [nodeId, String.toList_append, List.mem_append, not_or]
  exact ⟨by simpa using hN, Decimal.not_mem_natText hdigit k⟩

theorem nodeId_ne_of_not_mem {s : String} (h : 'N' ∉ s.toList) (k : Nat) : nodeId k ≠ s := by
  rintro rfl
  exact h (by simp [nodeId])

theorem not_mem_start : ' ' ∉ "Start".toList := by decide

theorem blank_not_mem_nodeId (k : Nat) : ' ' ∉ (nodeId k).toList :=
  not_mem_nodeId (by decide) (by decide) k

theorem Terminal.blank_not_mem_id (t : Terminal) : ' ' ∉ t.id.toList := by
  cases t with
  | start => exact not_mem_start
  | node k => exact blank_not_mem_nodeId k

theorem Terminal.id_injective : Function.Injective Terminal.id := by
  intro t t' h
  rcases t with _ | k <;> rcases t' with _ | k'
  · rfl
  · exact absurd h.symm (nodeId_ne_of_not_mem (by decide) k')
  · exact absurd h (nodeId_ne_of_not_mem (by decide) k)
  · exact congrArg Terminal.node (nodeId_injective h)

/-- An edge line determines its ends, if the identifier of its source has no blank in it. The first
blank of the line stands right behind the source. -/
theorem edgeLine_inj {a a' b b' : String} (ha : ' ' ∉ a.toList) (ha' : ' ' ∉ a'.toList) :
    edgeLine a b = edgeLine a' b' ↔ a = a' ∧ b = b' := by
  refine ⟨fun h => ?_, fun h => by rw [h.1, h.2]⟩
  have hlist := congrArg String.toList h
  simp only [edgeLine, String.toList_append, List.append_assoc] at hlist
  have hrest : a.toList ++ ' ' :: ("--> ".toList ++ b.toList) =
      a'.toList ++ ' ' :: ("--> ".toList ++ b'.toList) := List.append_cancel_left hlist
  have hsource : a.toList = a'.toList := by
    have hcut := congrArg (List.takeWhile (· != ' ')) hrest
    rwa [List.takeWhile_append_of_pos fun c hc => by
        simpa using ne_of_mem_of_not_mem hc ha,
      List.takeWhile_append_of_pos fun c hc => by
        simpa using ne_of_mem_of_not_mem hc ha', List.takeWhile_cons_of_neg (by simp),
      List.takeWhile_cons_of_neg (by simp), List.append_nil, List.append_nil] at hcut
  rw [hsource] at hrest
  have htarget := (List.cons.inj (List.append_cancel_left hrest)).2
  exact ⟨String.toList_injective hsource,
    String.toList_injective (List.append_cancel_left htarget)⟩

/-- An edge line between identifiers without blanks is read in one way only. Both lines have the
blanks around the arrow, so there is none left for the ends. -/
theorem eq_of_edgeLine_eq {a a' b b' : String} (ha' : ' ' ∉ a'.toList) (hb' : ' ' ∉ b'.toList)
    (h : edgeLine a b = edgeLine a' b') : a = a' ∧ b = b' := by
  have hcount := congrArg (fun line => line.toList.count ' ') h
  simp only [edgeLine, String.toList_append, List.count_append, List.count_eq_zero.2 ha',
    List.count_eq_zero.2 hb'] at hcount
  have ha : a.toList.count ' ' = 0 := by omega
  exact (edgeLine_inj (List.count_eq_zero.1 ha) ha').1 h

/-! ## The order of edge lines -/

theorem edgeRuns_flatten (edges : List (Nat × Nat)) : (edgeRuns edges).flatten = edges := by
  induction edges with
  | nil => rfl
  | cons e es ih =>
    rw [edgeRuns]
    split
    · rename_i f fs runs hruns
      rw [hruns] at ih
      split
      · simp [← ih]
      · simp [← ih]
    · simp [ih]

theorem sortLines_perm (ls : List String) : (sortLines ls).Perm ls :=
  List.mergeSort_perm ls _

theorem edgeLines_perm (edges : List (Nat × Nat)) :
    (edgeLines edges).Perm (edges.map fun e => edgeLine (nodeId e.1) (nodeId e.2)) := by
  conv => rhs; rw [← edgeRuns_flatten edges]
  unfold edgeLines
  induction edgeRuns edges with
  | nil => exact .refl _
  | cons run runs ih =>
    rw [List.flatMap_cons, List.flatten_cons, List.map_append]
    exact (sortLines_perm _).append ih

/-! ## The parts of a chart -/

namespace Chart

/-- The lines before the edges: the start, the nodes and the boxes. -/
def frontLines (c : Chart) : List String :=
  ["flowchart TD", indentStep ++ "Start([" ++ c.name ++ "])"] ++
    Figure.linesOf indentStep c.figures

/-- The lines of the edges: between nodes, from the start, and into the end. -/
def edgeLines (c : Chart) : List String :=
  Flowchart.edgeLines c.edges ++ c.starts.map (fun k => edgeLine "Start" (nodeId k)) ++
    sortLines (c.ends.map fun t => edgeLine t.id "End([End])")

theorem lines_eq (c : Chart) : c.lines = c.frontLines ++ c.edgeLines ++ styleLines := by
  simp only [lines, frontLines, edgeLines, List.append_assoc]

theorem edgeLines_perm (c : Chart) :
    c.edgeLines.Perm (c.edges.map (fun e => edgeLine (nodeId e.1) (nodeId e.2)) ++
      c.starts.map (fun k => edgeLine "Start" (nodeId k)) ++
      c.ends.map fun t => edgeLine t.id "End([End])") :=
  ((Flowchart.edgeLines_perm c.edges).append_right _).append (sortLines_perm _)

/-- No edge line stands twice, if no edge does. An edge from the start is not one from a node, and
an edge into the end is not one into a node. -/
theorem nodup_edgeLines {c : Chart} (hedges : c.edges.Nodup) (hstarts : c.starts.Nodup)
    (hends : c.ends.Nodup) : c.edgeLines.Nodup := by
  rw [c.edgeLines_perm.nodup_iff]
  have hend : ∀ k, nodeId k ≠ "End([End])" := nodeId_ne_of_not_mem (by decide)
  refine List.nodup_append.2 ⟨List.nodup_append.2 ⟨hedges.map ?_, hstarts.map ?_, ?_⟩,
    hends.map ?_, ?_⟩
  · rintro ⟨a, b⟩ ⟨a', b'⟩ hline
    have hids := (edgeLine_inj (blank_not_mem_nodeId a) (blank_not_mem_nodeId a')).1 hline
    exact Prod.ext (nodeId_injective hids.1) (nodeId_injective hids.2)
  · intro k k' hline
    exact nodeId_injective ((edgeLine_inj not_mem_start not_mem_start).1 hline).2
  · intro line hedge other hstart heq
    obtain ⟨⟨a, b⟩, _, rfl⟩ := List.mem_map.1 hedge
    obtain ⟨k, _, rfl⟩ := List.mem_map.1 hstart
    have hids := (edgeLine_inj (blank_not_mem_nodeId a) not_mem_start).1 heq
    exact nodeId_ne_of_not_mem (by decide) a hids.1
  · intro t t' hline
    have hids := (edgeLine_inj t.blank_not_mem_id t'.blank_not_mem_id).1 hline
    exact Terminal.id_injective hids.1
  · intro line hfront other hlast heq
    obtain ⟨t, _, rfl⟩ := List.mem_map.1 hlast
    rcases List.mem_append.1 hfront with hedge | hstart
    · obtain ⟨⟨a, b⟩, _, rfl⟩ := List.mem_map.1 hedge
      exact hend b ((edgeLine_inj (blank_not_mem_nodeId a) t.blank_not_mem_id).1 heq).2
    · obtain ⟨k, _, rfl⟩ := List.mem_map.1 hstart
      exact hend k ((edgeLine_inj not_mem_start t.blank_not_mem_id).1 heq).2

end Chart

end Flowchart

end WorkflowDocs
