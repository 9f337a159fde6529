import WorkflowDocs.Proofs.Flowchart.Lines
import WorkflowDocs.Proofs.Text.Occurrences

/-!
# Tags in the text of a chart

The labels of a chart stand in its text as they are, and nothing else in it has a sharp bracket that
opens a tag. So a tag is opened in the text as often as in the name of the workflow and the labels
of nodes and boxes together.

## Main definitions

* `Figure.labels`, `Chart.labels`: the labels

## Main results

* `Chart.occurrencesIn_lines`: tags in the lines of a chart
* `occurrences_render`: tags in the text of a workflow
-/

namespace WorkflowDocs.Flowchart

open Text (occurrences occurrencesIn)

/-! ## Labels -/

mutual

/-- The labels of a figure. -/
def Figure.labels : Figure → List String
  | .node _ label _ => [label]
  | .box _ _ label children => label :: Figure.labelsOf children

/-- The labels of a list of figures. -/
def Figure.labelsOf : List Figure → List String
  | [] => []
  | f :: fs => f.labels ++ Figure.labelsOf fs

end

/-- The labels of a chart: the name of the workflow, at the start, and those of the figures. -/
def Chart.labels (c : Chart) : List String :=
  c.name :: Figure.labelsOf c.figures

/-! ## Lines -/

section Lines

variable {tag : List Char} {indent : String}

theorem bracket_not_mem_nodeId (k : Nat) : '<' ∉ (nodeId k).toList :=
  not_mem_nodeId (by decide) (by decide) k

theorem bracket_not_mem_boxId (kind : BoxKind) (k : Nat) : '<' ∉ (boxId kind k).toList := by
  have hdigits := Decimal.not_mem_natText (c := '<') (by decide) k
  cases kind <;> simp [boxId, hdigits]

theorem Terminal.bracket_not_mem_id (t : Terminal) : '<' ∉ t.id.toList := by
  cases t with
  | start => decide
  | node k => exact bracket_not_mem_nodeId k

theorem bracket_not_mem_edgeLine {source target : String} (hsource : '<' ∉ source.toList)
    (htarget : '<' ∉ target.toList) : '<' ∉ (edgeLine source target).toList := by
  simp [edgeLine, indentStep, hsource, htarget]

/-- The line of a node opens the tags of its label. The quotation mark behind the label ends what
could become a tag within it. -/
theorem occurrences_nodeLine (htag : ∀ c ∈ tag, c.isAlpha = true) (hindent : '<' ∉ indent.toList)
    (k : Nat) (label : String) (isTask : Bool) :
    occurrences ('<' :: tag) (indent ++ nodeLine k label isTask).toList =
      occurrences ('<' :: tag) label.toList := by
  have hquote : '"' ∉ tag := fun h => absurd (htag _ h) (by decide)
  have hid := bracket_not_mem_nodeId k
  cases isTask with
  | true =>
    have hline : (indent ++ nodeLine k label true).toList =
        (indent ++ nodeId k ++ "[\"").toList ++ (label.toList ++ '"' :: [']']) := by
      simp [nodeLine]
    rw [hline, Text.occurrences_between hquote (by simp [hindent, hid]) (by decide)]
  | false =>
    have hline : (indent ++ nodeLine k label false).toList =
        (indent ++ nodeId k ++ "[/\"").toList ++ (label.toList ++ '"' :: ['/', ']']) := by
      simp [nodeLine]
    rw [hline, Text.occurrences_between hquote (by simp [hindent, hid]) (by decide)]

theorem occurrences_boxLine (htag : ∀ c ∈ tag, c.isAlpha = true) (hindent : '<' ∉ indent.toList)
    (kind : BoxKind) (k : Nat) (label : String) :
    occurrences ('<' :: tag)
        (indent ++ "subgraph " ++ boxId kind k ++ " [\"" ++ label ++ "\"]").toList =
      occurrences ('<' :: tag) label.toList := by
  have hquote : '"' ∉ tag := fun h => absurd (htag _ h) (by decide)
  have hid := bracket_not_mem_boxId kind k
  have hline : (indent ++ "subgraph " ++ boxId kind k ++ " [\"" ++ label ++ "\"]").toList =
      (indent ++ "subgraph " ++ boxId kind k ++ " [\"").toList ++
        (label.toList ++ '"' :: [']']) := by
    simp
  rw [hline, Text.occurrences_between hquote (by simp [hindent, hid]) (by decide)]

mutual

/-- A figure opens the tags of its labels. Of the lines of a box itself, only the first has a label
on it. -/
theorem occurrencesIn_lines (htag : ∀ c ∈ tag, c.isAlpha = true) : ∀ (indent : String)
    (_ : '<' ∉ indent.toList) (f : Figure),
    occurrencesIn ('<' :: tag) (f.lines indent) = occurrencesIn ('<' :: tag) f.labels
  | indent, hindent, .node k label isTask => by
    rw [Figure.lines, Figure.labels, occurrencesIn, occurrencesIn,
      occurrences_nodeLine htag hindent, occurrencesIn, occurrencesIn]
  | indent, hindent, .box kind k label children => by
    have hdeeper : '<' ∉ (indent ++ indentStep).toList := by simp [indentStep, hindent]
    have hdirection : '<' ∉ (indent ++ indentStep ++ "direction TB").toList := by
      simp [indentStep, hindent]
    have hend : '<' ∉ (indent ++ "end").toList := by simp [hindent]
    rw [Figure.lines, Text.occurrencesIn_append, Text.occurrencesIn_append, Figure.labels,
      occurrencesIn_linesOf htag _ hdeeper children, occurrencesIn, occurrencesIn, occurrencesIn,
      occurrencesIn, occurrencesIn, occurrencesIn, occurrences_boxLine htag hindent,
      (Text.Holds.of_not_mem hdirection).count, (Text.Holds.of_not_mem hend).count]
    rfl

theorem occurrencesIn_linesOf (htag : ∀ c ∈ tag, c.isAlpha = true) : ∀ (indent : String)
    (_ : '<' ∉ indent.toList) (figures : List Figure),
    occurrencesIn ('<' :: tag) (Figure.linesOf indent figures) =
      occurrencesIn ('<' :: tag) (Figure.labelsOf figures)
  | _, _, [] => rfl
  | indent, hindent, f :: fs => by
    rw [Figure.linesOf, Figure.labelsOf, Text.occurrencesIn_append, Text.occurrencesIn_append,
      occurrencesIn_lines htag indent hindent f, occurrencesIn_linesOf htag indent hindent fs]

end

end Lines

/-! ## Charts -/

theorem Chart.bracket_not_mem_edgeLines (c : Chart) : ∀ line ∈ c.edgeLines, '<' ∉ line.toList := by
  intro line hline
  rw [c.edgeLines_perm.mem_iff, List.mem_append, List.mem_append, List.mem_map, List.mem_map,
    List.mem_map] at hline
  rcases hline with (⟨e, -, rfl⟩ | ⟨k, -, rfl⟩) | ⟨t, -, rfl⟩
  · exact bracket_not_mem_edgeLine (bracket_not_mem_nodeId _) (bracket_not_mem_nodeId _)
  · exact bracket_not_mem_edgeLine (by decide) (bracket_not_mem_nodeId _)
  · exact bracket_not_mem_edgeLine t.bracket_not_mem_id (by decide)

/-- The lines of a chart open the tags of its labels. -/
theorem Chart.occurrencesIn_lines {tag : List Char} (htag : ∀ c ∈ tag, c.isAlpha = true)
    (c : Chart) : occurrencesIn ('<' :: tag) c.lines = occurrencesIn ('<' :: tag) c.labels := by
  have hbracket : ']' ∉ tag := fun h => absurd (htag _ h) (by decide)
  have hname : occurrences ('<' :: tag) (indentStep ++ "Start([" ++ c.name ++ "])").toList =
      occurrences ('<' :: tag) c.name.toList := by
    have hline : (indentStep ++ "Start([" ++ c.name ++ "])").toList =
        (indentStep ++ "Start([").toList ++ (c.name.toList ++ ']' :: [')']) := by
      simp
    rw [hline, Text.occurrences_between hbracket (by decide) (by decide)]
  have hfirst : '<' ∉ "flowchart TD".toList := by decide
  have hstyles : ∀ line ∈ styleLines, '<' ∉ line.toList := by
    rw [styleLines, List.forall_mem_cons, List.forall_mem_singleton, String.toList_ofList,
      String.toList_ofList]
    decide
  rw [lines_eq, frontLines, Text.occurrencesIn_append, Text.occurrencesIn_append,
    Text.occurrencesIn_append, Text.occurrencesIn_of_not_mem c.bracket_not_mem_edgeLines,
    Text.occurrencesIn_of_not_mem hstyles, occurrencesIn_linesOf htag _ (by decide), occurrencesIn,
    occurrencesIn, occurrencesIn, (Text.Holds.of_not_mem hfirst).count, hname, labels,
    occurrencesIn]
  omega

/-- The text of a flowchart opens the tags of its labels. -/
theorem occurrences_render {tag : List Char} (htag : ∀ c ∈ tag, c.isAlpha = true)
    {w : WorkflowSource} (hbody : w.body ≠ []) :
    occurrences ('<' :: tag) (render w).toList =
      occurrencesIn ('<' :: tag) (Chart.ofBody w.name w.body).labels := by
  have hnewline : '\n' ∉ '<' :: tag := by
    rw [List.mem_cons, not_or]
    exact ⟨by decide, fun h => absurd (htag _ h) (by decide)⟩
  have hjoin : ("\n" : String) = String.singleton '\n' := by decide
  rw [render, if_neg (by simpa using hbody), hjoin,
    Text.occurrences_joinWith (List.cons_ne_nil _ _) hnewline, Chart.occurrencesIn_lines htag]

end WorkflowDocs.Flowchart
