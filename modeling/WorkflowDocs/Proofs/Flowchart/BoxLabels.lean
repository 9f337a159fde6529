import Mathlib.Data.List.Forall2
import WorkflowDocs.Proofs.Flowchart.Nesting
import WorkflowDocs.Proofs.Path.Text
import WorkflowDocs.Proofs.Wdl.Quotes

/-!
# The labels of boxes

A box is opened by a line with the label of its block in double quotes. The label of a conditional
is the printed condition with apostrophes for double quotes. The label of a scatter has the printed
collection as it is, so a double quote that it shows ends the label early.

The lines that open boxes are found in the text alone, and the blocks that contain a call are found
in the body alone. Both are in the same order, whatever the names of the calls are.

## Main definitions

* `chartLines`, `opensBox`: the lines of a flowchart, and those of them that open a box
* `Node.boxed`: the blocks of a body that contain a call
* `OpensBlock`: a line that opens the box of a block
* `IsQuoted`: a line with a label that has no double quote in it
* `LabelShowsQuote`: a block whose label shows a double quote

## Main results

* `forall₂_opensBlock`: each box is the box of a block
* `OpensBlock.isQuoted_iff`: the lines of which blocks are quoted
* `box_lines_quoted_iff`: both together, for the text of a workflow
-/

namespace WorkflowDocs

/-! ## Blocks that are drawn -/

mutual

/-- The blocks of an element that contain a call, from the outside in and in order. -/
def Node.boxed : Node → List Node
  | .decl _ | .call _ => []
  | .scatter item source body =>
    if (Node.callsOf body).isEmpty then []
    else .scatter item source body :: Node.boxedOf body
  | .conditional condition body =>
    if (Node.callsOf body).isEmpty then []
    else .conditional condition body :: Node.boxedOf body

/-- The blocks of a body that contain a call. -/
def Node.boxedOf : List Node → List Node
  | [] => []
  | n :: ns => n.boxed ++ Node.boxedOf ns

end

/-- An expression is printed, with a double quote in it. -/
def Expr.PrintsQuote (e : Expr) : Prop :=
  e.text?.isSome = true ∧ e.ShowsQuote

namespace Flowchart

/-- The collection of a scatter is labelled with a double quote in it. An application is labelled by
its function and all of its arguments, as if no operator had a sign of its own. -/
def CollectionShowsQuote : Option Expr → Prop
  | none => False
  | some (.apply function args) => '"' ∈ function.toList ∨ ∃ arg ∈ args, arg.PrintsQuote
  | some e => e.PrintsQuote

/-- The label of a block shows a double quote, which that of a conditional does not. -/
def LabelShowsQuote : Node → Prop
  | .scatter item source _ => '"' ∈ item.toList ∨ CollectionShowsQuote source
  | _ => False

/-! ## Lines that open boxes -/

/-- The line that opens a box, with its label in double quotes. -/
def boxLine (indent : Nat) (kind : BoxKind) (number : Nat) (label : String) : String :=
  blanks indent ++ "subgraph " ++ boxId kind number ++ " [\"" ++ label ++ "\"]"

/-- Whether a line opens a box. -/
def opensBox (line : String) : Bool :=
  Text.startsWith (Text.trimStart line) "subgraph "

/-- The line opens a box, with a label in double quotes that has no double quote in it. -/
def IsQuoted (line : String) : Prop :=
  ∃ (indent : Nat) (kind : BoxKind) (number : Nat) (label : String),
    line = boxLine indent kind number label ∧ '"' ∉ label.toList

/-- The line opens the box of a block: it has the kind and the label of the block. -/
inductive OpensBlock : String → Node → Prop
  | scatter {indent number : Nat} {item : String} {source : Option Expr} {body : List Node} :
      OpensBlock (boxLine indent .scatter number (scatterLabel item source))
        (.scatter item source body)
  | conditional {indent number : Nat} {condition : Option Expr} {body : List Node} :
      OpensBlock (boxLine indent .conditional number (conditionLabel condition))
        (.conditional condition body)

/-- The lines of the flowchart of a workflow. -/
def chartLines (w : WorkflowSource) : List String :=
  if w.body.isEmpty then [] else (Chart.ofBody w.name w.body).lines

theorem render_eq_joinWith (w : WorkflowSource) :
    render w = Text.joinWith "\n" (chartLines w) := by
  unfold render chartLines
  split <;> rfl

/-! ## Labels -/

theorem quote_mem_getD_text {e : Expr} {fallback : String} (hfallback : '"' ∉ fallback.toList) :
    '"' ∈ (e.text?.getD fallback).toList ↔ e.PrintsQuote := by
  unfold Expr.PrintsQuote
  cases htext : e.text? with
  | none => simp [hfallback]
  | some t => simp [e.quote_mem_text_iff htext]

/-- Apart from truth values, an argument is labelled as it prints. -/
theorem quote_mem_argLabel (e : Expr) : '"' ∈ (argLabel e).toList ↔ e.PrintsQuote := by
  have hdots : '"' ∉ "...".toList := by decide
  cases e with
  | boolean b =>
    rw [Expr.PrintsQuote, Expr.showsQuote_iff]
    cases b <;> simp [argLabel, scalarText?, Expr.quotesItself, Expr.shownParts, Expr.parts]
  | _ =>
    rw [← quote_mem_getD_text hdots]
    simp only [argLabel, scalarText?, Expr.text?, Option.getD_some, Option.getD_none]

theorem quote_mem_collectionLabel (source : Option Expr) :
    '"' ∈ (collectionLabel source).toList ↔ CollectionShowsQuote source := by
  have hitems : '"' ∉ "items".toList := by decide
  cases source with
  | none => simp [collectionLabel, CollectionShowsQuote]
  | some e =>
    cases e with
    | apply function args =>
      simp [collectionLabel, CollectionShowsQuote, Text.mem_joinWith, quote_mem_argLabel]
    | _ =>
      rw [CollectionShowsQuote, ← quote_mem_getD_text hitems]
      · simp only [collectionLabel, Expr.text?, Option.getD_some]
      · simp

theorem quote_mem_scatterLabel (item : String) (source : Option Expr) :
    '"' ∈ (scatterLabel item source).toList ↔
      '"' ∈ item.toList ∨ CollectionShowsQuote source := by
  rw [← quote_mem_collectionLabel, scatterLabel]
  split
  · rename_i hempty
    simp [hempty]
  · simp

theorem quote_not_mem_conditionLabel (condition : Option Expr) :
    '"' ∉ (conditionLabel condition).toList := by
  rw [conditionLabel, Text.replaceAll, String.toList_ofList]
  exact Text.not_mem_replaceChars_singleton (by decide) _

/-! ## Quoted lines -/

/-- A line that opens a box has the two double quotes around the label and those in it. -/
theorem count_quote_boxLine (indent : Nat) (kind : BoxKind) (number : Nat) (label : String) :
    (boxLine indent kind number label).toList.count '"' = label.toList.count '"' + 2 := by
  have hdigits := Decimal.not_mem_natText (c := '"') (by decide) number
  have hid : (boxId kind number).toList.count '"' = 0 := by
    rw [List.count_eq_zero]
    cases kind <;> simpa [boxId] using hdigits
  have hblanks : (blanks indent).toList.count '"' = 0 := by
    rw [List.count_eq_zero]
    exact fun h => absurd (isBlank_of_mem_blanks _ h) (by decide)
  have hword : "subgraph ".toList.count '"' = 0 := by decide
  have hopening : " [\"".toList.count '"' = 1 := by decide
  have hclosing : "\"]".toList.count '"' = 1 := by decide
  rw [boxLine, String.toList_append, String.toList_append, String.toList_append,
    String.toList_append, String.toList_append, List.count_append, List.count_append,
    List.count_append, List.count_append, List.count_append, hblanks, hword, hid, hopening,
    hclosing]
  omega

/-- However a line is read, its label has a double quote in it or not. Both readings have the double
quotes around the label, so there is none left for its inside. -/
theorem isQuoted_boxLine (indent : Nat) (kind : BoxKind) (number : Nat) (label : String) :
    IsQuoted (boxLine indent kind number label) ↔ '"' ∉ label.toList := by
  constructor
  · rintro ⟨indent', kind', number', label', hline, hlabel⟩
    have hcount := congrArg (fun line => line.toList.count '"') hline
    simp only [count_quote_boxLine, List.count_eq_zero.2 hlabel] at hcount
    exact List.count_eq_zero.1 (by omega)
  · intro hlabel
    exact ⟨indent, kind, number, label, rfl, hlabel⟩

theorem OpensBlock.isQuoted_iff {line : String} {n : Node} (h : OpensBlock line n) :
    IsQuoted line ↔ ¬ LabelShowsQuote n := by
  cases h with
  | scatter => rw [isQuoted_boxLine, quote_mem_scatterLabel, LabelShowsQuote]
  | conditional =>
    rw [isQuoted_boxLine]
    exact iff_of_true (quote_not_mem_conditionLabel _) not_false

/-! ## The lines of a chart -/

theorem opensBox_boxLine (indent : Nat) (kind : BoxKind) (number : Nat) (label : String) :
    opensBox (boxLine indent kind number label) = true := by
  have hline : boxLine indent kind number label =
      blanks indent ++ ("subgraph " ++ (boxId kind number ++ " [\"" ++ label ++ "\"]")) := by
    simp only [boxLine, String.append_assoc]
  rw [opensBox, hline, trimStart_blanks indent (c := 's') (by simp) (by decide), Text.startsWith,
    String.toList_append]
  exact List.isPrefixOf_iff_prefix.2 (List.prefix_append _ _)

/-- A line that begins with another letter opens no box. -/
theorem opensBox_blanks (indent : Nat) {text : String} {c : Char}
    (htext : text.toList.head? = some c) (hc : Text.isBlank c = false) (hs : c ≠ 's') :
    opensBox (blanks indent ++ text) = false := by
  obtain ⟨cs, hlist⟩ := List.head?_eq_some_iff.1 htext
  rw [opensBox, trimStart_blanks indent htext hc, Text.startsWith, hlist]
  simp [List.isPrefixOf, hs.symm]

theorem opensBox_nodeLine (indent k : Nat) (label : String) (isTask : Bool) :
    opensBox (blanks indent ++ nodeLine k label isTask) = false :=
  opensBox_blanks indent (c := 'N') (by simp [nodeLine_eq, nodeId]) (by decide) (by decide)

theorem opensBox_of_isEdgeLine {line : String} (h : IsEdgeLine line) : opensBox line = false := by
  obtain ⟨t, target, rfl⟩ := h
  rw [edgeLine, indentStep_eq, String.append_assoc, String.append_assoc]
  cases t with
  | start => exact opensBox_blanks 4 (c := 'S') (by simp [Terminal.id]) (by decide) (by decide)
  | node k =>
    exact opensBox_blanks 4 (c := 'N') (by simp [Terminal.id, nodeId]) (by decide) (by decide)

theorem Figure.linesOf_append (indent : String) (a b : List Figure) :
    Figure.linesOf indent (a ++ b) = Figure.linesOf indent a ++ Figure.linesOf indent b := by
  induction a with
  | nil => rfl
  | cons f fs ih => rw [List.cons_append, linesOf, ih, linesOf, List.append_assoc]

/-- Of the lines of a box, the first opens it, and the boxes inside it are opened after that. -/
theorem filter_opensBox_box (indent : Nat) (kind : BoxKind) (number : Nat) (label : String)
    (children : List Figure) :
    (Figure.linesOf (blanks indent) [.box kind number label children]).filter opensBox =
      boxLine indent kind number label ::
        (Figure.linesOf (blanks (indent + 4)) children).filter opensBox := by
  have hdirection : opensBox (blanks (indent + 4) ++ "direction TB") = false :=
    opensBox_blanks _ (c := 'd') rfl (by decide) (by decide)
  have hend : opensBox (blanks indent ++ "end") = false :=
    opensBox_blanks _ (c := 'e') rfl (by decide) (by decide)
  have hfirst := opensBox_boxLine indent kind number label
  simp only [Figure.linesOf, Figure.lines, blanks_append_indentStep]
  rw [boxLine] at hfirst ⊢
  simp [hfirst, hdirection, hend]

mutual

theorem forall₂_opensBlock_drawNode (deps : Fields (List String)) (indent : Nat) :
    ∀ (n : Node) (p : Plan), List.Forall₂ OpensBlock
      ((Figure.linesOf (blanks indent) (p.drawNode deps n).2).filter opensBox) n.boxed
  | .decl _, _ => .nil
  | .call c, p => by
    rw [Plan.drawNode, Plan.drawCall, Node.boxed]
    dsimp only
    split
    · rw [Figure.linesOf, Figure.lines, Figure.linesOf, List.append_nil,
        List.filter_singleton, opensBox_nodeLine]
      exact .nil
    · exact .nil
  | .scatter item source body, p => by
    rw [Plan.drawNode, Node.boxed, anyCall_eq]
    by_cases hempty : (Node.callsOf body).isEmpty
    · simp [hempty, Figure.linesOf]
    · simp only [hempty, Bool.not_false, if_true]
      rw [filter_opensBox_box]
      exact .cons .scatter (forall₂_opensBlock_draw deps (indent + 4) body _)
  | .conditional condition body, p => by
    rw [Plan.drawNode, Node.boxed, anyCall_eq]
    by_cases hempty : (Node.callsOf body).isEmpty
    · simp [hempty, Figure.linesOf]
    · simp only [hempty, Bool.not_false, if_true]
      rw [filter_opensBox_box]
      exact .cons .conditional (forall₂_opensBlock_draw deps (indent + 4) body _)

/-- Drawing a body opens a box for each of its blocks that contains a call, in order. -/
theorem forall₂_opensBlock_draw (deps : Fields (List String)) (indent : Nat) :
    ∀ (body : List Node) (p : Plan), List.Forall₂ OpensBlock
      ((Figure.linesOf (blanks indent) (p.draw deps body).2).filter opensBox) (Node.boxedOf body)
  | [], _ => .nil
  | n :: ns, p => by
    rw [Plan.draw, Node.boxedOf, Figure.linesOf_append, List.filter_append]
    exact List.rel_append (forall₂_opensBlock_drawNode deps indent n p)
      (forall₂_opensBlock_draw deps indent ns _)

end

theorem opensBox_ofList (cs : List Char) :
    opensBox (String.ofList cs) = "subgraph ".toList.isPrefixOf (cs.dropWhile Text.isBlank) := by
  rw [opensBox, Text.trimStart, String.toList_ofList, Text.startsWith]
  simp only [String.toList_ofList]

/-- Only the lines of figures open boxes. -/
theorem Chart.filter_opensBox_lines (c : Chart) :
    c.lines.filter opensBox = (Figure.linesOf indentStep c.figures).filter opensBox := by
  have hfirst : opensBox "flowchart TD" = false := by
    rw [opensBox_ofList]
    decide
  have hstart : opensBox (indentStep ++ "Start([" ++ c.name ++ "])") = false := by
    rw [indentStep_eq, String.append_assoc, String.append_assoc]
    exact opensBox_blanks 4 (c := 'S') (by simp) (by decide) (by decide)
  have hedges : c.edgeLines.filter opensBox = [] := by
    rw [List.filter_eq_nil_iff]
    intro line hline
    simp [opensBox_of_isEdgeLine (isEdgeLine_of_mem hline)]
  have hstyles : styleLines.filter opensBox = [] := by
    rw [List.filter_eq_nil_iff, styleLines, List.forall_mem_cons, List.forall_mem_singleton,
      opensBox_ofList, opensBox_ofList]
    decide
  rw [lines_eq, frontLines, List.filter_append, List.filter_append, List.filter_append, hedges,
    hstyles, List.append_nil, List.append_nil]
  simp [hfirst, hstart]

/-- Each box of the chart of a workflow is the box of a block that contains a call. -/
theorem forall₂_opensBlock (w : WorkflowSource) :
    List.Forall₂ OpensBlock ((chartLines w).filter opensBox) (Node.boxedOf w.body) := by
  unfold chartLines
  split
  · rename_i hempty
    rw [List.isEmpty_iff.1 hempty]
    exact .nil
  · rw [Chart.filter_opensBox_lines, indentStep_eq]
    exact forall₂_opensBlock_draw _ 4 w.body {}

/-- **Which labels of boxes are quoted**: the lines of the text that open boxes are those of the
blocks that contain a call, in order, and such a line has a label in double quotes without a double
quote in it unless the block is a scatter whose label shows one. -/
theorem box_lines_quoted_iff (w : WorkflowSource) :
    render w = Text.joinWith "\n" (chartLines w) ∧
      List.Forall₂ (fun line n => OpensBlock line n ∧ (IsQuoted line ↔ ¬ LabelShowsQuote n))
        ((chartLines w).filter opensBox) (Node.boxedOf w.body) := by
  refine ⟨render_eq_joinWith w, (forall₂_opensBlock w).imp ?_⟩
  intro line n hopens
  exact ⟨hopens, hopens.isQuoted_iff⟩

/-- A string in the source. -/
def quotedString (s : String) : Expr :=
  .string [.text "\"", .text s, .text "\""]

/-- A scatter over two strings, with a call in it. -/
def literalBlock : Node :=
  .scatter "name" (some (.array [quotedString "ada", quotedString "grace"] none))
    [.call ⟨["greet"], "greet", [], some ⟨.task, "greet"⟩⟩]

/-- The label of a scatter over strings has double quotes in it. -/
theorem literal_label_unquoted :
    ∃ line ∈ (chartLines { name := "greetings", body := [literalBlock] }).filter opensBox,
      OpensBlock line literalBlock ∧ ¬ IsQuoted line := by
  have hstring : (quotedString "ada").ShowsQuote := .itself (by decide)
  have hshows : LabelShowsQuote literalBlock := .inr ⟨rfl, .part List.mem_cons_self hstring⟩
  have hboxes := forall₂_opensBlock { name := "greetings", body := [literalBlock] }
  obtain ⟨line, _, hopens, -, hlines⟩ := List.forall₂_cons_right_iff.1 hboxes
  refine ⟨line, ?_, hopens, fun hquoted => hopens.isQuoted_iff.1 hquoted hshows⟩
  rw [hlines]
  exact List.mem_cons_self

end Flowchart

end WorkflowDocs
