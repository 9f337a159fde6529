import Mathlib.Data.List.Forall2
import WorkflowDocs.Proofs.Flowchart.Reading
import WorkflowDocs.Proofs.Flowchart.Rooted

/-!
# The boxes of a chart are the blocks of the body

A chart shows the calls of a body inside boxes for the blocks around them. Read back from the text,
its boxes are the blocks that contain a call, nested as in the body and in the same order, and each
of its nodes stands for a call. Nodes and boxes of either kind are numbered in the order in which
their lines stand.

## Main definitions

* `Node.kept`: a body without declarations and blocks that contain no call
* `Block.Shows`: what is read shows an element of a body
* `nodeIds`, `boxIds`: the identifiers of what is read, in the order of the text
* `Chart.Encloses`: the lines between the start and the first edge

## Main results

* `shows_draw`: drawing a body shows it
* `numbers_draw`: boxes are numbered in the order in which they are opened
* `prints_declared`: edges connect nodes that are drawn
* `boxes_exact`: the boxes of a chart are the blocks of the body
-/

namespace WorkflowDocs

/-! ## Bodies without what is not drawn -/

mutual

/-- An element of a body, if it is or contains a call, without the declarations and the blocks
inside it that contain none. -/
def Node.kept : Node → List Node
  | .decl _ => []
  | .call c => [.call c]
  | .scatter item source body =>
    if (Node.callsOf body).isEmpty then [] else [.scatter item source (Node.keptOf body)]
  | .conditional condition body =>
    if (Node.callsOf body).isEmpty then [] else [.conditional condition (Node.keptOf body)]

/-- A body without declarations and blocks that contain no call. -/
def Node.keptOf : List Node → List Node
  | [] => []
  | n :: ns => n.kept ++ Node.keptOf ns

end

namespace Flowchart

/-! ## What is read shows the body -/

/-- The shape and label of the node of a call. -/
def callShape (c : CallNode) : String :=
  nodeShape (nodeLabel c) (callsTask c)

/-- A block shows an element of a body: a node shows a call, and a box shows a block of its kind
with its label and, in order, what stands in it. -/
inductive Block.Shows : Block → Node → Prop
  | call {id : String} {c : CallNode} : Shows (.node id (callShape c)) (.call c)
  | scatter {id item : String} {source : Option Expr} {blocks : List Block} {body : List Node}
      (h : List.Forall₂ Shows blocks body) :
      Shows (.box .scatter id (boxLabel (scatterLabel item source)) blocks)
        (.scatter item source body)
  | conditional {id : String} {condition : Option Expr} {blocks : List Block} {body : List Node}
      (h : List.Forall₂ Shows blocks body) :
      Shows (.box .conditional id (boxLabel (conditionLabel condition)) blocks)
        (.conditional condition body)

theorem Figure.blocksOf_append (a b : List Figure) :
    Figure.blocksOf (a ++ b) = Figure.blocksOf a ++ Figure.blocksOf b := by
  induction a with
  | nil => rfl
  | cons f fs ih => rw [List.cons_append, blocksOf, ih, blocksOf, List.cons_append]

mutual

theorem shows_drawNode {deps : Fields (List String)}
    (hdeps : ∀ c, ((deps.get? c).getD []).Nodup) {p : Plan} {drawn : List String} :
    ∀ n : Node, Drawn deps p drawn → (drawn ++ n.calls.map (·.name)).Nodup →
      List.Forall₂ Block.Shows (Figure.blocksOf (p.drawNode deps n).2) n.kept
  | .decl _, _, _ => .nil
  | .call c, h, hnames => by
    have hnew : c.name ∉ drawn := fun hmem =>
      (List.nodup_append.1 hnames).2.2 _ hmem _ List.mem_cons_self rfl
    rw [Plan.drawNode, h.figures_drawCall hnew]
    exact .cons .call .nil
  | .scatter item source body, h, hnames => by
    rw [Plan.drawNode, Node.kept, anyCall_eq]
    by_cases hempty : (Node.callsOf body).isEmpty
    · simp [hempty, Figure.blocksOf]
    · simp only [hempty, Bool.not_false, if_true]
      exact .cons (.scatter (shows_draw hdeps body (h.withCounts _ _) hnames)) .nil
  | .conditional condition body, h, hnames => by
    rw [Plan.drawNode, Node.kept, anyCall_eq]
    by_cases hempty : (Node.callsOf body).isEmpty
    · simp [hempty, Figure.blocksOf]
    · simp only [hempty, Bool.not_false, if_true]
      exact .cons (.conditional (shows_draw hdeps body (h.withCounts _ _) hnames)) .nil

/-- Drawing a body shows what is kept of it. -/
theorem shows_draw {deps : Fields (List String)}
    (hdeps : ∀ c, ((deps.get? c).getD []).Nodup) {p : Plan} {drawn : List String} :
    ∀ body : List Node, Drawn deps p drawn → (drawn ++ (Node.callsOf body).map (·.name)).Nodup →
      List.Forall₂ Block.Shows (Figure.blocksOf (p.draw deps body).2) (Node.keptOf body)
  | [], _, _ => .nil
  | n :: ns, h, hnames => by
    rw [Node.callsOf, List.map_append, ← List.append_assoc] at hnames
    have hn := (List.nodup_append.1 hnames).1
    have hrest := shows_draw hdeps ns (drawnCalls_drawNode hdeps n h hn).plan hnames
    rw [Plan.draw, Node.keptOf, Figure.blocksOf_append]
    exact List.rel_append (shows_drawNode hdeps n h hn) hrest

end

/-! ## Numbers of boxes -/

mutual

/-- The numbers of the boxes of a kind in a figure, from the outside in. -/
def Figure.boxes (kind : BoxKind) : Figure → List Nat
  | .node _ _ _ => []
  | .box k number _ children => (if k = kind then [number] else []) ++ Figure.boxesOf kind children

/-- The numbers of the boxes of a kind in a list of figures. -/
def Figure.boxesOf (kind : BoxKind) : List Figure → List Nat
  | [] => []
  | f :: fs => f.boxes kind ++ Figure.boxesOf kind fs

end

theorem Figure.boxesOf_append (kind : BoxKind) (a b : List Figure) :
    Figure.boxesOf kind (a ++ b) = Figure.boxesOf kind a ++ Figure.boxesOf kind b := by
  induction a with
  | nil => rfl
  | cons f fs ih => rw [List.cons_append, boxesOf, ih, boxesOf, List.append_assoc]

/-- The number of boxes of a kind. -/
def Plan.count (p : Plan) : BoxKind → Nat
  | .scatter => p.scatters
  | .conditional => p.conditionals

/-- The boxes of a result have the numbers after those of the plan `p`, in order. -/
def Numbers (kind : BoxKind) (p : Plan) (result : Plan × List Figure) : Prop :=
  ∃ m, result.1.count kind = p.count kind + m ∧
    Figure.boxesOf kind result.2 = List.range' (p.count kind + 1) m

theorem Plan.count_connect (p : Plan) (deps : List String) (k : Nat) (kind : BoxKind) :
    (p.connect deps k).count kind = p.count kind := by
  by_cases hnil : deps.filterMap p.numbers.get? = []
  · rw [Plan.connect_of_nil hnil]
    cases kind <;> rfl
  · rw [Plan.connect_of_ne_nil hnil]
    cases kind <;> rfl

theorem Plan.count_number (p : Plan) (name : String) (kind : BoxKind) :
    (p.number name).1.count kind = p.count kind := by
  unfold Plan.number
  split <;> cases kind <;> rfl

theorem numbers_drawCall (kind : BoxKind) (p : Plan) (deps : Fields (List String)) (c : CallNode) :
    Numbers kind p (p.drawCall deps c) := by
  refine ⟨0, ?_, ?_⟩
  · exact (Plan.count_connect _ _ _ kind).trans (p.count_number c.name kind)
  · unfold Plan.drawCall
    dsimp only
    split <;> rfl

/-- The number of a box comes before the numbers of the boxes inside it. -/
theorem Numbers.box {kind : BoxKind} {p q : Plan} {result : Plan × List Figure} {label : String}
    (k : BoxKind) (h : Numbers kind q result)
    (hcount : q.count kind = p.count kind + if k = kind then 1 else 0) :
    Numbers kind p (result.1, [.box k (p.count k + 1) label result.2]) := by
  obtain ⟨m, hplan, hboxes⟩ := h
  simp only [Numbers, Figure.boxesOf, Figure.boxes, List.append_nil, hboxes, hplan, hcount]
  split
  · subst k
    refine ⟨m + 1, by omega, ?_⟩
    rw [List.range'_succ, List.singleton_append]
  · exact ⟨m, rfl, rfl⟩

theorem Numbers.append {kind : BoxKind} {p : Plan} {first second : Plan × List Figure}
    (h : Numbers kind p first) (h' : Numbers kind first.1 second) :
    Numbers kind p (second.1, first.2 ++ second.2) := by
  obtain ⟨m, hplan, hboxes⟩ := h
  obtain ⟨m', hplan', hboxes'⟩ := h'
  refine ⟨m + m', by simp only [hplan', hplan, Nat.add_assoc], ?_⟩
  rw [Figure.boxesOf_append, hboxes, hboxes', hplan, Nat.add_right_comm, List.range'_append_1]

mutual

theorem numbers_drawNode (kind : BoxKind) (deps : Fields (List String)) :
    ∀ (n : Node) (p : Plan), Numbers kind p (p.drawNode deps n)
  | .decl _, _ => ⟨0, rfl, rfl⟩
  | .call c, p => numbers_drawCall kind p deps c
  | .scatter item source body, p => by
    rw [Plan.drawNode]
    split
    · refine (numbers_draw kind deps body { p with scatters := p.scatters + 1 }).box .scatter ?_
      cases kind <;> rfl
    · exact ⟨0, rfl, rfl⟩
  | .conditional condition body, p => by
    rw [Plan.drawNode]
    split
    · refine (numbers_draw kind deps body
        { p with conditionals := p.conditionals + 1 }).box .conditional ?_
      cases kind <;> rfl
    · exact ⟨0, rfl, rfl⟩

/-- Drawing a body numbers its boxes in the order in which they are opened. -/
theorem numbers_draw (kind : BoxKind) (deps : Fields (List String)) :
    ∀ (body : List Node) (p : Plan), Numbers kind p (p.draw deps body)
  | [], _ => ⟨0, rfl, rfl⟩
  | n :: ns, p => (numbers_drawNode kind deps n p).append (numbers_draw kind deps ns _)

end

/-! ## Identifiers of what is read -/

/-- The identifiers of the nodes, in the order of their lines. -/
def nodeIds (forest : List Block) : List String :=
  (Block.marksOf forest).filterMap fun
    | .node id _ => some id
    | _ => none

/-- The identifiers of the boxes of a kind, in the order of the lines that open them. -/
def boxIds (kind : BoxKind) (forest : List Block) : List String :=
  (Block.marksOf forest).filterMap fun
    | .opening k id _ => if k = kind then some id else none
    | _ => none

theorem nodeIds_append (a b : List Block) : nodeIds (a ++ b) = nodeIds a ++ nodeIds b := by
  rw [nodeIds, Block.marksOf_append, List.filterMap_append]
  rfl

theorem boxIds_append (kind : BoxKind) (a b : List Block) :
    boxIds kind (a ++ b) = boxIds kind a ++ boxIds kind b := by
  rw [boxIds, Block.marksOf_append, List.filterMap_append]
  rfl

mutual

theorem nodeIds_block : ∀ f : Figure, nodeIds [f.block] = f.nodes.map fun x => nodeId x.1
  | .node _ _ _ => rfl
  | .box _ _ _ children => by
    simpa [nodeIds, Figure.block, Block.marksOf, Block.marks, Figure.nodes] using
      nodeIds_blocksOf children

theorem nodeIds_blocksOf : ∀ figures : List Figure,
    nodeIds (Figure.blocksOf figures) = (Figure.nodesOf figures).map fun x => nodeId x.1
  | [] => rfl
  | f :: fs => by
    rw [Figure.blocksOf, ← List.singleton_append, nodeIds_append, nodeIds_block f,
      nodeIds_blocksOf fs, Figure.nodesOf, List.map_append]

end

mutual

theorem boxIds_block (kind : BoxKind) : ∀ f : Figure,
    boxIds kind [f.block] = (f.boxes kind).map (boxId kind)
  | .node _ _ _ => rfl
  | .box k _ _ children => by
    have hchildren := boxIds_blocksOf kind children
    by_cases hk : k = kind
    · subst hk
      simpa [boxIds, Figure.block, Block.marksOf, Block.marks, Figure.boxes] using hchildren
    · simpa [boxIds, Figure.block, Block.marksOf, Block.marks, Figure.boxes, hk] using hchildren

theorem boxIds_blocksOf (kind : BoxKind) : ∀ figures : List Figure,
    boxIds kind (Figure.blocksOf figures) = (Figure.boxesOf kind figures).map (boxId kind)
  | [] => rfl
  | f :: fs => by
    rw [Figure.blocksOf, ← List.singleton_append, boxIds_append, boxIds_block kind f,
      boxIds_blocksOf kind fs, Figure.boxesOf, List.map_append]

end

theorem boxId_injective (kind : BoxKind) : Function.Injective (boxId kind) := by
  intro k k' h
  cases kind with
  | scatter => exact Decimal.natText_injective (String.append_right_inj _ |>.1 h)
  | conditional => exact Decimal.natText_injective (String.append_right_inj _ |>.1 h)

theorem kindOf?_nodeId (k : Nat) : kindOf? (nodeId k) = none := by
  simp [kindOf?, nodeId]

/-- The identifiers of nodes, of scatters and of conditionals are different. Identifiers of
different kinds begin with different letters. -/
theorem nodup_ids {nodes scatters conditionals : List Nat} (hnodes : nodes.Nodup)
    (hscatters : scatters.Nodup) (hconditionals : conditionals.Nodup) :
    (nodes.map nodeId ++ scatters.map (boxId .scatter) ++
      conditionals.map (boxId .conditional)).Nodup := by
  refine List.nodup_append.2 ⟨List.nodup_append.2 ⟨hnodes.map nodeId_injective,
    hscatters.map (boxId_injective _), ?_⟩, hconditionals.map (boxId_injective _), ?_⟩
  · rintro _ hnode _ hbox rfl
    obtain ⟨k, _, rfl⟩ := List.mem_map.1 hnode
    obtain ⟨k', _, heq⟩ := List.mem_map.1 hbox
    have hkind := kindOf?_boxId .scatter k'
    rw [heq, kindOf?_nodeId] at hkind
    cases hkind
  · rintro _ hfront _ hbox rfl
    obtain ⟨k', _, rfl⟩ := List.mem_map.1 hbox
    have hkind := kindOf?_boxId .conditional k'
    rcases List.mem_append.1 hfront with hnode | hscatter
    · obtain ⟨k, _, heq⟩ := List.mem_map.1 hnode
      rw [← heq, kindOf?_nodeId] at hkind
      cases hkind
    · obtain ⟨k, _, heq⟩ := List.mem_map.1 hscatter
      rw [← heq, kindOf?_boxId] at hkind
      cases hkind

/-! ## Edges -/

mutual

theorem exists_number_of_mem_nodeEndings {numbers : Fields Nat} {k : Nat} :
    ∀ n : Node, .node k ∈ nodeEndings numbers n → ∃ x, numbers.get? x = some k
  | .call c, h => by
    obtain ⟨j, hj, hjk⟩ := List.mem_map.1 h
    obtain rfl := Terminal.node.inj hjk
    exact ⟨c.name, Option.mem_toList.1 hj⟩
  | .scatter _ _ body, h =>
    (mem_orStart h).elim (fun hstart => nomatch hstart) (exists_number_of_mem_endingsOf body)
  | .conditional _ body, h =>
    (mem_orStart h).elim (fun hstart => nomatch hstart) (exists_number_of_mem_endingsOf body)

/-- A body ends at nodes that have been numbered. -/
theorem exists_number_of_mem_endingsOf {numbers : Fields Nat} {k : Nat} :
    ∀ body : List Node, .node k ∈ endingsOf numbers body → ∃ x, numbers.get? x = some k
  | n :: ns, h =>
    (List.mem_append.1 h).elim (exists_number_of_mem_nodeEndings n)
      (exists_number_of_mem_endingsOf ns)

end

theorem exists_number_of_mem_endTerminals {numbers : Fields Nat} {deps : Fields (List String)}
    {body : List Node} {k : Nat} (h : .node k ∈ endTerminals numbers deps body) :
    ∃ x, numbers.get? x = some k := by
  unfold endTerminals at h
  split at h
  · rw [List.mem_eraseDups] at h
    exact (mem_orStart h).elim (fun hstart => nomatch hstart) (exists_number_of_mem_endingsOf body)
  · obtain ⟨j, hj, hjk⟩ := List.mem_map.1 h
    obtain rfl := Terminal.node.inj hjk
    obtain ⟨x, _, hx⟩ := List.mem_filterMap.1 hj
    exact ⟨x, hx⟩

/-- Some edge leads into the end. -/
theorem endTerminals_ne_nil (numbers : Fields Nat) (deps : Fields (List String))
    (body : List Node) : endTerminals numbers deps body ≠ [] := by
  unfold endTerminals
  split
  · obtain ⟨t, ht⟩ := List.exists_mem_of_ne_nil _ (endings_ne_nil numbers body)
    exact List.ne_nil_of_mem (List.mem_eraseDups.2 ht)
  · rename_i hne
    simpa using hne

/-- A number that has been given is one of the first. -/
theorem Drawn.mem_range_of_get? {deps : Fields (List String)} {p : Plan} {drawn : List String}
    (h : Drawn deps p drawn) {x : String} {k : Nat} (hk : p.numbers.get? x = some k) :
    k ∈ List.range' 1 drawn.length := by
  have hx : x ∈ drawn := h.names ▸ Fields.mem_names_of_get? hk
  rw [h.number x hx, Option.some.injEq] at hk
  have hlt := List.idxOf_lt_length_iff.2 hx
  rw [List.mem_range'_1]
  omega

section Body

variable {body : List Node} (hcalls : (callNames body).Nodup)

include hcalls

theorem mem_range_of_mem_callNames {c : String} (hc : c ∈ callNames body) :
    callIndex body c + 1 ∈ List.range' 1 (callNames body).length :=
  (drawnCalls_body hcalls).plan.mem_range_of_get? ((drawnCalls_body hcalls).plan.number c hc)

/-- The nodes of a chart have the first numbers, in order. -/
theorem nodeIds_ofBody (name : String) :
    nodeIds (Figure.blocksOf (Chart.ofBody name body).figures) =
      (List.range' 1 (Node.callsOf body).length).map nodeId := by
  have hnodes : Figure.nodesOf (Chart.ofBody name body).figures =
      numberedNodes 1 (Node.callsOf body) := (drawnCalls_body hcalls).nodes
  rw [nodeIds_blocksOf, hnodes, numberedNodes, List.map_map, ← List.zipIdx_map_snd 1,
    List.map_map]
  rfl

/-- Edge lines connect the start, nodes that are drawn, and the end. -/
theorem prints_declared (name : String) {a b : String} (h : (Chart.ofBody name body).Prints a b) :
    (a = "Start" ∨ a ∈ (List.range' 1 (callNames body).length).map nodeId) ∧
      (b = "End([End])" ∨ b ∈ (List.range' 1 (callNames body).length).map nodeId) := by
  have hplan := (drawnCalls_body hcalls).plan
  obtain ⟨v, v', hjoins, rfl, rfl⟩ := Chart.prints_iff.1 h
  have hcall : ∀ c ∈ callNames body,
      nodeId (callIndex body c + 1) ∈ (List.range' 1 (callNames body).length).map nodeId :=
    fun c hc => List.mem_map_of_mem (mem_range_of_mem_callNames hcalls hc)
  cases hjoins with
  | between hedge =>
    obtain ⟨d, c, hsends, rfl, rfl⟩ := (hplan.edges _ _).1 hedge
    exact ⟨.inr (hcall d hsends.2.2.1), .inr (hcall c hsends.2.1)⟩
  | first hstart =>
    obtain ⟨c, hc, rfl, _⟩ := (hplan.starts _).1 hstart
    exact ⟨.inl rfl, .inr (hcall c hc)⟩
  | @last t hend =>
    refine ⟨?_, .inl rfl⟩
    cases t with
    | start => exact .inl rfl
    | node k =>
      obtain ⟨x, hx⟩ := exists_number_of_mem_endTerminals hend
      exact .inr (List.mem_map_of_mem (hplan.mem_range_of_get? hx))

end Body

/-- The boxes of either kind have the first numbers, in order. -/
theorem boxIds_ofBody (kind : BoxKind) (name : String) (body : List Node) :
    ∃ m, boxIds kind (Figure.blocksOf (Chart.ofBody name body).figures) =
      (List.range' 1 m).map (boxId kind) := by
  obtain ⟨m, _, hm⟩ := numbers_draw kind (Scope.collect body).callDeps body {}
  have hcount : Plan.count {} kind = 0 := by cases kind <;> rfl
  have hboxes : Figure.boxesOf kind (Chart.ofBody name body).figures = List.range' 1 m := by
    rw [hcount, Nat.zero_add] at hm
    exact hm
  exact ⟨m, by rw [boxIds_blocksOf, hboxes]⟩

/-! ## The lines of a chart -/

/-- A line that draws an edge from the start or from a node. -/
def IsEdgeLine (line : String) : Prop :=
  ∃ (t : Terminal) (target : String), line = edgeLine t.id target

namespace Chart

/-- The lines `blocks` stand between the line of the start and the first edge line. -/
def Encloses (c : Chart) (blocks : List String) : Prop :=
  c.lines = ["flowchart TD", indentStep ++ "Start([" ++ c.name ++ "])"] ++ blocks ++
      c.edgeLines ++ styleLines ∧
    c.edgeLines ≠ [] ∧ (∀ line ∈ c.edgeLines, IsEdgeLine line) ∧
    ∀ line ∈ blocks, ¬ IsEdgeLine line

theorem isEdgeLine_of_mem {c : Chart} {line : String} (h : line ∈ c.edgeLines) :
    IsEdgeLine line := by
  rw [c.edgeLines_perm.mem_iff, List.mem_append, List.mem_append, List.mem_map, List.mem_map,
    List.mem_map] at h
  rcases h with (⟨⟨j, k⟩, _, rfl⟩ | ⟨k, _, rfl⟩) | ⟨t, _, rfl⟩
  · exact ⟨.node j, nodeId k, rfl⟩
  · exact ⟨.start, nodeId k, rfl⟩
  · exact ⟨t, "End([End])", rfl⟩

/-- The lines of a chart enclose those of its figures, which can be read where edge lines cannot. -/
theorem encloses_linesOf {c : Chart} (hends : c.ends ≠ []) :
    c.Encloses (Figure.linesOf indentStep c.figures) := by
  refine ⟨c.lines_eq, fun hnil => hends ?_, fun line => isEdgeLine_of_mem, ?_⟩
  · have hperm := c.edgeLines_perm
    rw [hnil, List.nil_perm, List.append_eq_nil_iff, List.map_eq_nil_iff] at hperm
    exact hperm.2
  · rintro line hline ⟨t, target, rfl⟩
    have hread := readBlocks_eq_some_iff.1 (readBlocks_linesOf c.figures)
    exact Reading.readLine?_ne_none_of_mem hread _ hline (readLine?_edgeLine t target)

end Chart

/-- **The boxes of a chart are the blocks of the body**: for a body in which the calls have
different names, the lines between the start and the edges are well bracketed, and what they make
shows the body without declarations and blocks that contain no call, in the same order and nesting.
The nodes are `N1`, `N2`, …, one for each call, and the boxes of either kind are `S1`, `S2`, … and
`C1`, `C2`, …, in the order of the lines that declare them; all of them are different, and edges
connect no other nodes than these. -/
theorem boxes_exact (w : WorkflowSource) (hcalls : (callNames w.body).Nodup) :
    let chart := Chart.ofBody w.name w.body
    (w.body ≠ [] → render w = Text.joinWith "\n" chart.lines) ∧
    ∃ blocks forest, chart.Encloses blocks ∧ readBlocks blocks = some forest ∧
      List.Forall₂ Block.Shows forest (Node.keptOf w.body) ∧
      Block.marksOf forest = blocks.filterMap declaration? ∧
      nodeIds forest = (List.range' 1 (Node.callsOf w.body).length).map nodeId ∧
      (∀ kind, boxIds kind forest =
        (List.range' 1 (boxIds kind forest).length).map (boxId kind)) ∧
      (nodeIds forest ++ boxIds .scatter forest ++ boxIds .conditional forest).Nodup ∧
      ∀ a b, chart.Prints a b →
        (a = "Start" ∨ a ∈ nodeIds forest) ∧ (b = "End([End])" ∨ b ∈ nodeIds forest) := by
  intro chart
  have hread := readBlocks_linesOf chart.figures
  have hnodes := nodeIds_ofBody hcalls w.name
  refine ⟨fun hbody => ?_, Figure.linesOf indentStep chart.figures, Figure.blocksOf chart.figures,
    Chart.encloses_linesOf (endTerminals_ne_nil _ _ _), hread,
    shows_draw (nodup_getD_callDeps _) w.body (.start _) hcalls, marksOf_of_readBlocks hread,
    hnodes, fun kind => ?_, ?_, fun a b h => ?_⟩
  · rw [render, if_neg (mt List.isEmpty_iff.1 hbody)]
  · obtain ⟨m, hm⟩ := boxIds_ofBody kind w.name w.body
    rw [hm, List.length_map, List.length_range']
  · obtain ⟨m, hm⟩ := boxIds_ofBody .scatter w.name w.body
    obtain ⟨m', hm'⟩ := boxIds_ofBody .conditional w.name w.body
    rw [hnodes, hm, hm']
    exact nodup_ids List.nodup_range' List.nodup_range' List.nodup_range'
  · rw [hnodes, ← List.length_map (f := (·.name))]
    exact prints_declared hcalls w.name h

/-- A workflow with a call inside two blocks, next to a block that contains only a declaration. -/
def nestedWorkflow : WorkflowSource where
  name := "nested"
  body :=
    [.scatter "x" (some (.ident "xs"))
        [.conditional (some (.boolean true)) [.decl ⟨"n", .primitive .int false, none⟩],
          .conditional (some (.ident "ok"))
            [.decl ⟨"m", .primitive .int false, none⟩,
              .call ⟨["inner"], "inner", [], some ⟨.task, "inner"⟩⟩]],
      .call ⟨["outer"], "outer", [], some ⟨.workflow, "outer"⟩⟩]

theorem boxes_exact_nested :
    (callNames nestedWorkflow.body).Nodup ∧
    ∃ blocks forest,
      (Chart.ofBody nestedWorkflow.name nestedWorkflow.body).Encloses blocks ∧
      readBlocks blocks = some forest ∧
      List.Forall₂ Block.Shows forest
        [.scatter "x" (some (.ident "xs"))
            [.conditional (some (.ident "ok"))
              [.call ⟨["inner"], "inner", [], some ⟨.task, "inner"⟩⟩]],
          .call ⟨["outer"], "outer", [], some ⟨.workflow, "outer"⟩⟩] ∧
      nodeIds forest = ["N1", "N2"] := by
  have hcalls : (callNames nestedWorkflow.body).Nodup := by decide
  obtain ⟨_, blocks, forest, hblocks, hread, hshows, _, hnodes, _⟩ :=
    boxes_exact nestedWorkflow hcalls
  have hids : (List.range' 1 (Node.callsOf nestedWorkflow.body).length).map nodeId =
      ["N1", "N2"] := by decide
  exact ⟨hcalls, blocks, forest, hblocks, hread, hshows, hnodes.trans hids⟩

end Flowchart

end WorkflowDocs
