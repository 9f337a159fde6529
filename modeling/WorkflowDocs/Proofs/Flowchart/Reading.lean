import WorkflowDocs.Proofs.Flowchart.Lines
import WorkflowDocs.Text.Blank

/-!
# Reading boxes back

The lines between the start and the edges of a chart can be read with a stack: a line that opens a
box puts the box on the stack, and a line that closes one takes the innermost box off, if both are
indented alike. Nothing else is known to the reader, so what it accepts is well bracketed, and what
it returns is the forest that the brackets make.

The lines of figures are read back as these figures, whatever their labels are.

## Main definitions

* `Mark`, `readLine?`: what a line says, and how far it is indented
* `Block`: a node or a box as it is read
* `Reading.step`, `readBlocks`: the reader
* `Block.marks`: the nodes and boxes of a forest in the order of their lines
* `Figure.block`: a figure as it is read

## Main results

* `marksOf_of_readBlocks`: the lines that declare the nodes and boxes of what is read
* `readLine?_edgeLine`: edge lines are not read
* `readBlocks_linesOf`: the lines of figures are read back
-/

namespace WorkflowDocs.Flowchart

/-! ## Lines -/

/-- What a line says, apart from its indentation: it declares a node, opens a box, gives a
direction, or closes a box. -/
inductive Mark where
  | node (id shape : String)
  | opening (kind : BoxKind) (id label : String)
  | direction
  | closing
  deriving DecidableEq, Repr

/-- The kind of a box by the first letter of its identifier. -/
def kindOf? (id : String) : Option BoxKind :=
  match id.toList with
  | 'S' :: _ => some .scatter
  | 'C' :: _ => some .conditional
  | _ => none

/-- The text from the first `sep` on. -/
def fromFirst (sep : Char) (s : String) : String :=
  String.ofList (s.toList.dropWhile (· != sep))

/-- What a line without its indentation says. The identifier of a node ends at the first bracket and
has no blank in it; that of a box ends at the first blank. -/
def markOf? (text : String) : Option Mark :=
  if text = "end" then some .closing
  else if text = "direction TB" then some .direction
  else if Text.startsWith text "subgraph " then
    let header := Text.dropChars 9 text
    let id := Text.before ' ' header
    (kindOf? id).map fun kind => .opening kind id (Text.dropChars 1 (fromFirst ' ' header))
  else if Text.startsWith text "N" && !(Text.before '[' text).toList.contains ' ' then
    some (.node (Text.before '[' text) (fromFirst '[' text))
  else none

/-- The indentation of a line, and what it says. -/
def readLine? (line : String) : Option (Nat × Mark) :=
  (markOf? (Text.trimStart line)).map (Text.indentation line, ·)

/-- The node that a line declares, or the box that it opens. -/
def declaration? (line : String) : Option Mark :=
  match readLine? line with
  | some (_, .node id shape) => some (.node id shape)
  | some (_, .opening kind id label) => some (.opening kind id label)
  | _ => none

/-! ## The reader -/

/-- A node, or a box with what stands in it. -/
inductive Block where
  | node (id shape : String)
  | box (kind : BoxKind) (id label : String) (blocks : List Block)

/-- A box that has not been closed, with the blocks that stand before it. -/
structure OpenBox where
  indent : Nat
  kind : BoxKind
  id : String
  label : String
  before : List Block

/-- What has been read: the open boxes, the innermost first, and the blocks in the innermost. -/
structure Reading where
  boxes : List OpenBox := []
  blocks : List Block := []

namespace Reading

/-- Reads one line. A line that closes a box is indented like the line that opened it. -/
def accept (r : Reading) : Nat × Mark → Option Reading
  | (_, .node id shape) => some { r with blocks := r.blocks ++ [.node id shape] }
  | (indent, .opening kind id label) =>
    some { boxes := ⟨indent, kind, id, label, r.blocks⟩ :: r.boxes, blocks := [] }
  | (_, .direction) => some r
  | (indent, .closing) =>
    match r.boxes with
    | [] => none
    | b :: boxes =>
      if indent = b.indent then
        some { boxes := boxes, blocks := b.before ++ [.box b.kind b.id b.label r.blocks] }
      else none

/-- Reads one line, if it can be read. -/
def step (r : Reading) (line : String) : Option Reading :=
  (readLine? line).bind r.accept

end Reading

/-- The forest that the lines make, if they are well bracketed. -/
def readBlocks (lines : List String) : Option (List Block) :=
  (lines.foldlM Reading.step {}).bind fun r => if r.boxes.isEmpty then some r.blocks else none

theorem readBlocks_eq_some_iff {lines : List String} {forest : List Block} :
    readBlocks lines = some forest ↔ lines.foldlM Reading.step {} = some ⟨[], forest⟩ := by
  unfold readBlocks
  cases lines.foldlM Reading.step {} with
  | none => simp
  | some r =>
    obtain ⟨boxes, blocks⟩ := r
    simp [List.isEmpty_iff]

/-! ## Nodes and boxes in the order of their lines -/

mutual

/-- The nodes and boxes of a block, from the outside in and in order. -/
def Block.marks : Block → List Mark
  | .node id shape => [.node id shape]
  | .box kind id label blocks => .opening kind id label :: Block.marksOf blocks

/-- The nodes and boxes of a list of blocks. -/
def Block.marksOf : List Block → List Mark
  | [] => []
  | b :: bs => b.marks ++ Block.marksOf bs

end

theorem Block.marksOf_append (a b : List Block) :
    Block.marksOf (a ++ b) = Block.marksOf a ++ Block.marksOf b := by
  induction a with
  | nil => rfl
  | cons block blocks ih => rw [List.cons_append, marksOf, ih, marksOf, List.append_assoc]

namespace Reading

/-- The nodes and boxes that have been read. -/
def marks (r : Reading) : List Mark :=
  r.boxes.reverse.flatMap
      (fun b => Block.marksOf b.before ++ [.opening b.kind b.id b.label]) ++
    Block.marksOf r.blocks

/-- One line adds the node that it declares or the box that it opens. A box that is closed was
counted when it was opened, before what stands in it. -/
theorem marks_step {r r' : Reading} {line : String} (h : r.step line = some r') :
    r'.marks = r.marks ++ (declaration? line).toList := by
  obtain ⟨⟨indent, mark⟩, hline, haccept⟩ := Option.bind_eq_some_iff.1 h
  unfold declaration?
  rw [hline]
  cases mark with
  | node id shape =>
    obtain rfl := Option.some.inj haccept
    simp [marks, Block.marksOf_append, Block.marksOf, Block.marks]
  | opening kind id label =>
    obtain rfl := Option.some.inj haccept
    simp [marks, Block.marksOf]
  | direction =>
    obtain rfl := Option.some.inj haccept
    simp
  | closing =>
    obtain ⟨boxes, blocks⟩ := r
    cases boxes with
    | nil => cases haccept
    | cons b boxes =>
      rw [accept, Option.ite_none_right_eq_some] at haccept
      obtain rfl := Option.some.inj haccept.2
      simp [marks, Block.marksOf_append, Block.marksOf, Block.marks]

theorem marks_foldlM {lines : List String} {r r' : Reading}
    (h : lines.foldlM step r = some r') : r'.marks = r.marks ++ lines.filterMap declaration? := by
  induction lines generalizing r with
  | nil =>
    obtain rfl := Option.some.inj h
    simp
  | cons line lines ih =>
    rw [List.foldlM_cons] at h
    obtain ⟨next, hstep, hrest⟩ := Option.bind_eq_some_iff.1 h
    rw [ih hrest, marks_step hstep, List.append_assoc]
    cases hline : declaration? line <;> simp [hline]

end Reading

/-- The nodes and boxes of what is read are those that the lines declare, in the same order. -/
theorem marksOf_of_readBlocks {lines : List String} {forest : List Block}
    (h : readBlocks lines = some forest) :
    Block.marksOf forest = lines.filterMap declaration? :=
  Reading.marks_foldlM (readBlocks_eq_some_iff.1 h)

/-- All lines of what is read can be read. -/
theorem Reading.readLine?_ne_none_of_mem {lines : List String} {r r' : Reading}
    (h : lines.foldlM step r = some r') : ∀ line ∈ lines, readLine? line ≠ none := by
  induction lines generalizing r with
  | nil => simp
  | cons line lines ih =>
    rw [List.foldlM_cons] at h
    obtain ⟨next, hstep, hrest⟩ := Option.bind_eq_some_iff.1 h
    obtain ⟨mark, hline, _⟩ := Option.bind_eq_some_iff.1 hstep
    exact List.forall_mem_cons.2 ⟨by rw [hline]; exact Option.some_ne_none mark, ih hrest⟩

/-! ## The lines of a chart -/

/-- A number of blanks. -/
def blanks (n : Nat) : String :=
  String.ofList (List.replicate n ' ')

theorem indentStep_eq : indentStep = blanks 4 := by decide

theorem blanks_append_indentStep (n : Nat) : blanks n ++ indentStep = blanks (n + 4) := by
  rw [indentStep_eq, blanks, blanks, blanks, ← String.ofList_append,
    List.replicate_append_replicate]

theorem isBlank_of_mem_blanks {n : Nat} : ∀ c ∈ (blanks n).toList, Text.isBlank c = true := by
  intro c hc
  rw [blanks, String.toList_ofList] at hc
  rw [List.eq_of_mem_replicate hc]
  decide

/-- Blanks before a text are trimmed, and no more, unless it begins with a blank itself. -/
theorem trimStart_blanks (n : Nat) {text : String} {c : Char}
    (htext : text.toList.head? = some c) (hc : Text.isBlank c = false) :
    Text.trimStart (blanks n ++ text) = text := by
  obtain ⟨cs, htext⟩ := List.head?_eq_some_iff.1 htext
  rw [Text.trimStart, String.toList_append, List.dropWhile_append_of_pos isBlank_of_mem_blanks,
    htext, List.dropWhile_cons_of_neg (by simp [hc]), ← htext, String.ofList_toList]

/-- Blanks before a text are its indentation, unless it begins with a blank itself. -/
theorem readLine?_blanks (n : Nat) {text : String} {c : Char}
    (htext : text.toList.head? = some c) (hc : Text.isBlank c = false) :
    readLine? (blanks n ++ text) = (markOf? text).map (n, ·) := by
  have hindent : Text.indentation (blanks n ++ text) = n := by
    obtain ⟨cs, htext⟩ := List.head?_eq_some_iff.1 htext
    rw [Text.indentation, String.toList_append,
      List.takeWhile_append_of_pos isBlank_of_mem_blanks, htext,
      List.takeWhile_cons_of_neg (by simp [hc]), List.append_nil, blanks, String.toList_ofList,
      List.length_replicate]
  rw [readLine?, hindent, trimStart_blanks n htext hc]

/-- A text is cut where the separator stands first. -/
theorem before_append {sep : Char} {a b : String} {cs : List Char} (ha : sep ∉ a.toList)
    (hb : b.toList = sep :: cs) : Text.before sep (a ++ b) = a := by
  rw [Text.before, String.toList_append, List.takeWhile_append_of_pos, hb,
    List.takeWhile_cons_of_neg (by simp), List.append_nil, String.ofList_toList]
  exact fun c hc => by simpa using ne_of_mem_of_not_mem hc ha

theorem fromFirst_append {sep : Char} {a b : String} {cs : List Char} (ha : sep ∉ a.toList)
    (hb : b.toList = sep :: cs) : fromFirst sep (a ++ b) = b := by
  rw [fromFirst, String.toList_append, List.dropWhile_append_of_pos, hb,
    List.dropWhile_cons_of_neg (by simp), ← hb, String.ofList_toList]
  exact fun c hc => by simpa using ne_of_mem_of_not_mem hc ha

/-- The shape of a node with its label: a rectangle for a task, slanted otherwise. -/
def nodeShape (label : String) (isTask : Bool) : String :=
  if isTask then "[\"" ++ label ++ "\"]" else "[/\"" ++ label ++ "\"/]"

/-- The label of a box as it is written. -/
def boxLabel (label : String) : String :=
  "[\"" ++ label ++ "\"]"

theorem nodeLine_eq (k : Nat) (label : String) (isTask : Bool) :
    nodeLine k label isTask = nodeId k ++ nodeShape label isTask := by
  cases isTask <;> simp [nodeLine, nodeShape, String.append_assoc]

theorem toList_nodeShape (label : String) (isTask : Bool) :
    ∃ cs, (nodeShape label isTask).toList = '[' :: cs := by
  cases isTask <;> simp [nodeShape]

/-- What a line says that begins like the line of a node. -/
theorem markOf?_of_head_node {text : String} (h : text.toList.head? = some 'N') :
    markOf? text = if ' ' ∈ (Text.before '[' text).toList then none
      else some (.node (Text.before '[' text) (fromFirst '[' text)) := by
  obtain ⟨cs, hlist⟩ := List.head?_eq_some_iff.1 h
  have hne : ∀ s : String, s.toList.head? ≠ some 'N' → text ≠ s := fun s hs heq => hs (heq ▸ h)
  have hsubgraph : Text.startsWith text "subgraph " = false := by
    rw [Text.startsWith, hlist]
    rfl
  have hnode : Text.startsWith text "N" = true := by
    rw [Text.startsWith, hlist]
    rfl
  rw [markOf?, if_neg (hne _ (by decide)), if_neg (hne _ (by decide)), hsubgraph, hnode]
  by_cases hblank : ' ' ∈ (Text.before '[' text).toList <;> simp [hblank]

theorem markOf?_nodeLine (k : Nat) (label : String) (isTask : Bool) :
    markOf? (nodeLine k label isTask) = some (.node (nodeId k) (nodeShape label isTask)) := by
  obtain ⟨cs, hshape⟩ := toList_nodeShape label isTask
  have hid : '[' ∉ (nodeId k).toList := not_mem_nodeId (by decide) (by decide) k
  rw [nodeLine_eq, markOf?_of_head_node (by simp [nodeId]), before_append hid hshape,
    fromFirst_append hid hshape, if_neg (blank_not_mem_nodeId k)]

theorem kindOf?_boxId (kind : BoxKind) (k : Nat) : kindOf? (boxId kind k) = some kind := by
  cases kind <;> simp [kindOf?, boxId]

theorem blank_not_mem_boxId (kind : BoxKind) (k : Nat) : ' ' ∉ (boxId kind k).toList := by
  have hdigits : ' ' ∉ (Decimal.natText k).toList := Decimal.not_mem_natText (by decide) k
  cases kind <;> simpa [boxId] using hdigits

theorem markOf?_subgraph (kind : BoxKind) (k : Nat) (label : String) :
    markOf? ("subgraph " ++ (boxId kind k ++ (" " ++ boxLabel label))) =
      some (.opening kind (boxId kind k) (boxLabel label)) := by
  have hblank := blank_not_mem_boxId kind k
  have hlabel : (" " ++ boxLabel label).toList = ' ' :: (boxLabel label).toList := by simp
  have hheader : Text.dropChars 9 ("subgraph " ++ (boxId kind k ++ (" " ++ boxLabel label))) =
      boxId kind k ++ (" " ++ boxLabel label) := by
    rw [Text.dropChars, String.toList_append, List.drop_left' (by decide), String.ofList_toList]
  have hdrop : Text.dropChars 1 (" " ++ boxLabel label) = boxLabel label := by
    rw [Text.dropChars, hlabel, List.drop_one, List.tail_cons, String.ofList_toList]
  have hsubgraph :
      Text.startsWith ("subgraph " ++ (boxId kind k ++ (" " ++ boxLabel label))) "subgraph " =
        true := by
    rw [Text.startsWith, String.toList_append]
    exact List.isPrefixOf_iff_prefix.2 (List.prefix_append _ _)
  have hne : ∀ s : String, s.toList.head? ≠ some 's' →
      "subgraph " ++ (boxId kind k ++ (" " ++ boxLabel label)) ≠ s := by
    rintro s hs rfl
    exact hs (by simp)
  rw [markOf?, if_neg (hne _ (by decide)), if_neg (hne _ (by decide)), if_pos hsubgraph]
  simp only [hheader, before_append hblank hlabel, fromFirst_append hblank hlabel, hdrop,
    kindOf?_boxId, Option.map_some]

/-- An edge line is no line of a node or a box. The arrow puts a blank before the first bracket. -/
theorem readLine?_edgeLine (t : Terminal) (target : String) :
    readLine? (edgeLine t.id target) = none := by
  have hline : edgeLine t.id target = blanks 4 ++ (t.id ++ (" --> " ++ target)) := by
    rw [edgeLine, indentStep_eq, String.append_assoc, String.append_assoc]
  rw [hline]
  cases t with
  | start =>
    rw [readLine?_blanks 4 (c := 'S') (by simp [Terminal.id]) (by decide)]
    have hne : ∀ s : String, s.toList.head? ≠ some 'S' → "Start" ++ (" --> " ++ target) ≠ s := by
      rintro s hs rfl
      exact hs (by simp)
    rw [Terminal.id, markOf?, if_neg (hne _ (by decide)), if_neg (hne _ (by decide))]
    simp [Text.startsWith]
  | node k =>
    have hblank : ' ' ∈ (Text.before '[' (nodeId k ++ (" --> " ++ target))).toList := by
      have hid : '[' ∉ (nodeId k).toList := not_mem_nodeId (by decide) (by decide) k
      rw [Text.before, String.toList_append, List.takeWhile_append_of_pos fun c hc => by
        simpa using ne_of_mem_of_not_mem hc hid]
      simp
    rw [readLine?_blanks 4 (c := 'N') (by simp [Terminal.id, nodeId]) (by decide), Terminal.id,
      markOf?_of_head_node (by simp [nodeId]), if_pos hblank]
    rfl

/-! ## Figures -/

mutual

/-- A figure as it is read. -/
def Figure.block : Figure → Block
  | .node number label isTask => .node (nodeId number) (nodeShape label isTask)
  | .box kind number label children =>
    .box kind (boxId kind number) (boxLabel label) (Figure.blocksOf children)

/-- A list of figures as it is read. -/
def Figure.blocksOf : List Figure → List Block
  | [] => []
  | f :: fs => f.block :: Figure.blocksOf fs

end

theorem readLine?_nodeLine (n k : Nat) (label : String) (isTask : Bool) :
    readLine? (blanks n ++ nodeLine k label isTask) =
      some (n, .node (nodeId k) (nodeShape label isTask)) := by
  rw [readLine?_blanks n (c := 'N') (by simp [nodeLine_eq, nodeId]) (by decide),
    markOf?_nodeLine, Option.map_some]

theorem readLine?_subgraph (n : Nat) (kind : BoxKind) (k : Nat) (label : String) :
    readLine? (blanks n ++ "subgraph " ++ boxId kind k ++ " [\"" ++ label ++ "\"]") =
      some (n, .opening kind (boxId kind k) (boxLabel label)) := by
  have hline : blanks n ++ "subgraph " ++ boxId kind k ++ " [\"" ++ label ++ "\"]" =
      blanks n ++ ("subgraph " ++ (boxId kind k ++ (" " ++ boxLabel label))) := by
    simp only [boxLabel, String.append_assoc, ← String.toList_inj, String.toList_append]
    rfl
  rw [hline, readLine?_blanks n (c := 's') (by simp) (by decide), markOf?_subgraph,
    Option.map_some]

theorem readLine?_direction (n : Nat) :
    readLine? (blanks n ++ "direction TB") = some (n, .direction) :=
  readLine?_blanks n (c := 'd') rfl (by decide)

theorem readLine?_end (n : Nat) : readLine? (blanks n ++ "end") = some (n, .closing) :=
  readLine?_blanks n (c := 'e') rfl (by decide)

namespace Reading

/-- Lines that are read inside a box, leaving it open, are read as the box with the lines around
them that open and close it. -/
theorem foldlM_box {n k : Nat} {kind : BoxKind} {label : String} {r : Reading} {lines : List String}
    {blocks : List Block}
    (h : lines.foldlM step ⟨⟨n, kind, boxId kind k, boxLabel label, r.blocks⟩ :: r.boxes, []⟩ =
      some ⟨⟨n, kind, boxId kind k, boxLabel label, r.blocks⟩ :: r.boxes, blocks⟩) :
    List.foldlM step r
        ([blanks n ++ "subgraph " ++ boxId kind k ++ " [\"" ++ label ++ "\"]",
          blanks (n + 4) ++ "direction TB"] ++ lines ++ [blanks n ++ "end"]) =
      some { r with
        blocks := r.blocks ++ [.box kind (boxId kind k) (boxLabel label) blocks] } := by
  have hopen : List.foldlM step r
      [blanks n ++ "subgraph " ++ boxId kind k ++ " [\"" ++ label ++ "\"]",
        blanks (n + 4) ++ "direction TB"] =
      some ⟨⟨n, kind, boxId kind k, boxLabel label, r.blocks⟩ :: r.boxes, []⟩ := by
    simp [step, readLine?_subgraph, readLine?_direction, accept]
  rw [List.foldlM_append, List.foldlM_append, hopen, Option.bind_eq_bind, Option.bind_some, h,
    Option.bind_some]
  simp [step, readLine?_end, accept]

mutual

/-- The lines of a figure are read as a block, inside whatever boxes are open. -/
theorem foldlM_lines : ∀ (n : Nat) (r : Reading) (f : Figure),
    (f.lines (blanks n)).foldlM step r = some { r with blocks := r.blocks ++ [f.block] }
  | n, r, .node number label isTask => by
    rw [Figure.lines, List.foldlM_cons, step, readLine?_nodeLine]
    rfl
  | n, r, .box kind number label children => by
    rw [Figure.lines, blanks_append_indentStep]
    exact foldlM_box (foldlM_linesOf (n + 4) _ children)

theorem foldlM_linesOf : ∀ (n : Nat) (r : Reading) (figures : List Figure),
    (Figure.linesOf (blanks n) figures).foldlM step r =
      some { r with blocks := r.blocks ++ Figure.blocksOf figures }
  | n, r, [] => by simp [Figure.linesOf, Figure.blocksOf]
  | n, r, f :: fs => by
    rw [Figure.linesOf, List.foldlM_append, foldlM_lines n r f, Option.bind_eq_bind,
      Option.bind_some, foldlM_linesOf n _ fs, Figure.blocksOf, List.append_assoc,
      List.singleton_append]

end

end Reading

/-- The lines of figures are well bracketed, and are read as these figures. -/
theorem readBlocks_linesOf (figures : List Figure) :
    readBlocks (Figure.linesOf indentStep figures) = some (Figure.blocksOf figures) := by
  rw [readBlocks_eq_some_iff, indentStep_eq, Reading.foldlM_linesOf]
  rfl

end WorkflowDocs.Flowchart
