import WorkflowDocs.Literal.Parameters
import WorkflowDocs.Literal.Run

/-!
# Open brackets

Inside a bracket stand items with punctuation between them. A layer is an open bracket: what has
been read inside it, how the item that is being read is introduced, and the run of that item. The
whole text counts as a layer without a bracket, and so do the parameters of a function.

## Main definitions

* `Content`: what has been read inside a bracket
* `Role`: how an item is introduced
* `Layer`: an open bracket
* `Layer.comma?`, `Layer.colon?`, `Layer.star?`, …: the punctuation inside a bracket
* `Layer.close?`: what a bracket holds when it closes
-/

namespace WorkflowDocs.Literal

/-- Which arguments may still follow in a call: positions first, then names and stars, and after
two stars no star any more. -/
inductive Phase where
  | positional
  | named
  | doubled
  deriving DecidableEq, Repr

/-- How an item is introduced. -/
inductive Role where
  | plain
  /-- By a star. -/
  | starred
  /-- By two stars. -/
  | doubled
  /-- By a name and the sign `:=`. -/
  | naming
  /-- By a name and an equals sign. -/
  | keyword
  deriving DecidableEq, Repr

/-- What has been read inside a bracket, in reverse. -/
inductive Content where
  /-- Items of a list or tuple. -/
  | items (ts : List Term)
  /-- Members of a set. -/
  | members (ts : List Term)
  /-- Entries of a dictionary, and a key whose value is still to come. -/
  | entries (es : List (Term × Term)) (key : Option Term)
  /-- Arguments of a call; `any` says that there is one. -/
  | arguments (phase : Phase) (any : Bool)
  /-- Indices of an operand, and the colons of the one that is being read. -/
  | slices (colons : Nat) (any : Bool)
  /-- What is handed out by `yield`. -/
  | yielded
  /-- What is handed out by `yield from`. -/
  | yieldedFrom
  /-- The targets after `for`; `any` says that there is one. -/
  | targets (any : Bool)
  /-- What the targets run through, or a condition on them. -/
  | sources
  /-- The parameters of a function. -/
  | parameters (p : Parameters)

/-- An open bracket; the height is that of the highest item before the one that is being read. -/
structure Layer where
  bracket : Option Bracket
  content : Content
  role : Role
  run : Run
  height : Nat

/-- What a closed bracket is: an operand, or something after one. -/
inductive Closing where
  | value (t : Term)
  | call (empty : Bool)
  | index

/-- What follows an argument. -/
def Phase.after? (p : Phase) : Role → Option Phase
  | .plain | .naming => if p = .positional then some p else none
  | .starred => if p = .doubled then none else some p
  | .keyword => some (if p = .positional then .named else p)
  | .doubled => some .doubled

namespace Layer

/-- The layer of the whole text. -/
def whole : Layer where
  bracket := none
  content := .items []
  role := .plain
  run := .start .full 0
  height := 0

/-- The layer of the parameters of a function. -/
def function (floor : Nat) : Layer where
  bracket := none
  content := .parameters {}
  role := .plain
  run := .start .full floor
  height := 0

/-- The layer of an opening bracket. After an operand it holds arguments or indices. -/
def opening? (b : Bracket) (r : Run) : Option Layer :=
  let layer := fun content =>
    some ⟨some b, content, .plain, .start .full (r.nesting.level + bracketLevels), 0⟩
  match r.place, b with
  | .operand _, .curly | .afterIs, .curly => layer (.entries [] none)
  | .operand _, _ | .afterIs, _ => layer (.items [])
  | .operator _ _, .round => layer (.arguments .positional false)
  | .operator _ _, .square => layer (.slices 0 false)
  | _, _ => none

/-- Whether an item may begin. -/
def atItem (l : Layer) : Bool :=
  l.role = .plain && l.run.isEmpty

/-- The height of the highest item. -/
def total (l : Layer) : Nat :=
  max l.height l.run.nesting.total

/-- Goes on to the next item. -/
def next (l : Layer) (content : Content) (reach : Reach) : Layer :=
  { l with
    content
    role := .plain
    run := .start reach l.run.nesting.floor
    height := l.total }

/-- Goes on to an item that has been introduced. -/
def introduce (l : Layer) (role : Role) (reach : Reach) : Layer :=
  { l with role, run := .start reach l.run.nesting.floor }

/-- The item that has been read. -/
def item? (l : Layer) : Option Term :=
  l.run.value?.map fun t =>
    match l.role with
    | .plain => t
    | .starred => .starred t
    | _ => .foreign false

/-- The content with the item that has been read. In curly brackets, the first item without a
colon makes the content the members of a set. -/
def push? (l : Layer) (t : Term) : Option Content :=
  match l.content with
  | .items ts => some (.items (t :: ts))
  | .members ts => some (.members (t :: ts))
  | .entries es (some k) => some (.entries ((k, t) :: es) none)
  | .entries es none =>
    if l.role = .doubled then some (.entries ((.foreign false, t) :: es) none)
    else if es.isEmpty then some (.members [t])
    else none
  | .arguments phase _ => (phase.after? l.role).map fun phase => .arguments phase true
  | .slices _ _ => some (.slices 0 true)
  | .yielded => some .yielded
  | .targets _ => if t.isTarget then some (.targets true) else none
  | .parameters p => some (.parameters { p with place := .item })
  | .yieldedFrom | .sources => none

/-- A comma after an item. The last part of an index may be missing after a colon. -/
def comma? (l : Layer) : Option Layer :=
  match l.content, l.item? with
  | .targets _, some t => (l.push? t).map fun content => l.next content .target
  | .slices (_ + 1) _, none =>
    if l.atItem then some (l.next (.slices 0 true) .full) else none
  | _, some t => (l.push? t).map fun content => l.next content .full
  | _, none => none

/-- A colon after a key, or between the parts of an index. -/
def colon? (l : Layer) : Option Layer :=
  match l.content, l.role with
  | .entries es none, .plain => l.run.value?.map fun k => l.next (.entries es (some k)) .full
  | .slices colons any, .plain =>
    if colons < 2 && (l.run.isEmpty || l.run.value?.isSome) then
      some (l.next (.slices (colons + 1) any) .full)
    else none
  | _, _ => none

/-- A star before an item. -/
def star? (l : Layer) : Option Layer :=
  if !l.atItem then none
  else
    match l.content, l.bracket with
    | .items _, none => none
    | .items _, _ | .members _, _ | .entries [] none, _ | .yielded, _ =>
      some (l.introduce .starred .arithmetic)
    | .arguments phase _, _ =>
      if phase = .doubled then none else some (l.introduce .starred .full)
    | .slices 0 _, _ => some (l.introduce .starred .full)
    | .targets _, _ => some (l.introduce .starred .target)
    | _, _ => none

/-- Two stars before an item. -/
def doubleStar? (l : Layer) : Option Layer :=
  if !l.atItem then none
  else
    match l.content with
    | .entries _ none => some (l.introduce .doubled .arithmetic)
    | .arguments _ _ => some (l.introduce .doubled .full)
    | _ => none

/-- The sign `:=` after a name. -/
def naming? (l : Layer) : Option Layer :=
  if l.role != .plain || l.run.name?.isNone then none
  else
    match l.content, l.bracket with
    | .items _, some _ | .members _, _ | .entries [] none, _ | .arguments .positional _, _
    | .slices 0 _, _ => some (l.introduce .naming .full)
    | _, _ => none

/-- An equals sign after the name of an argument. -/
def equals? (l : Layer) : Option Layer :=
  match l.content with
  | .arguments _ _ =>
    if l.role = .plain && l.run.name?.isSome then some (l.introduce .keyword .full) else none
  | _ => none

/-- The word `yield` at the beginning of a round bracket. -/
def yield? (l : Layer) : Option Layer :=
  match l.bracket, l.content with
  | some .round, .items [] => if l.atItem then some { l with content := .yielded } else none
  | _, _ => none

/-- Whether what has been read may be what is collected from a `for`: the only item of a bracket,
the only entry of a dictionary, or the only argument of a call. Other clauses may stand before. -/
def mayCollect (l : Layer) : Bool :=
  l.run.value?.isSome &&
    match l.content, l.role with
    | .items [], .plain | .items [], .naming => l.bracket.isSome
    | .entries [] none, .plain | .entries [] none, .naming => true
    | .entries [] (some _), .plain => true
    | .arguments _ false, .plain | .arguments _ false, .naming => true
    | .sources, _ => true
    | _, _ => false

/-- The word `for`. -/
def for? (l : Layer) : Option Layer :=
  match l.run.place with
  | .afterAsync => some (l.next (.targets false) .target)
  | _ => if l.mayCollect then some (l.next (.targets false) .target) else none

/-- The word `async` before `for`. -/
def async? (l : Layer) : Option Layer :=
  if l.mayCollect then some { l with run := { l.run with place := .afterAsync } } else none

/-- The word `in`: after the targets of a `for`, or a comparison. -/
def in? (l : Layer) : Option Layer :=
  match l.content with
  | .targets any =>
    if l.atItem then if any then some (l.next .sources .logical) else none
    else (l.item?.filter Term.isTarget).map fun _ => l.next .sources .logical
  | _ => l.run.in?.map fun run => { l with run }

/-- The word `if`: a condition on the targets of a `for`, or between two values. -/
def if? (l : Layer) : Option Layer :=
  match l.content with
  | .sources => l.run.value?.map fun _ => l.next .sources .logical
  | _ => l.run.if?.map fun run => { l with run }

/-- A keyword. The words `from` and `yield` have a meaning inside round brackets only. -/
def keyword? (l : Layer) : Keyword → Option Layer
  | .inWord => l.in?
  | .ifWord => l.if?
  | .forWord => l.for?
  | .asyncWord => l.async?
  | .yieldWord => l.yield?
  | .fromWord =>
    match l.content with
    | .yielded => if l.atItem then some { l with content := .yieldedFrom } else none
    | _ => none
  | k => (l.run.keyword? k).map fun run => { l with run }

/-- Whether an item has begun although nothing of its run has been read. -/
def isPending (l : Layer) : Bool :=
  match l.content with
  | .entries _ (some _) | .slices (_ + 1) _ => true
  | _ => false

/-- What a bracket holds when it closes after its last item. -/
def contents? (l : Layer) : Option Closing :=
  match l.bracket, l.content with
  | some .square, .items ts => some (.value (.list ts.reverse))
  | _, .items ts => some (.value (.tuple ts.reverse))
  | _, .members ts => some (.value (.set ts.reverse))
  | _, .entries es none => some (.value (.dict es.reverse))
  | _, .arguments _ any => some (.call !any)
  | _, .slices _ true => some .index
  | _, .yielded => some (.value (.foreign false))
  | _, _ => none

/-- What a bracket holds when it closes, with the item that has been read if there is one. -/
def lastItem? (l : Layer) : Option Closing :=
  if l.atItem && !l.isPending then l.contents? else l.comma?.bind contents?

/-- What a bracket holds when it closes. A single item in round brackets without a comma is that
item itself; an empty pair of curly brackets is a dictionary. -/
def close? (l : Layer) : Option Closing :=
  match l.bracket, l.content, l.role with
  | _, .yieldedFrom, _ | _, .sources, _ => l.run.value?.map fun _ => .value (.foreign false)
  | some .round, .items [], .plain =>
    if l.run.isEmpty then l.contents? else l.run.value?.map .value
  | some .round, .items [], .naming => l.item?.map .value
  | some .round, .items [], _ => none
  | _, _, _ => l.lastItem?

end Layer

/-- A closed bracket in the run around it, whose highest item has a height. Only the name `set` with
nothing in its brackets is a literal. -/
def Run.receive? (r : Run) (c : Closing) (height : Nat) : Option Run :=
  let after := fun t =>
    some { r with place := .operator t false, nesting := r.nesting.extend height }
  match r.place, c with
  | .operand _, .value t | .afterIs, .value t =>
    some { r with place := .operator t false, nesting := r.nesting.operand (height + 1) }
  | .operator (.name "set") _, .call true => after (.set [])
  | .operator _ _, .index => after (.foreign true)
  | .operator _ _, _ => after (.foreign false)
  | _, _ => none

end WorkflowDocs.Literal
