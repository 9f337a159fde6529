import WorkflowDocs.Literal.Layer
import WorkflowDocs.Literal.Scan
import WorkflowDocs.Text.Newline

/-!
# Reading structured literals

The reader takes one token at a time. It keeps the open brackets, each with what was read inside
it.

## Main definitions

* `Reader`, `Reader.step`: the state of the reader and its transition
* `Expression`: a term with the measures of the expression it was read from
* `parseTokens?`: the expression that a sequence of tokens stands for
* `parse?`: the expression that a text stands for
* `read`: the value that a text stands for
-/

namespace WorkflowDocs.Literal

/-- The state of the reader: the innermost layer, those around it from the inside, and the most
levels that were in use. -/
structure Reader where
  layer : Layer
  outer : List Layer
  level : Nat

/-- A term with the height of the expression it was read from, and the levels its reading took. -/
structure Expression where
  term : Term
  height : Nat
  level : Nat

namespace Reader

/-- The reader before the first token. -/
def start : Reader where
  layer := .whole
  outer := []
  level := 0

/-- Changes the innermost layer. -/
def withLayer? (r : Reader) (f : Layer → Option Layer) : Option Reader :=
  (f r.layer).map fun layer => { r with layer }

/-- Changes the run of the innermost layer. -/
def withRun? (r : Reader) (f : Run → Option Run) : Option Reader :=
  r.withLayer? fun l => (f l.run).map fun run => { l with run }

/-- Opens a bracket. -/
def enter? (r : Reader) (b : Bracket) : Option Reader :=
  (Layer.opening? b r.layer.run).map fun layer =>
    { r with layer, outer := r.layer :: r.outer }

/-- Closes a bracket; what it held goes to the run around it. -/
def leave? (r : Reader) (b : Bracket) : Option Reader :=
  match r.outer with
  | [] => none
  | l :: ls =>
    if r.layer.bracket = some b then do
      let run ← l.run.receive? (← r.layer.close?) r.layer.total
      return { r with layer := { l with run }, outer := ls }
    else none

/-- Begins a function: its parameters are read in a layer of their own. -/
def function? (r : Reader) : Option Reader :=
  r.layer.run.lambda?.map fun run =>
    { r with layer := .function run.nesting.level, outer := { r.layer with run } :: r.outer }

/-- A colon: it may end the parameters of a function. -/
def colon? (r : Reader) : Option Reader :=
  match r.layer.content, r.outer with
  | .parameters p, l :: ls =>
    if p.mayEnd && (p.place != .value || r.layer.run.value?.isSome) then
      some { r with layer := { l with height := max l.height r.layer.total }, outer := ls }
    else none
  | _, _ => r.withLayer? Layer.colon?

/-- A token of an expression. -/
def exprStep (r : Reader) : Token → Option Reader
  | .opening b => r.enter? b
  | .closing b => r.leave? b
  | .comma => r.withLayer? Layer.comma?
  | .colon => r.colon?
  | .dot => r.withRun? Run.point?
  | .ellipsis => r.withRun? (·.take? .ellipsis false)
  | .equals => r.withLayer? Layer.equals?
  | .naming => r.withLayer? Layer.naming?
  | .sign negative => r.withRun? (·.sign? negative)
  | .tilde => r.withRun? (·.unary? .foreign)
  | .star => (r.withLayer? Layer.star?).or (r.withRun? (·.binary? .product))
  | .doubleStar => (r.withLayer? Layer.doubleStar?).or (r.withRun? (·.binary? .power))
  | .slash | .operator => r.withRun? (·.binary? .product)
  | .comparison => r.withRun? (·.compare? (.operand .arithmetic))
  | .number x => r.withRun? (·.take? (.number x) false)
  | .text cs => r.withRun? (·.takeText? (.text cs))
  | .bytes bs => r.withRun? (·.takeText? (.bytes bs))
  | .template => r.withRun? (·.takeText? (.foreign false))
  | .name s => r.withRun? (·.takeName? s)
  | .keyword .lambdaWord => r.function?
  | .keyword k => r.withLayer? (·.keyword? k)

/-- One token. Among the parameters of a function only their default values are expressions. -/
def tokenStep (r : Reader) (t : Token) : Option Reader :=
  match r.layer.content with
  | .parameters p =>
    if p.place = .value || t = .colon then r.exprStep t
    else (p.step? t).map fun p =>
      let run := Run.start .full r.layer.run.nesting.floor
      { r with layer := { r.layer with content := .parameters p, run } }
  | _ => r.exprStep t

/-- One token, after which the levels in use are noted. -/
def step (r : Reader) (t : Token) : Option Reader :=
  (r.tokenStep t).map fun r => { r with level := max r.level r.layer.run.nesting.level }

/-- The term when the tokens end: no bracket is open, and something was read. -/
def term? (r : Reader) : Option Term :=
  match r.outer, r.layer.content with
  | [], .items [] => r.layer.run.value?
  | [], .items ts =>
    if r.layer.atItem then some (.tuple ts.reverse)
    else r.layer.run.value?.map fun t => .tuple (t :: ts).reverse
  | _, _ => none

/-- The expression when the tokens end. -/
def finish (r : Reader) : Option Expression :=
  r.term?.map fun term => ⟨term, r.layer.total, r.level⟩

end Reader

/-- The expression that a sequence of tokens stands for. -/
def parseTokens? (tokens : List Token) : Option Expression :=
  (tokens.foldlM Reader.step Reader.start).bind Reader.finish

/-- The expression that a text stands for. Blanks in front of it do not count as indentation. -/
def parse? (dialect : Dialect) (s : String) : Option Expression :=
  let cs := s.toList.dropWhile fun c => c = ' ' || c = '\t'
  (tokenize? dialect (Text.unifyNewlineChars false cs)).bind parseTokens?

/-- The value that a text stands for, unless it is given up; a text that is no expression is
malformed. -/
def read (dialect : Dialect) (s : String) : Except Fault Literal :=
  match dialect.limit? s with
  | some limit => .error (.beyond limit)
  | none =>
    match parse? dialect s with
    | some e => e.term.eval
    | none => .error .malformed

end WorkflowDocs.Literal
