import WorkflowDocs.Fields
import WorkflowDocs.Wdl.Document
import WorkflowDocs.Wdl.Expr.References

/-!
# Dependencies between calls

A call depends on the calls whose outputs reach it: through its inputs, through declarations in
between, and through the expressions of the blocks around it. Declarations and block expressions
are resolved in the order of the body, against the calls and declarations before them; the inputs
of a call are resolved against the whole body.

## Main definitions

* `Scope`: the calls, declarations and enclosing blocks met so far
* `Scope.depsOf`: the calls an expression depends on
* `Scope.collect`: the scope of a body
* `callDeps`: the dependencies of all calls of a body
-/

namespace WorkflowDocs.Flowchart

/-- The names of `b` that are not in `a`, added to `a`. -/
def union (a b : List String) : List String :=
  b.foldl (fun names n => if names.contains n then names else names ++ [n]) a

/-- What has been met of a body: its calls, the dependencies of its declarations, and the
dependencies that calls have from the blocks around them. -/
structure Scope where
  calls : Fields CallNode := []
  vars : Fields (List String) := []
  context : Fields (List String) := []
  deriving Inhabited

namespace Scope

/-- The calls that one identifier stands for: the call it names, or else the calls that the
declaration it names depends on. -/
def depsOfName (s : Scope) (identifier : String) : List String :=
  let ref := headName identifier
  if s.calls.has ref then [ref] else (s.vars.get? ref).getD []

/-- The calls that an expression depends on. -/
def depsOf (s : Scope) (e : Expr) : List String :=
  e.refs.foldl (fun deps r => union deps (s.depsOfName r)) []

/-- The dependencies inside a block: those from around it and those of its expression. -/
def blockDeps (s : Scope) (inherited : List String) : Option Expr → List String
  | none => inherited
  | some e => union inherited (s.depsOf e)

/-- Adds a call inside blocks with the dependencies `inherited`. -/
def addCall (s : Scope) (inherited : List String) (c : CallNode) : Scope :=
  { s with
    calls := s.calls.put c.name c
    context := if inherited.isEmpty then s.context else s.context.put c.name inherited }

/-- Adds a declaration; one without an expression depends on nothing and is not followed. -/
def addDecl (s : Scope) (d : Decl) : Scope :=
  match d.expr with
  | none => s
  | some e => { s with vars := s.vars.put d.name (s.depsOf e) }

mutual

/-- The scope after an element inside blocks with the dependencies `inherited`. -/
def collectNode (s : Scope) (inherited : List String) : Node → Scope
  | .decl d => s.addDecl d
  | .call c => s.addCall inherited c
  | .scatter _ source body => s.collectOnto (s.blockDeps inherited source) body
  | .conditional condition body => s.collectOnto (s.blockDeps inherited condition) body

/-- The scope after a list of elements. -/
def collectOnto (s : Scope) (inherited : List String) : List Node → Scope
  | [] => s
  | n :: ns => (s.collectNode inherited n).collectOnto inherited ns

end

/-- The scope of a body. -/
def collect (body : List Node) : Scope :=
  collectOnto {} [] body

/-- The calls that a call depends on through its inputs. -/
def inputDeps (s : Scope) (c : CallNode) : List String :=
  c.inputs.foldl (fun deps i =>
    match i.2 with
    | none => deps
    | some e => union deps (s.depsOf e)) []

/-- The dependencies of all calls, in order of appearance. -/
def callDeps (s : Scope) : Fields (List String) :=
  s.calls.map fun (name, c) => (name, union (s.inputDeps c) ((s.context.get? name).getD []))

end Scope

end WorkflowDocs.Flowchart
