import WorkflowDocs.Text.Cut
import WorkflowDocs.Wdl.Expr

/-!
# References in expressions

The flowchart follows the identifiers that an expression passes on: through member access,
interpolation, applications and the items of an array. An identifier with dots in it refers to
its first part.

## Main definitions

* `Expr.refs`: the identifiers that the flowchart follows
* `headName`: what an identifier refers to
-/

namespace WorkflowDocs

mutual

/-- The identifiers that the flowchart follows, in order of appearance. -/
def Expr.refs : Expr → List String
  | .ident name => [name]
  | .get value _ => value.refs
  | .placeholder _ value => value.refs
  | .apply _ args => Expr.refsOf args
  | .array items _ => Expr.refsOf items
  | _ => []

/-- The followed identifiers of a list of expressions. -/
def Expr.refsOf : List Expr → List String
  | [] => []
  | e :: es => e.refs ++ Expr.refsOf es

end

/-- What an identifier refers to: its part before the first dot. -/
def headName (identifier : String) : String :=
  Text.before '.' identifier

end WorkflowDocs
