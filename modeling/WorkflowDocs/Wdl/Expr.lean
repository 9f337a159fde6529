import WorkflowDocs.Decimal.Binary64
import WorkflowDocs.Wdl.Type

/-!
# Expressions of a workflow source

The syntax of expressions. A reference to a variable is a `get` around an `ident`; a reference to
the output of a call is a `get` around an identifier with a dot in it.

## Main definitions

* `Expr`, `Piece`: expressions and the pieces of an interpolated string
* `isIdentName`: the names that identifiers may have
-/

namespace WorkflowDocs

mutual

/-- An expression. -/
inductive Expr where
  | boolean (value : Bool)
  | int (value : Int)
  | float (value : Decimal.Binary64)
  | null
  /-- A string; its quotation marks are its first and last piece. -/
  | string (pieces : List Piece)
  /-- An interpolated expression with its options. -/
  | placeholder (options : List (String × String)) (value : Expr)
  /-- An array, with its type if that is known. -/
  | array (items : List Expr) (type : Option WdlType)
  | pair (left right : Expr)
  | map (entries : List (Expr × Expr))
  | struct (members : List (String × Expr))
  | ifThenElse (condition yes no : Expr)
  | ident (name : String)
  /-- Access to a value, and to one of its members if one is named. -/
  | get (value : Expr) (member : Option String)
  /-- An operator or function applied to arguments; operators have names that begin with an
  underscore. -/
  | apply (function : String) (args : List Expr)

/-- A piece of a string: text, or an interpolated expression. -/
inductive Piece where
  | text (s : String)
  | hole (options : List (String × String)) (value : Expr)

end

instance : Inhabited Expr := ⟨.null⟩

instance : Inhabited Piece := ⟨.text ""⟩

/-- Whether an identifier may have a name: the parts between its dots are not empty. -/
def isIdentName (name : String) : Bool :=
  (Text.cutCharsAt '.' name.toList).all (!·.isEmpty)

/-- The binary operators. -/
inductive BinaryOp where
  | mul
  | div
  | rem
  | add
  | interpolationAdd
  | sub
  | lt
  | lte
  | gt
  | gte
  | eq
  | ne
  | and
  | or
  deriving DecidableEq, Repr

namespace BinaryOp

/-- All binary operators with the names they are applied under. -/
def table : List (String × BinaryOp) :=
  [("_mul", .mul), ("_div", .div), ("_rem", .rem), ("_add", .add),
    ("_interpolation_add", .interpolationAdd), ("_sub", .sub), ("_lt", .lt), ("_lte", .lte),
    ("_gt", .gt), ("_gte", .gte), ("_eqeq", .eq), ("_neq", .ne), ("_land", .and), ("_lor", .or)]

/-- The operator that is applied under a name. -/
def ofName? (name : String) : Option BinaryOp :=
  table.lookup name

/-- The sign between the operands. -/
def symbol : BinaryOp → String
  | .mul => "*"
  | .div => "/"
  | .rem => "%"
  | .add | .interpolationAdd => "+"
  | .sub => "-"
  | .lt => "<"
  | .lte => "<="
  | .gt => ">"
  | .gte => ">="
  | .eq => "=="
  | .ne => "!="
  | .and => "&&"
  | .or => "||"

/-- How strongly the operator binds its operands. -/
def precedence : BinaryOp → Nat
  | .mul | .div | .rem => 7
  | .add | .interpolationAdd | .sub => 6
  | .lt | .lte | .gt | .gte => 5
  | .eq | .ne => 4
  | .and | .or => 3

end BinaryOp

/-- How strongly an applied operator or function binds; functions and subscripts bind more
strongly than every binary operator. -/
def applyPrecedence (function : String) : Nat :=
  match BinaryOp.ofName? function with
  | some op => op.precedence
  | none => 100

end WorkflowDocs
