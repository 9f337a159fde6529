import WorkflowDocs.Literal.Nesting
import WorkflowDocs.Literal.Term
import WorkflowDocs.Literal.Token

/-!
# Expressions between punctuation

Between two pieces of punctuation stands one expression: operands with operators between them. A
run is such an expression as far as it has been read. Of its operators only a sign before a number
and the sum of a real and an imaginary number belong to literals; an expression with any other
operator is foreign, but still has to be one.

## Main definitions

* `Reach`: which operators an expression may have
* `Level`: which operators may stand before the next operand
* `Run`: an expression as far as it has been read
* `Run.take?`, `Run.sign?`, `Run.keyword?`, …: what may come next
* `Run.value?`: the term of an expression that is complete
-/

namespace WorkflowDocs.Literal

/-- Which operators an expression may have. -/
inductive Reach where
  /-- All of them. -/
  | full
  /-- The condition between two values, of which the other one must follow. -/
  | condition
  /-- All but the choice between two values. -/
  | logical
  /-- Neither that nor logical operators and comparisons. -/
  | arithmetic
  /-- None of them. -/
  | target
  deriving DecidableEq, Repr

/-- Which operators may stand before the next operand. -/
inductive Level where
  /-- Any of them, or the parameters of a function. -/
  | any
  /-- `not`, and all below. -/
  | logical
  /-- Signs, and all below. -/
  | arithmetic
  /-- None. -/
  | bare
  deriving DecidableEq, Repr

/-- The level at which an expression begins. -/
def Reach.level : Reach → Level
  | .full => .any
  | .condition | .logical => .logical
  | .arithmetic => .arithmetic
  | .target => .bare

/-- Whether an expression may have logical operators and comparisons. -/
def Reach.isLogical : Reach → Bool
  | .full | .condition | .logical => true
  | .arithmetic | .target => false

/-- Whether an expression may have operators between operands. -/
def Reach.isArithmetic (r : Reach) : Bool :=
  r != .target

/-- What comes next in an expression. -/
inductive Place where
  | operand (level : Level)
  /-- An operand, or the second word of `is not`. -/
  | afterIs
  /-- The second word of `not in`. -/
  | afterNot
  /-- A name after a point. -/
  | member
  /-- The word `for` after `async`. -/
  | afterAsync
  /-- An operator or the end. The last operand is `fresh` if it is a single name or text, which
  other tokens may still extend. -/
  | operator (last : Term) (fresh : Bool)

/-- What stands before the last operand. -/
inductive Head where
  | nothing
  | signed (negative : Bool)
  | sum (negative : Bool) (left : Term)
  /-- Something that no literal has. -/
  | foreign

/-- An expression as far as it has been read. -/
structure Run where
  reach : Reach
  place : Place
  head : Head
  nesting : Nesting

/-- A last operand with what stands before it. -/
def Head.apply : Head → Term → Term
  | .nothing, t => t
  | .signed negative, t => .signed negative t
  | .sum negative left, t => .sum negative left t
  | .foreign, _ => .foreign false

namespace Run

/-- An expression of which nothing has been read, with the levels in use around it. -/
def start (reach : Reach) (floor : Nat) : Run where
  reach := reach
  place := .operand reach.level
  head := .nothing
  nesting := .start floor

/-- Changes the nesting. -/
def nest (r : Run) (f : Nesting → Nesting) : Run :=
  { r with nesting := f r.nesting }

/-- Whether nothing has been read. -/
def isEmpty (r : Run) : Bool :=
  match r.place, r.head with
  | .operand _, .nothing => true
  | _, _ => false

/-- The term of an expression that is complete. -/
def value? (r : Run) : Option Term :=
  match r.place, r.reach with
  | .operator _ _, .condition => none
  | .operator t _, _ => some (r.head.apply t)
  | _, _ => none

/-- The name that is all that has been read. -/
def name? (r : Run) : Option String :=
  match r.place, r.head with
  | .operator (.name s) true, .nothing => some s
  | _, _ => none

/-- Takes an operand; two operands never stand side by side. -/
def take? (r : Run) (t : Term) (fresh : Bool) : Option Run :=
  match r.place with
  | .operand _ | .afterIs =>
    some { r with place := .operator t fresh, nesting := r.nesting.operand 1 }
  | _ => none

/-- Goes on to an operand after something that no literal has. -/
def expect (r : Run) (place : Place) : Run :=
  { r with place, head := .foreign }

/-- Two texts side by side. Bytes go with bytes only, and a template makes all foreign. -/
def joined? : Term → Term → Option Term
  | .text a, .text b => some (.text (a ++ b))
  | .bytes a, .bytes b => some (.bytes (a ++ b))
  | .text _, .foreign _ | .foreign _, .text _ | .foreign _, .foreign _ => some (.foreign false)
  | _, _ => none

/-- Takes a text, which continues a text right before it. -/
def takeText? (r : Run) (t : Term) : Option Run :=
  match r.place with
  | .operator last true => (joined? last t).map fun t => { r with place := .operator t true }
  | _ => r.take? t true

/-- A name: an operand, or a member of the operand before the point. -/
def takeName? (r : Run) (s : String) : Option Run :=
  match r.place with
  | .member =>
    some { r with place := .operator (.foreign true) false, nesting := r.nesting.extend 0 }
  | _ => r.take? (.name s) true

/-- The point before a member. -/
def point? (r : Run) : Option Run :=
  match r.place with
  | .operator _ _ => some { r with place := .member }
  | _ => none

/-- An operator between two operands. -/
def binary? (r : Run) (strength : Strength) : Option Run :=
  match r.place with
  | .operator _ _ =>
    if r.reach.isArithmetic then
      some ((r.expect (.operand .arithmetic)).nest (·.between strength))
    else none
  | _ => none

/-- An operator before an operand. -/
def unary? (r : Run) (head : Head) : Option Run :=
  let run := some ({ r with place := .operand .arithmetic, head }.nest (·.before .sign))
  match r.place with
  | .operand .bare => none
  | .operand _ | .afterIs => run
  | _ => none

/-- A sign: between two operands, or before one. -/
def sign? (r : Run) (negative : Bool) : Option Run :=
  match r.place, r.head with
  | .operator t _, .nothing | .operator t _, .signed _ =>
    (r.binary? .sum).map fun run => { run with head := .sum negative (r.head.apply t) }
  | .operator _ _, _ => r.binary? .sum
  | _, .nothing => r.unary? (.signed negative)
  | _, _ => r.unary? .foreign

/-- A comparison or a logical operator between two operands. -/
def logical? (r : Run) (strength : Strength) (place : Place) : Option Run :=
  match r.place with
  | .operator _ _ =>
    if r.reach.isLogical then some ((r.expect place).nest (·.between strength)) else none
  | _ => none

/-- A comparison. -/
def compare? (r : Run) (place : Place) : Option Run :=
  r.logical? .comparison place

/-- The word `not`: before an operand, or as a part of `is not` and `not in`. -/
def not? (r : Run) : Option Run :=
  match r.place with
  | .operand .any | .operand .logical =>
    some ((r.expect (.operand .logical)).nest (·.before .negation))
  | .afterIs => some (r.expect (.operand .arithmetic))
  | _ => r.compare? .afterNot

/-- The word `in`, alone or after `not`. -/
def in? (r : Run) : Option Run :=
  match r.place with
  | .afterNot => some (r.expect (.operand .arithmetic))
  | _ => r.compare? (.operand .arithmetic)

/-- The word before the condition between two values. -/
def if? (r : Run) : Option Run :=
  match r.place, r.reach with
  | .operator _ _, .full =>
    some ⟨.condition, .operand .logical, .foreign, r.nesting.between .choice⟩
  | _, _ => none

/-- The word after that condition. -/
def else? (r : Run) : Option Run :=
  match r.place, r.reach with
  | .operator _ _, .condition => some ⟨.full, .operand .any, .foreign, r.nesting.otherwise⟩
  | _, _ => none

/-- The word `await` before an operand without operators. -/
def await? (r : Run) : Option Run :=
  match r.place with
  | .operand .bare => none
  | .operand _ | .afterIs => some ((r.expect (.operand .bare)).nest (·.before .waiting))
  | _ => none

/-- Begins a function, whose body is read at this place once its parameters are. -/
def lambda? (r : Run) : Option Run :=
  match r.place with
  | .operand .any => some ((r.expect (.operand .any)).nest (·.before .function))
  | _ => none

/-- A keyword with a meaning inside an expression. -/
def keyword? (r : Run) : Keyword → Option Run
  | .noneWord => r.take? .null false
  | .trueWord => r.take? (.boolean true) false
  | .falseWord => r.take? (.boolean false) false
  | .andWord => r.logical? .both (.operand .logical)
  | .orWord => r.logical? .either (.operand .logical)
  | .notWord => r.not?
  | .inWord => r.in?
  | .isWord => r.compare? .afterIs
  | .ifWord => r.if?
  | .elseWord => r.else?
  | .awaitWord => r.await?
  | _ => none

end Run

end WorkflowDocs.Literal
