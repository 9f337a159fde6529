/-!
# Nesting of expressions

An expression is a tree: each operator holds its operands, and a tree that is too high cannot be
kept. Reading it takes levels too, for brackets and for the operators that are still waiting for
their right operand, and these are not without end either. Both are measured while the expression
is read, with the operators that wait kept on a stack.

## Main definitions

* `Strength`: how tightly an operator binds
* `Pending`: an operator that waits for its right operand
* `Nesting`: the height of an expression as far as it has been read, and the levels in use
-/

namespace WorkflowDocs.Literal

/-- How tightly an operator binds. -/
inductive Strength where
  /-- A function before its body. -/
  | function
  /-- The choice between two values. -/
  | choice
  | either
  | both
  | negation
  | comparison
  | sum
  | product
  | sign
  | power
  /-- `await` before its operand. -/
  | waiting
  deriving DecidableEq, Repr, Inhabited

namespace Strength

/-- The place in the order from the loosest to the tightest. -/
def rank : Strength → Nat
  | .function | .choice => 0
  | .either => 1
  | .both => 2
  | .negation => 3
  | .comparison => 4
  | .sum => 5
  | .product => 6
  | .sign => 7
  | .power => 8
  | .waiting => 9

/-- Whether operators of this strength side by side are one operator with many operands. -/
def isFlat : Strength → Bool
  | .either | .both | .comparison => true
  | _ => false

/-- Whether the first of two operators side by side is an operand of the second. -/
def bindsLeft : Strength → Bool
  | .sum | .product => true
  | _ => false

/-- The levels in use while the right operand is read. -/
def levels : Strength → Nat
  | .choice | .negation | .sign | .waiting => 1
  | .function | .either | .both | .power => 2
  | .comparison => 3
  | .sum | .product => 0

end Strength

/-- The levels in use inside a bracket. -/
def bracketLevels : Nat := 28

/-- An operator that waits for its right operand: the height of what stands before it, and the
levels in use. -/
structure Pending where
  strength : Strength
  height : Nat
  level : Nat
  deriving DecidableEq, Repr, Inhabited

/-- The operators that wait, from the last one on, the height of the last operand, and the levels
in use around the expression. -/
structure Nesting where
  pending : List Pending
  height : Nat
  floor : Nat
  deriving DecidableEq, Repr, Inhabited

namespace Nesting

/-- An expression of which nothing has been read. -/
def start (floor : Nat) : Nesting where
  pending := []
  height := 0
  floor := floor

/-- The levels in use. -/
def level (n : Nesting) : Nat :=
  (n.pending.head?.map Pending.level).getD n.floor

/-- Adds an operator that waits. -/
def wait (n : Nesting) (strength : Strength) (height : Nat) : Nesting :=
  { n with pending := ⟨strength, height, n.level + strength.levels⟩ :: n.pending }

/-- Gives their right operand to the operators that bind more tightly than a rank. -/
def settle (rank : Nat) : List Pending → Nat → List Pending × Nat
  | [], height => ([], height)
  | p :: ps, height =>
    if p.strength.rank > rank then settle rank ps (max p.height height + 1) else (p :: ps, height)

/-- The expression when an operator follows that binds with a strength. -/
def settled (n : Nesting) (strength : Strength) : Nesting :=
  let (pending, height) := settle strength.rank n.pending n.height
  { n with pending, height }

/-- The height of the expression when it ends here. -/
def total (n : Nesting) : Nat :=
  n.pending.foldl (fun height p => max p.height height + 1) n.height

/-- An operand of a height. -/
def operand (n : Nesting) (height : Nat) : Nesting :=
  { n with height }

/-- A member, arguments or an index after the last operand. -/
def extend (n : Nesting) (height : Nat) : Nesting :=
  { n with height := max n.height height + 1 }

/-- An operator before its only operand. -/
def before (n : Nesting) (strength : Strength) : Nesting :=
  n.wait strength 0

/-- An operator between two operands. -/
def between (n : Nesting) (strength : Strength) : Nesting :=
  let n := n.settled strength
  match n.pending with
  | p :: rest =>
    let left := max p.height n.height
    if p.strength != strength then n.wait strength n.height
    else if strength.isFlat then { n with pending := rest }.wait strength left
    else if strength.bindsLeft then { n with pending := rest }.wait strength (left + 1)
    else n.wait strength n.height
  | [] => n.wait strength n.height

/-- The second word of a choice: the value before it and the condition are read. -/
def otherwise (n : Nesting) : Nesting :=
  let n := n.settled .choice
  match n.pending with
  | p :: rest => { n with pending := rest }.wait p.strength (max p.height n.height)
  | [] => n

end Nesting

end WorkflowDocs.Literal
