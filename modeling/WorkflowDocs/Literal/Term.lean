import WorkflowDocs.Literal.Basic
import WorkflowDocs.Literal.Number

/-!
# Terms and their values

A literal is first read into a term, which still has signs, sums and names in it. Evaluation goes
from left to right and stops at the first fault: a part that is no literal, or a key that cannot
be one. An expression that no literal has is a part of which nothing is known but whether something
can be assigned to it.

## Main definitions

* `Term`: what the brackets and punctuation of a literal say
* `Fault`: why a term has no value
* `Term.eval`: the value of a term
-/

namespace WorkflowDocs.Literal

/-- A literal as written. -/
inductive Term where
  | null
  | ellipsis
  | boolean (b : Bool)
  | number (x : Number)
  | text (codes : List Nat)
  | bytes (bs : List Nat)
  | name (s : String)
  | signed (negative : Bool) (t : Term)
  /-- The sum or the difference of two terms. -/
  | sum (negative : Bool) (left right : Term)
  | list (items : List Term)
  | tuple (items : List Term)
  | set (items : List Term)
  | dict (entries : List (Term × Term))
  /-- An item with a star before it. -/
  | starred (t : Term)
  /-- An expression that no literal has. -/
  | foreign (assignable : Bool)
  deriving Inhabited

/-- Why a term has no value. -/
inductive Fault where
  /-- It holds something that is not a literal. -/
  | malformed
  /-- A collection that can change stands as a key. -/
  | unhashable (kind : Collection)
  /-- A whole number is too large for a part of a complex number. -/
  | tooLarge
  /-- It is given up. -/
  | beyond (limit : Limit)
  deriving DecidableEq, Repr

/-! ## Targets -/

mutual

/-- Whether something can be assigned to a term. -/
def Term.isTarget : Term → Bool
  | .name _ => true
  | .foreign assignable => assignable
  | .list items | .tuple items => Term.areTargets items
  | .starred t => t.isTarget
  | _ => false

/-- Whether something can be assigned to each of the terms. -/
def Term.areTargets : List Term → Bool
  | [] => true
  | t :: ts => t.isTarget && Term.areTargets ts

end

/-! ## Values -/

/-- The value of a number. -/
def Number.value : Number → Literal
  | .int n => .int n
  | .float x => .float x
  | .imaginary x => .complex (.finite false 0 Decimal.leastExponent) x

/-- The value of a number after a minus sign. -/
def Number.negated : Number → Literal
  | .int n => .int (-(n : Int))
  | .float x => .float x.neg
  | .imaginary x => .complex (.finite true 0 Decimal.leastExponent) x.neg

/-- The value of a number after a sign. -/
def Number.signedValue (negative : Bool) (x : Number) : Literal :=
  if negative then x.negated else x.value

/-- The double precision value nearest to a real number. -/
def realPart : Literal → Except Fault Decimal.Binary64
  | .int n =>
    match Decimal.Binary64.ofQuotient (n < 0) n.natAbs 1 with
    | .infinite _ => .error .tooLarge
    | x => .ok x
  | .float x => .ok x
  | _ => .error .malformed

/-- The sum or the difference of a real and an imaginary number. A zero that comes out of a sum
is positive unless both its terms were negative. -/
def complexSum (negative : Bool) (re im : Decimal.Binary64) : Literal :=
  let zero := Decimal.Binary64.finite false 0 Decimal.leastExponent
  if negative then .complex re (if im.isZero then zero else im.neg)
  else .complex (if re.isZero then zero else re) im

/-- The value of a number with or without a sign: nothing else is added to an imaginary number. -/
def Term.signedNumber : Term → Except Fault Literal
  | .number x => .ok x.value
  | .signed negative (.number x) => .ok (x.signedValue negative)
  | _ => .error .malformed

/-- The value of a sum: that of a real and an imaginary number. -/
def sumValue (negative : Bool) (left right : Term) : Except Fault Literal :=
  match right with
  | .number (.imaginary im) => do
    let re ← realPart (← left.signedNumber)
    return complexSum negative re im
  | _ => .error .malformed

mutual

/-- The value of a term. -/
def Term.eval : Term → Except Fault Literal
  | .null => .ok .null
  | .ellipsis => .ok .ellipsis
  | .boolean b => .ok (.boolean b)
  | .number x => .ok x.value
  | .text cs => .ok (ofCodes cs)
  | .bytes bs => .ok (.bytes bs)
  | .signed negative (.number x) => .ok (x.signedValue negative)
  | .sum negative left right => sumValue negative left right
  | .list items => (Term.evalItems items).map .list
  | .tuple items => (Term.evalItems items).map .tuple
  | .set items => (Term.evalMembers [] items).map .set
  | .dict entries => (Term.evalEntries [] entries).map .dict
  | .name _ | .signed _ _ | .starred _ | .foreign _ => .error .malformed

/-- The values of the items of a list. -/
def Term.evalItems : List Term → Except Fault (List Literal)
  | [] => .ok []
  | t :: ts => do
    let v ← t.eval
    let vs ← Term.evalItems ts
    return v :: vs

/-- The members of a set, added one after the other. -/
def Term.evalMembers (sofar : List Literal) : List Term → Except Fault (List Literal)
  | [] => .ok sofar
  | t :: ts => do
    let v ← t.eval
    match v.keyBlocker? with
    | none => Term.evalMembers (putMember v sofar) ts
    | some kind => .error (.unhashable kind)

/-- The entries of a dictionary, written one after the other. -/
def Term.evalEntries (sofar : List (Literal × Literal)) :
    List (Term × Term) → Except Fault (List (Literal × Literal))
  | [] => .ok sofar
  | (k, t) :: es => do
    let key ← k.eval
    let value ← t.eval
    match key.keyBlocker? with
    | none => Term.evalEntries (putEntry key value sofar) es
    | some kind => .error (.unhashable kind)

end

end WorkflowDocs.Literal
