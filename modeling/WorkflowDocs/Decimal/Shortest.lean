import WorkflowDocs.Decimal.Binary64

/-!
# The fewest digits that read back

A positive finite value `m * 2 ^ q` stands for all reals that round to it: an interval around it
that includes its ends exactly when `m` is even. Its shortest decimal is the one with the fewest
digits in that interval, and of those the nearest.

## Main definitions

* `readsBack`: whether a decimal lies in the interval
* `shortestDigits`: the digits and the power of ten of the shortest decimal
-/

namespace WorkflowDocs.Decimal

/-- Compares `a * 10 ^ e` with `b * 2 ^ q`. -/
def compareScaled (a : Nat) (e : Int) (b : Nat) (q : Int) : Ordering :=
  compare (a * Nat.pow 10 e.toNat * Nat.pow 2 (-q).toNat)
    (b * Nat.pow 2 q.toNat * Nat.pow 10 (-e).toNat)

/-- Whether `digits * 10 ^ e` rounds to `m * 2 ^ q`. The ends of the interval lie half a step
away; below a power of two the steps are half as wide. -/
def readsBack (m : Nat) (q : Int) (digits : Nat) (e : Int) : Bool :=
  let narrow := m = Nat.pow 2 52 && q > leastExponent
  let below := compareScaled digits e (if narrow then 4 * m - 1 else 4 * m - 2) (q - 2)
  let above := compareScaled digits e (4 * m + 2) (q - 2)
  let even := m % 2 = 0
  (below == .gt || (even && below == .eq)) && (above == .lt || (even && above == .eq))

/-- The value `m * 2 ^ q` in units of `10 ^ e`, as a quotient. -/
def inUnits (m : Nat) (q e : Int) : Nat × Nat :=
  let (n, d) := scaleDown m 1 2 (-q)
  let (n, d) := scaleDown n d 10 e
  (n, d)

/-- The decimal with unit `10 ^ e` that reads back, of two the nearer and of two equally near the
even one. -/
def nearestOnGrid (m : Nat) (q e : Int) : Option Nat :=
  let (n, d) := inUnits m q e
  let low := n / d
  match readsBack m q low e, readsBack m q (low + 1) e with
  | true, true => some (roundDiv n d)
  | true, false => some low
  | false, true => some (low + 1)
  | false, false => none

/-- The digits without trailing zeros, which go into the exponent. -/
def stripZeros : Nat → Nat → Int → Nat × Int
  | 0, digits, e => (digits, e)
  | fuel + 1, digits, e =>
    if digits ≠ 0 && digits % 10 = 0 then stripZeros fuel (digits / 10) (e + 1) else (digits, e)

/-- The least `k` with `m * 2 ^ q < 10 ^ k`, searched upwards from an estimate below it. -/
def decimalScale (m : Nat) (q : Int) : Int :=
  let estimate := ((m.log2 : Int) + q) * 30103 / 100000 - 1
  let search := (List.range 4).find? fun i : Nat => compareScaled 1 (estimate + i) m q == .gt
  estimate + (search.getD 4)

/-- The shortest decimal of the positive value `m * 2 ^ q`: digits and power of ten. Seventeen
digits always suffice; the exact value stands in for a failed search. -/
def shortestDigits (m : Nat) (q : Int) : Nat × Int :=
  let k := decimalScale m q
  let hit := (List.range 17).findSome? fun i =>
    let e := k - (i + 1 : Nat)
    (nearestOnGrid m q e).map fun digits => (digits, e)
  match hit with
  | some (digits, e) => stripZeros 20 digits e
  | none =>
    if q ≥ 0 then (m * Nat.pow 2 q.toNat, 0) else (m * Nat.pow 5 (-q).toNat, q)

end WorkflowDocs.Decimal
