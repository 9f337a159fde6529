/-!
# Double precision numbers

A number of a workflow source is read to the nearest double precision value. The value is held as
a sign, a whole significand and a power of two, so that everything below is exact arithmetic on
whole numbers.

## Main definitions

* `Binary64`: the values
* `roundDiv`: a quotient rounded to the nearest whole number, a half to the even one
* `Binary64.ofQuotient`: the value nearest to a quotient
* `Binary64.ofDecimal`: the value nearest to a decimal
-/

namespace WorkflowDocs.Decimal

/-- A double precision value. A finite one is `significand * 2 ^ exponent` with a sign; its
significand is below `2 ^ 53`, and at least `2 ^ 52` unless the exponent is the least one. -/
inductive Binary64 where
  | finite (negative : Bool) (significand : Nat) (exponent : Int)
  | infinite (negative : Bool)
  | nan
  deriving DecidableEq, Repr, Inhabited

/-- The least exponent of a finite value. -/
def leastExponent : Int := -1074

/-- The greatest exponent of a finite value. -/
def greatestExponent : Int := 971

/-- `num / den` rounded to the nearest whole number; of two equally near the even one. -/
def roundDiv (num den : Nat) : Nat :=
  let q := num / den
  let r := num % den
  if 2 * r < den then q
  else if 2 * r > den then q + 1
  else if q % 2 = 0 then q else q + 1

/-- The quotient `num / (den * base ^ exponent)` as a pair of whole numbers. -/
def scaleDown (num den base : Nat) (exponent : Int) : Nat × Nat :=
  (num * Nat.pow base (-exponent).toNat, den * Nat.pow base exponent.toNat)

/-- The greatest `e` with `2 ^ e ≤ num / den`, for positive numbers. -/
def floorLog2 (num den : Nat) : Int :=
  let estimate : Int := (num.log2 : Int) - (den.log2 : Int)
  let (n, d) := scaleDown num den 2 estimate
  if d ≤ n then estimate else estimate - 1

/-- The double precision value nearest to `num / den`. -/
def Binary64.ofQuotient (negative : Bool) (num den : Nat) : Binary64 :=
  if num = 0 then .finite negative 0 leastExponent
  else
    let exponent := max (floorLog2 num den - 52) leastExponent
    let (n, d) := scaleDown num den 2 exponent
    let m := roundDiv n d
    let (m, exponent) := if m = Nat.pow 2 53 then (Nat.pow 2 52, exponent + 1) else (m, exponent)
    if exponent > greatestExponent then .infinite negative else .finite negative m exponent

/-- The double precision value nearest to `digits * 10 ^ exponent`. Decimals beyond every
finite value, or closer to zero than half the least one, are decided by their size alone. -/
def Binary64.ofDecimal (negative : Bool) (digits : Nat) (exponent : Int) : Binary64 :=
  let places : Int := (Nat.toDigits 10 digits).length
  if digits = 0 || places + exponent < -330 then .finite negative 0 leastExponent
  else if places + exponent > 310 then .infinite negative
  else
    let (n, d) := scaleDown digits 1 10 (-exponent)
    Binary64.ofQuotient negative n d

/-- The value with the other sign. -/
def Binary64.neg : Binary64 → Binary64
  | .finite s m e => .finite (!s) m e
  | .infinite s => .infinite (!s)
  | .nan => .nan

/-- Whether the value has a minus sign. -/
def Binary64.isNegative : Binary64 → Bool
  | .finite s _ _ => s
  | .infinite s => s
  | .nan => false

/-- Whether the value is a zero. -/
def Binary64.isZero : Binary64 → Bool
  | .finite _ m _ => m == 0
  | _ => false

end WorkflowDocs.Decimal
