import WorkflowDocs.Decimal.Shortest

/-!
# Writing and reading decimals

How a number is laid out once its digits are chosen, how it is written to a fixed number of
places, and how decimal text is read.

## Main definitions

* `Layout`, `Layout.write`: the decisions of a notation and a value written in it
* `writeFixed`: a value with a fixed number of places
* `readDecimal?`: decimal text to a value
-/

namespace WorkflowDocs.Decimal

/-- The decisions of a number notation: which powers of ten are written positionally, and how
many digits an exponent has at least. -/
structure Layout where
  /-- The least power of ten of the leading digit that is written positionally. -/
  positionalFrom : Int
  /-- The power of ten of the leading digit from which an exponent is written. -/
  exponentFrom : Int
  /-- The least number of digits of an exponent. -/
  exponentWidth : Nat

/-- The decimal digits of a number. -/
def digitChars (n : Nat) : List Char :=
  Nat.toDigits 10 n

/-- A number as decimal text. -/
def natText (n : Nat) : String :=
  String.ofList (digitChars n)

/-- A whole number as decimal text with its sign. -/
def intText (n : Int) : String :=
  if n < 0 then "-" ++ natText n.natAbs else natText n.natAbs

/-- The digits padded with leading zeros to a width. -/
def padLeft (width : Nat) (cs : List Char) : List Char :=
  List.replicate (width - cs.length) '0' ++ cs

/-- Positional text of `digits * 10 ^ e`, with at least one digit on each side of the point. -/
def positional (digits : List Char) (e : Int) : List Char :=
  if e ≥ 0 then digits ++ List.replicate e.toNat '0' ++ ['.', '0']
  else
    let places := (-e).toNat
    let digits := padLeft (places + 1) digits
    digits.take (digits.length - places) ++ '.' :: digits.drop (digits.length - places)

/-- Text with an exponent: the first digit, the others after a point, the signed exponent. -/
def scientific (layout : Layout) (digits : List Char) (lead : Int) : List Char :=
  let mantissa :=
    match digits with
    | [] => []
    | [d] => [d]
    | d :: ds => d :: '.' :: ds
  let sign := if lead < 0 then '-' else '+'
  mantissa ++ 'e' :: sign :: padLeft layout.exponentWidth (digitChars lead.natAbs)

/-- A finite value without its sign. -/
def Layout.writeMagnitude (layout : Layout) (m : Nat) (q : Int) : List Char :=
  if m = 0 then ['0', '.', '0']
  else
    let (digits, e) := shortestDigits m q
    let cs := digitChars digits
    let lead := e + (cs.length : Int) - 1
    if layout.positionalFrom ≤ lead && lead < layout.exponentFrom then positional cs e
    else scientific layout cs lead

/-- The minus sign of a negative value. -/
def signText (negative : Bool) : String :=
  if negative then "-" else ""

/-- A value in the fewest digits that read back. -/
def Layout.write (layout : Layout) : Binary64 → String
  | .finite s m q => signText s ++ String.ofList (layout.writeMagnitude m q)
  | .infinite s => signText s ++ "inf"
  | .nan => "nan"

/-- A value with exactly `places` digits after the point, rounded from its exact value. -/
def writeFixed (places : Nat) : Binary64 → String
  | .finite s m q =>
    let (n, d) := scaleDown (m * Nat.pow 10 places) 1 2 (-q)
    let cs := padLeft (places + 1) (digitChars (roundDiv n d))
    signText s ++
      String.ofList (cs.take (cs.length - places) ++ '.' :: cs.drop (cs.length - places))
  | .infinite s => signText s ++ "inf"
  | .nan => "nan"

/-- The number that decimal digits stand for. -/
def digitsValue (cs : List Char) : Nat :=
  cs.foldl (fun n c => 10 * n + (c.toNat - 0x30)) 0

/-- Splits a leading sign off: whether it is a minus, and the rest. -/
def splitSign : List Char → Bool × List Char
  | '-' :: cs => (true, cs)
  | '+' :: cs => (false, cs)
  | cs => (false, cs)

/-- A whole number with an optional sign. -/
def readIntChars? (cs : List Char) : Option Int :=
  let (negative, ds) := splitSign cs
  if ds.isEmpty || !ds.all Char.isDigit then none
  else
    let n : Int := digitsValue ds
    some (if negative then -n else n)

/-- A decimal without sign: digits, an optional fraction and an optional exponent, with a digit
before or after the point. Gives the digits and the power of ten. -/
def readMagnitude? (cs : List Char) : Option (Nat × Int) :=
  let whole := cs.takeWhile Char.isDigit
  let rest := cs.dropWhile Char.isDigit
  let (fraction, rest) :=
    match rest with
    | '.' :: r => (r.takeWhile Char.isDigit, r.dropWhile Char.isDigit)
    | r => ([], r)
  if whole.isEmpty && fraction.isEmpty then none
  else
    let digits := digitsValue (whole ++ fraction)
    let places : Int := fraction.length
    match rest with
    | [] => some (digits, -places)
    | c :: r =>
      if c = 'e' || c = 'E' then (readIntChars? r).map fun e => (digits, e - places)
      else none

/-- The double precision value of decimal text with an optional sign. -/
def readDecimal? (s : String) : Option Binary64 :=
  let (negative, cs) := splitSign s.toList
  match String.ofList cs with
  | "inf" => some (.infinite negative)
  | "nan" => some .nan
  | _ => (readMagnitude? cs).map fun (digits, e) => Binary64.ofDecimal negative digits e

end WorkflowDocs.Decimal
