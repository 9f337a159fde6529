import WorkflowDocs.Decimal.Reading
import WorkflowDocs.Text.Quoted
import WorkflowDocs.Wdl.Expr.Printer

/-!
# Structured literals

Descriptions of parameters may be written as a structured literal: numbers, texts, truth values,
lists, tuples, sets and dictionaries. This module holds their values and written form.

A text whose escapes name halves of character pairs is no sequence of characters; it is held as the
sequence of its codes.

## Main definitions

* `Literal`: the values
* `Literal.ofCodes`: the text of a sequence of codes
* `Literal.text`, `Literal.isWritable`: the written form, and the literals that have one
* `Literal.isTruthy`: whether a value counts as present
* `Literal.keyBlocker?`: what keeps a value from being a key
-/

namespace WorkflowDocs

/-- A structured literal. -/
inductive Literal where
  | null
  | ellipsis
  | boolean (b : Bool)
  | int (n : Int)
  | float (x : Decimal.Binary64)
  | complex (re im : Decimal.Binary64)
  | string (s : String)
  /-- A text with half of a character pair in it. -/
  | codes (cs : List Nat)
  | bytes (bs : List Nat)
  | list (items : List Literal)
  | tuple (items : List Literal)
  | set (items : List Literal)
  | dict (entries : List (Literal × Literal))
  deriving Inhabited

namespace Literal

/-- The text of a sequence of codes. -/
def ofCodes (cs : List Nat) : Literal :=
  if cs.all Text.isCharCode then .string (String.ofList (cs.map Char.ofNat)) else .codes cs

/-- A part of a complex number: a whole number has no point. -/
def partText (x : Decimal.Binary64) : String :=
  let s := numberLayout.write x
  if Text.endsWith s ".0" then Text.takeChars (s.length - 2) s else s

/-- A complex number: brackets are left out if there is no real part, not even a negative zero. -/
def complexText (re im : Decimal.Binary64) : String :=
  if re.isZero && !re.isNegative then partText im ++ "j"
  else "(" ++ partText re ++ (if im.isNegative then "" else "+") ++ partText im ++ "j)"

/-- The written items of a tuple: a single item has a comma after it. -/
def tupleText : List String → String
  | [t] => "(" ++ t ++ ",)"
  | ts => "(" ++ Text.joinWith ", " ts ++ ")"

/-- The written items of a set. -/
def setText (ts : List String) : String :=
  if ts.isEmpty then "set()" else "\x7b" ++ Text.joinWith ", " ts ++ "\x7d"

mutual

/-- The written form of a literal. -/
def text : Literal → String
  | .null => "None"
  | .ellipsis => "Ellipsis"
  | .boolean b => if b then "True" else "False"
  | .int n => Decimal.intText n
  | .float x => numberLayout.write x
  | .complex re im => complexText re im
  | .string s => Text.quoted s
  | .codes cs => Text.quotedCodes cs
  | .bytes bs => Text.quotedBytes bs
  | .list items => "[" ++ Text.joinWith ", " (texts items) ++ "]"
  | .tuple items => tupleText (texts items)
  | .set items => setText (texts items)
  | .dict entries => "\x7b" ++ Text.joinWith ", " (entryTexts entries) ++ "\x7d"

/-- The written forms of a list of literals. -/
def texts : List Literal → List String
  | [] => []
  | l :: ls => l.text :: texts ls

/-- The written entries of a dictionary. -/
def entryTexts : List (Literal × Literal) → List String
  | [] => []
  | (k, v) :: es => (k.text ++ ": " ++ v.text) :: entryTexts es

end

mutual

/-- Whether a literal has a written form: none of the whole numbers in it has too many digits. -/
def isWritable : Literal → Bool
  | .int n => Decimal.isShort n
  | .list items | .tuple items | .set items => areWritable items
  | .dict entries => haveWritable entries
  | _ => true

/-- Whether all literals have a written form. -/
def areWritable : List Literal → Bool
  | [] => true
  | l :: ls => l.isWritable && areWritable ls

/-- Whether all keys and values have a written form. -/
def haveWritable : List (Literal × Literal) → Bool
  | [] => true
  | (k, v) :: es => k.isWritable && v.isWritable && haveWritable es

end

/-- Whether a value counts as present: zeros, empty texts and empty collections do not. -/
def isTruthy : Literal → Bool
  | .null => false
  | .ellipsis => true
  | .boolean b => b
  | .int n => n != 0
  | .float x => !x.isZero
  | .complex re im => !(re.isZero && im.isZero)
  | .string s => !s.isEmpty
  | .codes cs | .bytes cs => !cs.isEmpty
  | .list items | .tuple items | .set items => !items.isEmpty
  | .dict entries => !entries.isEmpty

/-- The collections that can change, and so cannot stand as a key. -/
inductive Collection where
  | list
  | set
  | dict
  deriving DecidableEq, Repr, Inhabited

/-- The name of a kind of collection. -/
def Collection.label : Collection → String
  | .list => "list"
  | .set => "set"
  | .dict => "dict"

mutual

/-- The collection that keeps a value from standing as the key of a dictionary or a member of a
set. -/
def keyBlocker? : Literal → Option Collection
  | .list _ => some .list
  | .set _ => some .set
  | .dict _ => some .dict
  | .tuple items => keyBlockerOf? items
  | _ => none

/-- The first collection among the values that keeps them from standing as keys. -/
def keyBlockerOf? : List Literal → Option Collection
  | [] => none
  | l :: ls => l.keyBlocker?.or (keyBlockerOf? ls)

end

/-- The whole number that a number or truth value equals. -/
def wholeNumber? : Literal → Option Int
  | .boolean b => some (if b then 1 else 0)
  | .int n => some n
  | .float (.finite s m q) =>
    let (n, d) := Decimal.scaleDown m 1 2 (-q)
    if n % d = 0 then some (if s then -((n / d : Nat) : Int) else ((n / d : Nat) : Int)) else none
  | _ => none

/-- Whether two double precision values are the same number: the two zeros are. -/
def sameFloat (a b : Decimal.Binary64) : Bool :=
  a == b || (a.isZero && b.isZero)

/-- A complex number without an imaginary part as its real part. -/
def asReal : Literal → Literal
  | .complex re im => if im.isZero then .float re else .complex re im
  | l => l

/-- Whether two values are the same number. -/
def sameNumber (a b : Literal) : Bool :=
  match a.asReal, b.asReal with
  | .float x, .float y => sameFloat x y
  | .complex re im, .complex re' im' => sameFloat re re' && sameFloat im im'
  | a, b =>
    match a.wholeNumber?, b.wholeNumber? with
    | some m, some n => m == n
    | _, _ => false

mutual

/-- Whether two keys are the same key; numbers are compared by value. -/
def sameKey : Literal → Literal → Bool
  | .null, .null => true
  | .ellipsis, .ellipsis => true
  | .string a, .string b => a == b
  | .codes a, .codes b => a == b
  | .bytes a, .bytes b => a == b
  | .tuple as, .tuple bs => sameKeys as bs
  | a, b => sameNumber a b

/-- Whether two lists of keys are the same, one by one. -/
def sameKeys : List Literal → List Literal → Bool
  | [], [] => true
  | a :: as, b :: bs => sameKey a b && sameKeys as bs
  | _, _ => false

end

/-- Writes an entry: a key that is there keeps its place and its form. -/
def putEntry (key value : Literal) : List (Literal × Literal) → List (Literal × Literal)
  | [] => [(key, value)]
  | e :: es => if sameKey e.1 key then (e.1, value) :: es else e :: putEntry key value es

/-- Adds a member to a set unless it is there. Whole numbers are kept in ascending order. -/
def putMember (member : Literal) : List Literal → List Literal
  | [] => [member]
  | m :: ms =>
    if sameKey m member then m :: ms
    else
      match member, m with
      | .int a, .int b => if a < b then member :: m :: ms else m :: putMember member ms
      | _, _ => m :: putMember member ms

/-- The value of a text key. -/
def lookup? (key : String) : List (Literal × Literal) → Option Literal
  | [] => none
  | (.string k, v) :: es => if k = key then some v else lookup? key es
  | _ :: es => lookup? key es

end Literal

end WorkflowDocs
