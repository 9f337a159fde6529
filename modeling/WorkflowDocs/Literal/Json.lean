import WorkflowDocs.Literal.Escape
import WorkflowDocs.Literal.Basic

/-!
# Reading JSON

JSON text is read in two passes, each of which goes over its input once: characters become tokens,
and tokens become a value, with the collections that are still open on a stack. The members of an
object keep their order, and a whole number is told from one with a fraction.

## Main definitions

* `Json.Token`, `Json.Scan`: tokens and the state of reading them
* `Json.Open`, `Json.Reading`: open collections and the state of reading a value
* `Literal.ofJson?`: the value of a JSON text
-/

namespace WorkflowDocs.Literal

namespace Json

/-- A token of a JSON text. -/
inductive Token where
  | openList
  | closeList
  | openObject
  | closeObject
  | comma
  | colon
  | text (s : Literal)
  /-- A number or a word with a meaning. -/
  | atom (v : Literal)
  deriving Inhabited

/-! ## Tokens -/

/-- The codes with the halves of character pairs put together. -/
def joinHalves : List Nat → List Nat
  | high :: low :: rest =>
    if 0xD800 ≤ high && high < 0xDC00 && 0xDC00 ≤ low && low < 0xE000 then
      (0x10000 + (high - 0xD800) * 0x400 + (low - 0xDC00)) :: joinHalves rest
    else high :: joinHalves (low :: rest)
  | cs => cs

/-- The character that a letter stands for after a backslash. -/
def escape? : Char → Option Char
  | '"' => some '"'
  | '\\' => some '\\'
  | '/' => some '/'
  | 'b' => some '\x08'
  | 'f' => some '\x0c'
  | 'n' => some '\n'
  | 'r' => some '\r'
  | 't' => some '\t'
  | _ => none

/-- Whether digits can stand before the point: a zero stands alone. -/
def isWhole : List Char → Bool
  | [] => false
  | ['0'] => true
  | c :: cs => c != '0' && (c :: cs).all Char.isDigit

/-- Whether an exponent follows: a sign and digits. -/
def isExponent (cs : List Char) : Bool :=
  let digits := (Decimal.splitSign cs).2
  !digits.isEmpty && digits.all Char.isDigit

/-- Whether characters are a point with digits and an exponent, both of which may be left out. -/
def isFraction (cs : List Char) : Bool :=
  let rest := match cs with
    | '.' :: r => if (r.takeWhile Char.isDigit).isEmpty then cs else r.dropWhile Char.isDigit
    | r => r
  match rest with
  | [] => true
  | c :: r => (c = 'e' || c = 'E') && isExponent r

/-- The value of a number: a whole one unless it has a fraction or an exponent. -/
def number? (cs : List Char) : Option Literal :=
  let magnitude := if cs.head? = some '-' then cs.drop 1 else cs
  let whole := magnitude.takeWhile Char.isDigit
  let rest := magnitude.dropWhile Char.isDigit
  if !isWhole whole || !isFraction rest then none
  else if rest.isEmpty then (Decimal.readIntChars? cs).map .int
  else (Decimal.readDecimal? (String.ofList cs)).map .float

/-- The value of a number or of a word with a meaning. -/
def atom? (cs : List Char) : Option Literal :=
  match String.ofList cs with
  | "null" => some .null
  | "true" => some (.boolean true)
  | "false" => some (.boolean false)
  | _ => number? cs

/-- Where the reader of tokens stands. What it has of a token is held in reverse. -/
inductive Mode where
  | between
  | word (cs : List Char)
  | text (cs : List Nat)
  /-- After a backslash. -/
  | escape (cs : List Nat)
  /-- Inside an escape that takes `left` more digits. -/
  | unit (cs : List Nat) (left value : Nat)
  deriving Inhabited

/-- The state of reading tokens, which are held in reverse. -/
structure Scan where
  mode : Mode := .between
  tokens : List Token := []
  deriving Inhabited

namespace Scan

/-- The token of a mark. -/
def mark? : Char → Option Token
  | '[' => some .openList
  | ']' => some .closeList
  | '\x7b' => some .openObject
  | '\x7d' => some .closeObject
  | ',' => some .comma
  | ':' => some .colon
  | _ => none

/-- A character between two tokens. -/
def betweenStep (s : Scan) (c : Char) : Scan :=
  match mark? c with
  | some t => ⟨.between, t :: s.tokens⟩
  | none =>
    if c = '"' then ⟨.text [], s.tokens⟩
    else if c = ' ' || c = '\t' || c = '\n' || c = '\r' then s
    else ⟨.word [c], s.tokens⟩

/-- The state after a number or word. -/
def endWord? (s : Scan) (cs : List Char) : Option Scan :=
  (atom? cs.reverse).map fun v => ⟨.between, .atom v :: s.tokens⟩

/-- Whether a character goes on with a number or word. -/
def isWordChar (c : Char) : Bool :=
  c.isAlphanum || c = '.' || c = '+' || c = '-'

/-- One character. -/
def step (s : Scan) (c : Char) : Option Scan :=
  match s.mode with
  | .between => some (s.betweenStep c)
  | .word cs =>
    if isWordChar c then some { s with mode := .word (c :: cs) }
    else (s.endWord? cs).map (·.betweenStep c)
  | .text cs =>
    if c = '"' then some ⟨.between, .text (ofCodes (joinHalves cs.reverse)) :: s.tokens⟩
    else if c = '\\' then some { s with mode := .escape cs }
    else if c < ' ' then none
    else some { s with mode := .text (c.toNat :: cs) }
  | .escape cs =>
    if c = 'u' then some { s with mode := .unit cs 4 0 }
    else (escape? c).map fun e => { s with mode := .text (e.toNat :: cs) }
  | .unit cs left value =>
    (hexValue? c).map fun v =>
      if left ≤ 1 then { s with mode := .text ((16 * value + v) :: cs) }
      else { s with mode := .unit cs (left - 1) (16 * value + v) }

/-- The tokens when the text ends. -/
def finish? (s : Scan) : Option (List Token) :=
  match s.mode with
  | .between => some s.tokens.reverse
  | .word cs => (s.endWord? cs).map (·.tokens.reverse)
  | _ => none

end Scan

/-- The tokens of a text. -/
def tokens? (cs : List Char) : Option (List Token) :=
  (cs.foldlM Scan.step {}).bind Scan.finish?

/-! ## Values -/

/-- A collection that is still open; its items are held in reverse. -/
inductive Open where
  | list (items : List Literal)
  /-- An object, with the key whose value comes next. -/
  | object (entries : List (Literal × Literal)) (key : Literal)
  deriving Inhabited

/-- What has to come next. -/
inductive Need where
  | value
  | valueOrEnd
  | key
  | keyOrEnd
  | colon
  | commaOrEnd
  /-- The value is complete. -/
  | nothing (v : Literal)
  deriving Inhabited

/-- The state of reading a value. -/
structure Reading where
  stack : List Open := []
  need : Need := .value
  deriving Inhabited

namespace Reading

/-- The state after a value. -/
def put (v : Literal) : List Open → Reading
  | [] => ⟨[], .nothing v⟩
  | .list items :: rest => ⟨.list (v :: items) :: rest, .commaOrEnd⟩
  | .object entries key :: rest => ⟨.object (putEntry key v entries) key :: rest, .commaOrEnd⟩

/-- One token. -/
def step (r : Reading) (t : Token) : Option Reading :=
  match r.need, t, r.stack with
  | .value, .atom v, stack | .valueOrEnd, .atom v, stack => some (put v stack)
  | .value, .text s, stack | .valueOrEnd, .text s, stack => some (put s stack)
  | .value, .openList, stack | .valueOrEnd, .openList, stack =>
    some ⟨.list [] :: stack, .valueOrEnd⟩
  | .value, .openObject, stack | .valueOrEnd, .openObject, stack =>
    some ⟨.object [] .null :: stack, .keyOrEnd⟩
  | .key, .text s, .object entries _ :: rest | .keyOrEnd, .text s, .object entries _ :: rest =>
    some ⟨.object entries s :: rest, .colon⟩
  | .colon, .colon, stack => some ⟨stack, .value⟩
  | .commaOrEnd, .comma, .list items :: rest => some ⟨.list items :: rest, .value⟩
  | .commaOrEnd, .comma, .object entries key :: rest =>
    some ⟨.object entries key :: rest, .key⟩
  | .valueOrEnd, .closeList, .list items :: rest | .commaOrEnd, .closeList, .list items :: rest =>
    some (put (.list items.reverse) rest)
  | .keyOrEnd, .closeObject, .object entries _ :: rest
  | .commaOrEnd, .closeObject, .object entries _ :: rest => some (put (.dict entries) rest)
  | _, _, _ => none

end Reading

end Json

/-- The value of a JSON text. -/
def ofJson? (s : String) : Option Literal := do
  let tokens ← Json.tokens? s.toList
  match (← tokens.foldlM Json.Reading.step {}).need with
  | .nothing v => some v
  | _ => none

end WorkflowDocs.Literal
