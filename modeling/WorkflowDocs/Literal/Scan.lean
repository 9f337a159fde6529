import WorkflowDocs.Literal.Token

/-!
# Scanning structured literals

The characters of a literal are grouped into tokens by a scanner that reads one character at a
time. Outside brackets a literal takes one line: blank lines and comments may stand before and
after it, but the line it begins on is not indented.

## Main definitions

* `Scan`, `Scan.step`: the state of the scanner and its transition
* `tokenize?`: the tokens of a text
-/

namespace WorkflowDocs.Literal

/-- The kinds of text, by the letters before their first mark. -/
inductive TextForm where
  | text
  | bytes
  | template
  deriving DecidableEq, Repr

/-- How a text is to be read. -/
structure TextKind where
  form : TextForm
  raw : Bool
  deriving DecidableEq, Repr

/-- The kind of text that letters before a mark announce; other letters do not belong to it. -/
def textKind? (letters : List Char) : Option TextKind :=
  match String.ofList (letters.map Char.toLower) with
  | "" | "u" => some ⟨.text, false⟩
  | "r" => some ⟨.text, true⟩
  | "b" => some ⟨.bytes, false⟩
  | "br" | "rb" => some ⟨.bytes, true⟩
  | "f" => some ⟨.template, false⟩
  | "fr" | "rf" => some ⟨.template, true⟩
  | _ => none

/-- The token of a text with the given characters between its marks. -/
def TextKind.token? (dialect : Dialect) (kind : TextKind) (body : List Char) : Option Token :=
  match kind.form with
  | .text => (decode? dialect .characters kind.raw body).map .text
  | .bytes => (decode? dialect .bytes kind.raw body).map .bytes
  | .template => some .template

/-- What the scanner is in the middle of. -/
inductive Mode where
  /-- On a line that has no token yet; `indented` says that it begins with a blank, `held` that a
  line which it continues does, and `joined` that it has only just been continued. -/
  | margin (held indented joined : Bool)
  /-- After a backslash on such a line, where a line end must follow. -/
  | marginBreak (held indented : Bool)
  /-- Between two tokens. -/
  | gap
  | comment
  /-- After a backslash outside a text, where a line end must follow. -/
  | continuation
  /-- At the beginning of a continued line, which must not be the end of the text. -/
  | continued
  /-- In a word; `tight` says that a number stands right before it. -/
  | word (tight : Bool) (read : List Char)
  | number (n : Numeral) (read : List Char)
  /-- After one or two points. -/
  | points (two : Bool)
  | symbol (read : List Char)
  /-- After the first mark of a text. -/
  | firstMark (mark : Char) (kind : TextKind)
  /-- After the second mark of a text. -/
  | secondMark (mark : Char) (kind : TextKind)
  /-- Inside a text; `marks` closing marks of a triple have just been read, or a backslash. -/
  | body (mark : Char) (triple : Bool) (kind : TextKind) (marks : Nat) (escaped : Bool)
    (read : List Char)
  /-- Inside a template. -/
  | template (opening : Opening) (read : List Char)
  deriving DecidableEq, Repr

/-- The state of the scanner. Tokens, and the characters read of an unfinished one, are held in
reverse. `finished` says that the line of the literal has ended. -/
structure Scan where
  mode : Mode
  depth : Nat
  finished : Bool
  tokens : List Token
  deriving DecidableEq, Repr

/-- The greatest depth of nested brackets. -/
def maxDepth : Nat := 200

/-- The blanks within a line. -/
def isGap (c : Char) : Bool :=
  c = ' ' || c = '\t' || c = '\x0c'

/-- The characters of a word. -/
def isWordChar (c : Char) : Bool :=
  c.isAlphanum || c = '_' || c.toNat ≥ 0x80

/-- The characters around a text. -/
def isMark (c : Char) : Bool :=
  c = '\'' || c = '"'

namespace Scan

/-- Adds a token and goes on in the gap after it. -/
def emit (s : Scan) (t : Token) : Scan :=
  { s with mode := .gap, tokens := t :: s.tokens }

/-- Adds a finished text, of which the characters are known in reverse. -/
def emitText (dialect : Dialect) (s : Scan) (kind : TextKind) (read : List Char) : Option Scan :=
  (kind.token? dialect read.reverse).map s.emit

/-- Opens a bracket. -/
def openBracket (s : Scan) (b : Bracket) : Option Scan :=
  if s.depth < maxDepth then some { s.emit (.opening b) with depth := s.depth + 1 } else none

/-- Closes a bracket. -/
def closeBracket (s : Scan) (b : Bracket) : Option Scan :=
  if s.depth = 0 then none else some { s.emit (.closing b) with depth := s.depth - 1 }

/-- A line end between tokens: without meaning inside brackets, the end of the literal outside. -/
def endLine (s : Scan) : Scan :=
  if s.depth > 0 then { s with mode := .gap }
  else { s with mode := .margin false false false, finished := s.finished || !s.tokens.isEmpty }

/-- A character between tokens. -/
def gapStep (s : Scan) (c : Char) : Option Scan :=
  if isGap c then some { s with mode := .gap }
  else if c = '\n' then some s.endLine
  else if c = '#' then some { s with mode := .comment }
  else if c = '\\' then some { s with mode := .continuation }
  else if c = '(' then s.openBracket .round
  else if c = '[' then s.openBracket .square
  else if c = '\x7b' then s.openBracket .curly
  else if c = ')' then s.closeBracket .round
  else if c = ']' then s.closeBracket .square
  else if c = '\x7d' then s.closeBracket .curly
  else if c = ',' then some (s.emit .comma)
  else if c = '.' then some { s with mode := .points false }
  else if isMark c then some { s with mode := .firstMark c ⟨.text, false⟩ }
  else if isSymbolChar c then some { s with mode := .symbol [c] }
  else if c.isDigit then some { s with mode := .number .whole [c] }
  else if isWordChar c then some { s with mode := .word false [c] }
  else none

/-- A character on a line without a token yet. After the literal only blank lines and comments
may follow, and the line of the literal itself must not be indented. -/
def marginStep (s : Scan) (held indented : Bool) (c : Char) : Option Scan :=
  if c = '\x0c' then some { s with mode := .margin held false false }
  else if c = ' ' || c = '\t' then some { s with mode := .margin held true false }
  else if c = '\n' then some { s with mode := .margin false false false }
  else if c = '#' then some { s with mode := .comment }
  else if c = '\\' then some { s with mode := .marginBreak held indented }
  else if s.finished || held || indented then none
  else s.gapStep c

/-- Ends a word. The word `async` is the only one with a place after a number that must not stand
right behind it. -/
def endWord (dialect : Dialect) (s : Scan) (tight : Bool) (read : List Char) : Option Scan := do
  let t ← wordToken? dialect read.reverse
  if tight && t = .keyword .asyncWord then none else some (s.emit t)

/-- Ends a number before `c`. The letter of an exponent without digits is the first letter of a
word. -/
def endNumber (s : Scan) (n : Numeral) (read : List Char) (c : Char) : Option Scan :=
  match n, read with
  | .mark, e :: read =>
    if isWordChar c then
      let n := if read.contains '.' then .fraction else .whole
      (readNumeral? n read.reverse).map fun x =>
        { s.emit (.number x) with mode := .word true [c, e] }
    else none
  | n, read =>
    (readNumeral? n read.reverse).bind fun x =>
      let s := s.emit (.number x)
      if isWordChar c && !c.isDigit then some { s with mode := .word true [c] } else s.gapStep c

/-- A character after a point or two. Three points are one token. -/
def pointsStep (s : Scan) (two : Bool) (c : Char) : Option Scan :=
  if c = '.' then
    if two then some (s.emit .ellipsis) else some { s with mode := .points true }
  else if c.isDigit then
    let s := if two then s.emit .dot else s
    some { s with mode := .number .fraction [c, '.'] }
  else (if two then (s.emit .dot).emit .dot else s.emit .dot).gapStep c

/-- A character inside a text. A line end needs a backslash before it or a triple mark. -/
def bodyStep (dialect : Dialect) (s : Scan) (mark : Char) (triple : Bool) (kind : TextKind)
    (marks : Nat) (escaped : Bool) (read : List Char) (c : Char) : Option Scan :=
  if escaped then some { s with mode := .body mark triple kind 0 false (c :: read) }
  else if c = mark then
    if !triple then s.emitText dialect kind read
    else if marks = 2 then s.emitText dialect kind (read.drop 2)
    else some { s with mode := .body mark triple kind (marks + 1) false (c :: read) }
  else if c = '\n' && !triple then none
  else some { s with mode := .body mark triple kind 0 (c = '\\') (c :: read) }

/-- A character inside a template. -/
def templateStep (dialect : Dialect) (s : Scan) (opening : Opening) (read : List Char) (c : Char) :
    Option Scan :=
  (dialect.template? opening (c :: read)).map fun ended =>
    if ended then s.emit .template else { s with mode := .template opening (c :: read) }

/-- The scanner after the first marks of a text or a template. -/
def enter (s : Scan) (mark : Char) (triple : Bool) (kind : TextKind) : Scan :=
  { s with
    mode :=
      if kind.form = .template then .template ⟨kind.raw, mark, triple, s.depth⟩ []
      else .body mark triple kind 0 false [] }

/-- A character inside a text or a template. -/
def innerStep (dialect : Dialect) (s : Scan) (c : Char) : Option Scan :=
  match s.mode with
  | .body mark triple kind marks escaped read =>
    s.bodyStep dialect mark triple kind marks escaped read c
  | .template opening read => s.templateStep dialect opening read c
  | _ => none

/-- One character. -/
def step (dialect : Dialect) (s : Scan) (c : Char) : Option Scan :=
  if c.toNat = 0 then none
  else
    match s.mode with
    | .margin held indented _ => s.marginStep held indented c
    | .marginBreak held indented =>
      if c = '\n' then some { s with mode := .margin (held || indented) indented true } else none
    | .gap => s.gapStep c
    | .comment => some (if c = '\n' then s.endLine else s)
    | .continuation => if c = '\n' then some { s with mode := .continued } else none
    | .continued => s.gapStep c
    | .word tight read =>
      if isWordChar c then some { s with mode := .word tight (c :: read) }
      else
        match (if isMark c then textKind? read.reverse else none) with
        | some kind => some { s with mode := .firstMark c kind }
        | none => (s.endWord dialect tight read).bind fun s => s.gapStep c
    | .number n read =>
      match n.next? read c with
      | some n => some { s with mode := .number n (c :: read) }
      | none => s.endNumber n read c
    | .points two => s.pointsStep two c
    | .symbol read =>
      if longSymbols.contains (c :: read).reverse then some { s with mode := .symbol (c :: read) }
      else (symbolToken? read.reverse).bind fun t => (s.emit t).gapStep c
    | .firstMark mark kind =>
      if c = mark then some { s with mode := .secondMark mark kind }
      else (s.enter mark false kind).innerStep dialect c
    | .secondMark mark kind =>
      if c = mark then some (s.enter mark true kind)
      else (s.emitText dialect kind []).bind fun s => s.gapStep c
    | .body _ _ _ _ _ _ | .template _ _ => s.innerStep dialect c

/-- The scanner before the first character. -/
def start : Scan where
  mode := .margin false false false
  depth := 0
  finished := false
  tokens := []

/-- Ends the token that is being read when the text ends. -/
def close (dialect : Dialect) (s : Scan) : Option Scan :=
  match s.mode with
  | .margin held indented joined => if held || indented || joined then none else some s
  | .gap | .comment => some s
  | .word tight read => s.endWord dialect tight read
  | .number n read => if n = .mark then none else s.endNumber n read '\n'
  | .points two => if two then none else some (s.emit .dot)
  | .symbol read => (symbolToken? read.reverse).map s.emit
  | .secondMark _ kind => s.emitText dialect kind []
  | _ => none

/-- The tokens read when the text ends, in order. -/
def finish (dialect : Dialect) (s : Scan) : Option (List Token) :=
  (s.close dialect).map fun s => s.tokens.reverse

end Scan

/-- The tokens of a text, in order; nothing for a text that is not made of tokens. -/
def tokenize? (dialect : Dialect) (cs : List Char) : Option (List Token) :=
  (cs.foldlM (Scan.step dialect) Scan.start).bind (Scan.finish dialect)

end WorkflowDocs.Literal
