import WorkflowDocs.Literal.Dialect
import WorkflowDocs.Text.Quoted

/-!
# Escapes

Inside the marks of a text a backslash begins an escape. What it names is a code: that of a
character or half of a character pair in a text, a byte in a sequence of bytes.

## Main definitions

* `Alphabet`: what a sequence of codes is made of
* `Decoding`, `Decoding.step`: the state of the decoder and its transition
* `decode?`: the codes of what stands between two marks
-/

namespace WorkflowDocs.Literal

/-- What a sequence of codes is made of. -/
inductive Alphabet where
  | characters
  | bytes
  deriving DecidableEq, Repr

/-- The value of a hexadecimal digit. -/
def hexValue? (c : Char) : Option Nat :=
  if c.isDigit then some (c.toNat - 0x30)
  else if 'a' ≤ c && c ≤ 'f' then some (c.toNat - 0x61 + 10)
  else if 'A' ≤ c && c ≤ 'F' then some (c.toNat - 0x41 + 10)
  else none

/-- The value of an octal digit. -/
def octalValue? (c : Char) : Option Nat :=
  if '0' ≤ c && c ≤ '7' then some (c.toNat - 0x30) else none

/-- The character a letter stands for after a backslash. -/
def simpleEscape? : Char → Option Char
  | '\\' => some '\\'
  | '\'' => some '\''
  | '"' => some '"'
  | 'a' => some '\x07'
  | 'b' => some '\x08'
  | 'f' => some '\x0c'
  | 'n' => some '\n'
  | 'r' => some '\r'
  | 't' => some '\t'
  | 'v' => some '\x0b'
  | _ => none

/-- The number of digits of the hexadecimal escape that a letter opens. -/
def Alphabet.hexWidth? : Alphabet → Char → Option Nat
  | _, 'x' => some 2
  | .characters, 'u' => some 4
  | .characters, 'U' => some 8
  | _, _ => none

/-- Where the decoder stands. -/
inductive Escaping where
  | none
  /-- After a backslash. -/
  | opened
  /-- Inside an octal escape that may take `left` more digits. -/
  | octal (left value : Nat)
  /-- Inside a hexadecimal escape that takes `left` more digits. -/
  | hex (left value : Nat)
  /-- Before the bracket around the name of a character. -/
  | naming
  /-- Inside the name of a character, held in reverse. -/
  | name (read : List Char)
  deriving DecidableEq, Repr

/-- The state of the decoder; the codes are held in reverse. -/
structure Decoding where
  escaping : Escaping
  codes : List Nat
  deriving DecidableEq, Repr

namespace Decoding

/-- Adds a code and leaves the escape. -/
def push (d : Decoding) (code : Nat) : Decoding where
  escaping := .none
  codes := code :: d.codes

/-- The code of an octal escape: a byte keeps its last eight bits. -/
def pushOctal (a : Alphabet) (d : Decoding) (value : Nat) : Decoding :=
  d.push (if a = .bytes then value % 256 else value)

/-- A character outside an escape. A byte is written by a common character. -/
def plainStep (a : Alphabet) (d : Decoding) (c : Char) : Option Decoding :=
  if c = '\\' then some { d with escaping := .opened }
  else if a = .bytes && c.toNat ≥ 0x80 then none
  else some (d.push c.toNat)

/-- The character after a backslash. A line end is left out, and a letter without a meaning keeps
its backslash. -/
def openedStep (a : Alphabet) (d : Decoding) (c : Char) : Option Decoding :=
  if c = '\n' then some { d with escaping := .none }
  else
    match simpleEscape? c, octalValue? c, a.hexWidth? c with
    | some e, _, _ => some (d.push e.toNat)
    | none, some v, _ => some { d with escaping := .octal 2 v }
    | none, none, some w => some { d with escaping := .hex w 0 }
    | none, none, none =>
      if a = .characters && c = 'N' then some { d with escaping := .naming }
      else plainStep a (d.push '\\'.toNat) c

/-- A character inside the name of a character. -/
def nameStep (dialect : Dialect) (d : Decoding) (read : List Char) (c : Char) : Option Decoding :=
  if c = '\x7d' then (dialect.characterNamed? (String.ofList read.reverse)).map d.push
  else some { d with escaping := .name (c :: read) }

/-- One character. -/
def step (dialect : Dialect) (a : Alphabet) (d : Decoding) (c : Char) : Option Decoding :=
  match d.escaping with
  | .none => plainStep a d c
  | .opened => openedStep a d c
  | .octal left value =>
    match left, octalValue? c with
    | left + 1, some v => some { d with escaping := .octal left (8 * value + v) }
    | _, _ => plainStep a (pushOctal a d value) c
  | .hex left value => do
    let v ← hexValue? c
    let value := 16 * value + v
    if left > 1 then some { d with escaping := .hex (left - 1) value }
    else if value < 0x110000 then some (d.push value)
    else none
  | .naming => if c = '\x7b' then some { d with escaping := .name [] } else none
  | .name read => nameStep dialect d read c

/-- The codes when the text ends; a last backslash stands for itself. -/
def finish (a : Alphabet) (d : Decoding) : Option (List Nat) :=
  match d.escaping with
  | .none => some d.codes.reverse
  | .opened => some (d.push '\\'.toNat).codes.reverse
  | .octal _ value => some (pushOctal a d value).codes.reverse
  | .hex _ _ | .naming | .name _ => none

end Decoding

/-- The codes of what stands between two marks. In a raw text the backslash has no meaning. -/
def decode? (dialect : Dialect) (a : Alphabet) (raw : Bool) (cs : List Char) :
    Option (List Nat) :=
  if raw then
    if a = .bytes && cs.any (·.toNat ≥ 0x80) then none else some (cs.map Char.toNat)
  else (cs.foldlM (Decoding.step dialect a) ⟨.none, []⟩).bind (Decoding.finish a)

end WorkflowDocs.Literal
