import WorkflowDocs.Literal.Token

/-!
# Templates

A template is a text with expressions in curly brackets. After an expression may come an equals
sign, a conversion and a format, and the format is itself a template with expressions that have no
expressions in their own formats. A doubled curly bracket outside formats stands for itself.

## Main definitions

* `TemplateScan`, `TemplateScan.step`: the state of the scanner and its transition
* `embedded?`: the expressions in a template
-/

namespace WorkflowDocs.Literal

/-- How far a text inside an embedded expression has been read. -/
inductive Inner where
  | outside
  | firstMark (mark : Char)
  | secondMark (mark : Char)
  | single (mark : Char)
  /-- Inside a triple mark, of which `marks` closing ones have just been read. -/
  | triple (mark : Char) (marks : Nat)
  deriving DecidableEq, Repr

/-- Where the scanner of a template stands. -/
inductive TemplateMode where
  /-- In the text between expressions, of which `read` is known in reverse. -/
  | text (read : List Char)
  /-- In the name of a character in that text. -/
  | name (read : List Char)
  /-- After an opening curly bracket of the outer text. -/
  | opened
  /-- After a closing curly bracket of the outer text. -/
  | closed
  /-- In an expression with open brackets. -/
  | expr (read : List Char) (brackets : List Bracket) (inner : Inner)
  /-- After a character of an expression that means something else with an equals sign after it. -/
  | pending (mark : Char) (read : List Char)
  /-- After an expression and an equals sign. -/
  | shown
  /-- At the letter of a conversion. -/
  | conversion
  /-- Before a format or the end of the bracket. -/
  | converted
  deriving DecidableEq, Repr

/-- The state of the scanner: the number of formats that are open, and the expressions found. -/
structure TemplateScan where
  mode : TemplateMode
  formats : Nat
  found : List (List Char)
  deriving DecidableEq, Repr

/-- The bracket that a character opens. -/
def opens? : Char → Option Bracket
  | '(' => some .round
  | '[' => some .square
  | '\x7b' => some .curly
  | _ => none

/-- The bracket that a character closes. -/
def closes? : Char → Option Bracket
  | ')' => some .round
  | ']' => some .square
  | '\x7d' => some .curly
  | _ => none

/-- The blanks that are no expression by themselves. -/
def isFiller (c : Char) : Bool :=
  c = ' ' || c = '\t' || c = '\n' || c = '\x0c' || c = '\r'

namespace TemplateScan

/-- Ends the text between expressions, whose escapes must be good. -/
def endText (dialect : Dialect) (raw : Bool) (s : TemplateScan) (read : List Char)
    (mode : TemplateMode) : Option TemplateScan :=
  (decode? dialect .characters raw read.reverse).map fun _ => { s with mode }

/-- Ends an expression that is not blank. -/
def endExpr (s : TemplateScan) (read : List Char) (mode : TemplateMode) : Option TemplateScan :=
  if read.all isFiller then none else some { s with mode, found := read.reverse :: s.found }

/-- Whether the name of a character follows: after the letter `N` and a backslash that is not itself
escaped. -/
def namesNext (raw : Bool) : List Char → Bool
  | 'N' :: read => !raw && (read.takeWhile (· = '\\')).length % 2 = 1
  | _ => false

/-- A character of the text between expressions. Inside a format a closing bracket ends the
expression that the format belongs to. -/
def textStep (dialect : Dialect) (raw : Bool) (s : TemplateScan) (read : List Char) (c : Char) :
    Option TemplateScan :=
  if c = '\x7b' then
    if namesNext raw read then some { s with mode := .name (c :: read) }
    else if s.formats = 0 then s.endText dialect raw read .opened
    else if s.formats = 1 then s.endText dialect raw read (.expr [] [] .outside)
    else none
  else if c = '\x7d' then
    if s.formats = 0 then s.endText dialect raw read .closed
    else (s.endText dialect raw read (.text [])).map fun s => { s with formats := s.formats - 1 }
  else some { s with mode := .text (c :: read) }

/-- A character right after an expression and what belongs to it. -/
def convertedStep (s : TemplateScan) (c : Char) : Option TemplateScan :=
  if c = ':' then some { s with mode := .text [], formats := s.formats + 1 }
  else if c = '\x7d' then some { s with mode := .text [] }
  else none

/-- A character after an expression and an equals sign. -/
def shownStep (s : TemplateScan) (c : Char) : Option TemplateScan :=
  if isFiller c || c = '\x0b' then some { s with mode := .shown }
  else if c = '!' then some { s with mode := .conversion }
  else s.convertedStep c

/-- A character of an expression outside texts. -/
def codeStep (s : TemplateScan) (read : List Char) (brackets : List Bracket) (c : Char) :
    Option TemplateScan :=
  let goOn := fun brackets inner => some { s with mode := .expr (c :: read) brackets inner }
  if c = '#' then none
  else if c = '\'' || c = '"' then goOn brackets (.firstMark c)
  else
    match opens? c, brackets with
    | some b, _ => goOn (b :: brackets) .outside
    | none, [] =>
      if c = '!' || c = '=' || c = '<' || c = '>' then some { s with mode := .pending c read }
      else if c = ':' || c = '\x7d' then (s.endExpr read .converted).bind (·.convertedStep c)
      else if (closes? c).isSome then none
      else goOn [] .outside
    | none, b :: rest =>
      match closes? c with
      | some closing => if closing = b then goOn rest .outside else none
      | none => goOn brackets .outside

/-- A character of an expression. A backslash has no place in it. -/
def exprStep (s : TemplateScan) (read : List Char) (brackets : List Bracket) (inner : Inner)
    (c : Char) : Option TemplateScan :=
  let goOn := fun inner => some { s with mode := .expr (c :: read) brackets inner }
  if c = '\\' then none
  else
    match inner with
    | .outside => s.codeStep read brackets c
    | .firstMark mark => goOn (if c = mark then .secondMark mark else .single mark)
    | .secondMark mark => if c = mark then goOn (.triple mark 0) else s.codeStep read brackets c
    | .single mark => goOn (if c = mark then .outside else .single mark)
    | .triple mark marks =>
      if c = mark then goOn (if marks = 2 then .outside else .triple mark (marks + 1))
      else goOn (.triple mark 0)

/-- A character after one that may end an expression. -/
def pendingStep (s : TemplateScan) (mark : Char) (read : List Char) (c : Char) :
    Option TemplateScan :=
  if c = '=' then some { s with mode := .expr (c :: mark :: read) [] .outside }
  else if mark = '!' then
    (s.endExpr read .conversion).bind fun s =>
      if c = 's' || c = 'r' || c = 'a' then some { s with mode := .converted } else none
  else if mark = '=' then (s.endExpr read .shown).bind (·.shownStep c)
  else s.exprStep (mark :: read) [] .outside c

/-- One character. -/
def step (dialect : Dialect) (raw : Bool) (s : TemplateScan) (c : Char) : Option TemplateScan :=
  match s.mode with
  | .text read => s.textStep dialect raw read c
  | .name read =>
    some { s with mode := if c = '\x7d' then .text (c :: read) else .name (c :: read) }
  | .opened =>
    if c = '\x7b' then some { s with mode := .text [] } else s.exprStep [] [] .outside c
  | .closed => if c = '\x7d' then some { s with mode := .text [] } else none
  | .expr read brackets inner => s.exprStep read brackets inner c
  | .pending mark read => s.pendingStep mark read c
  | .shown => s.shownStep c
  | .conversion =>
    if c = 's' || c = 'r' || c = 'a' then some { s with mode := .converted } else none
  | .converted => s.convertedStep c

/-- The expressions found when the template ends, in order. -/
def finish (dialect : Dialect) (raw : Bool) (s : TemplateScan) : Option (List (List Char)) :=
  match s.mode, s.formats with
  | .text read, 0 => (decode? dialect .characters raw read.reverse).map fun _ => s.found.reverse
  | _, _ => none

end TemplateScan

/-- The expressions in a template, in order; nothing if its brackets or escapes are wrong. -/
def embedded? (dialect : Dialect) (raw : Bool) (body : List Char) : Option (List (List Char)) :=
  (body.foldlM (TemplateScan.step dialect raw) ⟨.text [], 0, []⟩).bind
    (TemplateScan.finish dialect raw)

end WorkflowDocs.Literal
