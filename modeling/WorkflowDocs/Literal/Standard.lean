import WorkflowDocs.Literal.Reader
import WorkflowDocs.Literal.Template
import WorkflowDocs.Text.CharacterName
import WorkflowDocs.Text.LetterStyle
import WorkflowDocs.Text.Names

/-!
# The standard dialect

A template of the standard dialect ends where a text would, and the expressions in it are looked at
afterwards. Characters are called by the names of `Text.nameBlocks`, which are those of the scripts
and symbols in common use and not all there are.

## Main definitions

* `endsText?`: whether characters end a text
* `templateRule`: the templates whose expressions are those of another dialect
* `Expression.limit?`: the limit that an expression is beyond
* `Dialect.standard`: the standard dialect
-/

namespace WorkflowDocs.Literal

/-! ## Templates -/

/-- Whether a text ends with the last of some characters; nothing if it ends before or cannot go
on. Before them, `marks` closing marks of a triple have been read, or a backslash. -/
def endsText? (mark : Char) (triple : Bool) : (marks : Nat) → (escaped : Bool) → List Char →
    Option Bool
  | _, _, [] => some false
  | marks, escaped, c :: cs =>
    if escaped then endsText? mark triple 0 false cs
    else if c = mark then
      if !triple || marks = 2 then if cs.isEmpty then some true else none
      else endsText? mark triple (marks + 1) false cs
    else if c = '\n' && !triple then none
    else endsText? mark triple 0 (c = '\\') cs

/-- Whether the parts of a template that are to be expressions of a dialect are. -/
def templateHolds (dialect : Dialect) (raw : Bool) (body : List Char) : Bool :=
  match embedded? dialect raw body with
  | some parts => parts.all fun part =>
    ((tokenize? dialect ('(' :: part ++ [')'])).bind parseTokens?).isSome
  | none => false

/-- The templates that end where a text would, with expressions of a dialect in them. -/
def templateRule (dialect : Dialect) (opening : Opening) (read : List Char) : Option Bool := do
  let ended ← endsText? opening.mark opening.triple 0 false read.reverse
  let body := (read.drop (if opening.triple then 3 else 1)).reverse
  if ended && !templateHolds dialect opening.raw body then none else some ended

/-! ## Limits -/

/-- The greatest height of an expression that can be kept. -/
def heightLimit : Nat := 2978

/-- The greatest number of levels with which an expression can be read. -/
def levelLimit : Nat := 5974

/-- The limit that an expression is beyond. -/
def Expression.limit? (e : Expression) : Option Limit :=
  if e.level > levelLimit then some .level
  else if e.height > heightLimit then some .height
  else none

/-! ## The dialect -/

namespace Dialect

/-- The standard names, with a rule for templates and no limit. -/
def withTemplates (template? : Opening → List Char → Option Bool) : Dialect where
  characterNamed? := Text.characterNamed?
  nameOf? := fun cs =>
    if Text.isName cs then some (String.ofList (cs.map Text.plainLetter)) else none
  template? := template?
  limit? := fun _ => none
  limit?_empty := rfl

/-- The standard dialect for templates that are at most `depth` inside each other. -/
def nested : (depth : Nat) → Dialect
  | 0 => withTemplates fun _ _ => none
  | depth + 1 => withTemplates (templateRule (nested depth))

/-- The standard dialect without its limits. Templates are never nested deeper than they are
long. -/
def unlimited : Dialect :=
  withTemplates fun opening read => templateRule (nested read.length) opening read

/-- The standard dialect. Only an expression is given up. -/
def standard : Dialect :=
  { unlimited with
    limit? := fun s => (parse? unlimited s).bind Expression.limit?
    limit?_empty := by decide +kernel }

instance : Inhabited Dialect := ⟨standard⟩

end Dialect

end WorkflowDocs.Literal
