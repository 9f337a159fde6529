/-!
# Dialects of literals

How a literal is read depends on more than its grammar: on the characters that can be called by
name, on the letters that make a name, on what may stand in a template, and on how deeply
expressions may be nested. Readers differ in these from one release to the next, so they are left
open here.

## Main definitions

* `Limit`: why a text is given up
* `Opening`: how a template begins
* `Dialect`: what readers of literals differ in
-/

namespace WorkflowDocs.Literal

/-- Why a text is given up, whatever it says. -/
inductive Limit where
  /-- Its operators are nested too deeply to be kept. -/
  | height
  /-- Its operators are nested too deeply to be read. -/
  | level
  deriving DecidableEq, Repr, Inhabited

/-- How a template begins: with a mark that is tripled or not, inside `depth` brackets. In a raw
template the backslash has no meaning. -/
structure Opening where
  raw : Bool
  mark : Char
  triple : Bool
  depth : Nat
  deriving DecidableEq, Repr

/-- What readers of literals differ in. -/
structure Dialect where
  /-- The code of the character that a name stands for. -/
  characterNamed? : String → Option Nat
  /-- The name that letters spell. Two spellings are of one name if this is the same for both. -/
  nameOf? : List Char → Option String
  /-- Whether a template ends with the last of the characters after its first mark, which are held
  in reverse; nothing if they begin no template. -/
  template? : Opening → List Char → Option Bool
  /-- Why a text is given up, if it is. -/
  limit? : String → Option Limit
  /-- An empty text is never too much. -/
  limit?_empty : limit? "" = none

end WorkflowDocs.Literal
