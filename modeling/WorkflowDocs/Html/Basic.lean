import WorkflowDocs.Catalog.ImageInfo
import WorkflowDocs.Decimal.Notation

/-!
# Markup

A page is a sequence of chunks: markup, which is written as it is, and text, which is escaped so
that it cannot be read as markup. Only `render` makes a string of them.

## Main definitions

* `Html.escape`: text as it stands in a page
* `Html`, `Html.markup`, `Html.text`: pages and their chunks
* `Html.render`: the written page
* `Html.Counted`: a number of things
-/

namespace WorkflowDocs

/-- A piece of a page. -/
inductive Chunk where
  | markup (s : String)
  | text (s : String)
  deriving DecidableEq, Repr, Inhabited

/-- A page or a part of one. -/
abbrev Html := List Chunk

namespace Html

/-- A character of a text as it stands in a page. -/
def escapeChar (c : Char) : List Char :=
  match c with
  | '&' => ['&', 'a', 'm', 'p', ';']
  | '<' => ['&', 'l', 't', ';']
  | '>' => ['&', 'g', 't', ';']
  | '\'' => ['&', '#', '3', '9', ';']
  | '"' => ['&', '#', '3', '4', ';']
  | c => [c]

/-- A text as it stands in a page. -/
def escape (s : String) : String :=
  String.ofList (s.toList.flatMap escapeChar)

/-- The written form of a chunk. -/
def renderChunk : Chunk → String
  | .markup s => s
  | .text s => escape s

/-- The written form of a page. -/
def render (h : Html) : String :=
  String.join (h.map renderChunk)

/-- Markup as it is. -/
def markup (s : String) : Html :=
  [.markup s]

/-- Text to be shown. -/
def text (s : String) : Html :=
  [.text s]

/-- A number to be shown. -/
def number (n : Nat) : Html :=
  text (Decimal.natText n)

/-- The part, if the condition holds. -/
def only (condition : Bool) (part : Html) : Html :=
  if condition then part else []

/-- One part for each element. -/
def each {α : Type} (xs : List α) (part : α → Html) : Html :=
  xs.flatMap part

/-- The parts with a separator between neighbours. -/
def separated (separator : Html) : List Html → Html
  | [] => []
  | [part] => part
  | part :: parts => part ++ separator ++ separated separator parts

/-- A line with a number of blanks before its content. -/
def line (indent : Nat) (content : Html) : Html :=
  markup (String.ofList (List.replicate indent ' ')) ++ content ++ markup "\n"

/-- A number as it is shown, and whether there are several things, so that their noun has an
ending. -/
structure Counted where
  shown : String
  isSeveral : Bool
  deriving DecidableEq, Repr, Inhabited

/-- A number of things. -/
def Counted.ofNat (n : Nat) : Counted :=
  ⟨Decimal.natText n, n != 1⟩

/-- The ending of the noun. -/
def Counted.ending (c : Counted) : Html :=
  only c.isSeveral (text "s")

/-- The ending of a noun that counts `n` things. -/
def pluralEnding (n : Nat) : Html :=
  (Counted.ofNat n).ending

end Html

end WorkflowDocs
