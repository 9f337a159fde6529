/-!
# Line ends

Texts are read with one kind of line end: a carriage return, with or without a line feed after
it, counts as a line feed.

## Main definitions

* `unifyNewlines`: the text with line feeds only
* `decodeText`: the text a sequence of bytes stands for
-/

namespace WorkflowDocs.Text

/-- Line feeds for all line ends; `afterReturn` says that the last character was a carriage
return, whose line feed is already written. -/
def unifyNewlineChars (afterReturn : Bool) : List Char → List Char
  | [] => []
  | c :: cs =>
    if c = '\r' then '\n' :: unifyNewlineChars true cs
    else if c = '\n' && afterReturn then unifyNewlineChars false cs
    else c :: unifyNewlineChars false cs

/-- A text with line feeds for all its line ends. -/
def unifyNewlines (s : String) : String :=
  String.ofList (unifyNewlineChars false s.toList)

/-- The text that the bytes hold in UTF-8, with unified line ends; nothing for bytes that are
not UTF-8. A byte order mark is kept. -/
def decodeText (bytes : ByteArray) : Option String :=
  (String.fromUTF8? bytes).map unifyNewlines

end WorkflowDocs.Text
