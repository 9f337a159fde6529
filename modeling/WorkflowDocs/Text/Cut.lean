/-!
# Cutting and replacing text

Operations on text by characters: cutting at a separator, joining, searching for a piece of text
and replacing it. All of them work on the list of characters, so positions and lengths count
code points.

## Main definitions

* `cutAt`, `lines`: the pieces between separators
* `joinWith`: the pieces with a separator between them
* `contains`, `startsWith`, `endsWith`: occurrence tests
* `replaceAll`: every occurrence, from the left, without overlap
* `takeChars`, `dropChars`: a number of leading characters, kept or removed
-/

namespace WorkflowDocs.Text

/-- The pieces of `cs` between the characters `sep`; one piece when there is none. -/
def cutCharsAt (sep : Char) : List Char → List (List Char)
  | [] => [[]]
  | c :: cs =>
    if c = sep then [] :: cutCharsAt sep cs
    else
      match cutCharsAt sep cs with
      | [] => [[c]]
      | piece :: pieces => (c :: piece) :: pieces

/-- The pieces of `s` between the characters `sep`. -/
def cutAt (sep : Char) (s : String) : List String :=
  (cutCharsAt sep s.toList).map String.ofList

/-- The lines of a text: the pieces between line feeds. -/
def lines (s : String) : List String :=
  cutAt '\n' s

/-- The texts in order with `sep` between neighbours. -/
def joinWith (sep : String) : List String → String
  | [] => ""
  | [s] => s
  | s :: rest => s ++ sep ++ joinWith sep rest

/-- Whether `piece` occurs in the characters. -/
def charsContain (piece : List Char) : List Char → Bool
  | [] => piece.isEmpty
  | c :: cs => piece.isPrefixOf (c :: cs) || charsContain piece cs

/-- Whether `piece` occurs in `s`. -/
def contains (s piece : String) : Bool :=
  charsContain piece.toList s.toList

/-- Whether `s` begins with `piece`. -/
def startsWith (s piece : String) : Bool :=
  piece.toList.isPrefixOf s.toList

/-- Whether `s` ends with `piece`. -/
def endsWith (s piece : String) : Bool :=
  piece.toList.reverse.isPrefixOf s.toList.reverse

/-- The characters with each occurrence of `old` replaced, where `skip` characters of an
occurrence already replaced are still to be passed over. -/
def replaceChars (old new : List Char) : Nat → List Char → List Char
  | _, [] => []
  | skip + 1, _ :: cs => replaceChars old new skip cs
  | 0, c :: cs =>
    if old.isPrefixOf (c :: cs) then new ++ replaceChars old new (old.length - 1) cs
    else c :: replaceChars old new 0 cs

/-- `s` with each occurrence of the nonempty text `old`, from the left and without overlap,
replaced by `new`. -/
def replaceAll (old new s : String) : String :=
  String.ofList (replaceChars old.toList new.toList 0 s.toList)

/-- The first `n` characters. -/
def takeChars (n : Nat) (s : String) : String :=
  String.ofList (s.toList.take n)

/-- All but the first `n` characters. -/
def dropChars (n : Nat) (s : String) : String :=
  String.ofList (s.toList.drop n)

/-- The part before the first `sep`; the whole text when there is none. -/
def before (sep : Char) (s : String) : String :=
  String.ofList (s.toList.takeWhile (· != sep))

end WorkflowDocs.Text
