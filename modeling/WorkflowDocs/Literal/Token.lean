import WorkflowDocs.Literal.Number

/-!
# Tokens of structured literals

A literal is written in the expressions of a programming language, of which it uses only a few.
Whether a text is such an expression at all decides what becomes of it, so that its tokens include
those that no literal has.

## Main definitions

* `Token`: brackets, punctuation, operators, numbers, texts, names and words with a meaning
* `symbolToken?`: the token of a sequence of operator characters
* `wordToken?`: the token of a sequence of letters
-/

namespace WorkflowDocs.Literal

/-- The kinds of brackets. -/
inductive Bracket where
  | round
  | square
  | curly
  deriving DecidableEq, Repr

/-- The words with a meaning of their own. -/
inductive Keyword where
  | noneWord
  | trueWord
  | falseWord
  | andWord
  | orWord
  | notWord
  | inWord
  | isWord
  | ifWord
  | elseWord
  | forWord
  | asyncWord
  | awaitWord
  | lambdaWord
  | yieldWord
  | fromWord
  /-- A word that stands in no expression. -/
  | reserved
  deriving DecidableEq, Repr

/-- A token of a structured literal. -/
inductive Token where
  | opening (b : Bracket)
  | closing (b : Bracket)
  | comma
  | colon
  | dot
  | ellipsis
  | equals
  /-- The sign `:=`, which names a value. -/
  | naming
  | sign (negative : Bool)
  | tilde
  | star
  | doubleStar
  | slash
  /-- Any other operator between two operands. -/
  | operator
  | comparison
  | number (x : Number)
  | text (codes : List Nat)
  | bytes (bs : List Nat)
  /-- A text with expressions in it. -/
  | template
  | name (s : String)
  | keyword (k : Keyword)
  deriving DecidableEq, Repr

/-- The sequences of two or three characters that are read as one symbol. -/
def longSymbols : List (List Char) :=
  ["!=", "%=", "&=", "**", "*=", "+=", "-=", "->", "//", "/=", ":=", "<<", "<=", "<>", "==", ">=",
    ">>", "@=", "^=", "|=", "**=", "//=", "<<=", ">>="].map String.toList

/-- The characters that symbols begin with. -/
def isSymbolChar (c : Char) : Bool :=
  "!%&*+-/:<=>@^|~".toList.contains c

/-- The token of a symbol; some symbols stand in no expression. -/
def symbolToken? (cs : List Char) : Option Token :=
  match String.ofList cs with
  | ":" => some .colon
  | "=" => some .equals
  | ":=" => some .naming
  | "+" => some (.sign false)
  | "-" => some (.sign true)
  | "~" => some .tilde
  | "*" => some .star
  | "**" => some .doubleStar
  | "/" => some .slash
  | "//" | "%" | "@" | "|" | "&" | "^" | "<<" | ">>" => some .operator
  | "==" | "!=" | "<" | "<=" | ">" | ">=" => some .comparison
  | _ => none

/-- The keyword with a spelling. -/
def keyword? : String → Option Keyword
  | "None" => some .noneWord
  | "True" => some .trueWord
  | "False" => some .falseWord
  | "and" => some .andWord
  | "or" => some .orWord
  | "not" => some .notWord
  | "in" => some .inWord
  | "is" => some .isWord
  | "if" => some .ifWord
  | "else" => some .elseWord
  | "for" => some .forWord
  | "async" => some .asyncWord
  | "await" => some .awaitWord
  | "lambda" => some .lambdaWord
  | "yield" => some .yieldWord
  | "from" => some .fromWord
  | "as" | "assert" | "break" | "class" | "continue" | "def" | "del" | "elif" | "except"
  | "finally" | "global" | "import" | "nonlocal" | "pass" | "raise" | "return" | "try" | "while"
  | "with" => some .reserved
  | _ => none

/-- The token of a sequence of letters: a keyword, which has one spelling only, or a name. -/
def wordToken? (dialect : Dialect) (cs : List Char) : Option Token :=
  match keyword? (String.ofList cs) with
  | some k => some (.keyword k)
  | none => (dialect.nameOf? cs).map .name

end WorkflowDocs.Literal
