import WorkflowDocs.Decimal.Notation
import WorkflowDocs.Wdl.Expr

/-!
# The printed form of expressions

Expressions print in the notation of the language. An operator with too few operands has no
printed form, and neither has an expression that contains one.

## Main definitions

* `numberLayout`: how numbers with a fraction are written
* `Expr.text?`: the printed form
-/

namespace WorkflowDocs

/-- Numbers with a fraction are written in the fewest digits that read back, with an exponent of
at least two digits below `0.0001` and from `10 ^ 16`. -/
def numberLayout : Decimal.Layout where
  positionalFrom := -4
  exponentFrom := 16
  exponentWidth := 2

/-- The printed form of a truth value. -/
def booleanText (b : Bool) : String :=
  if b then "true" else "false"

/-- An argument in parentheses. -/
def parenthesized (s : String) : String :=
  "(" ++ s ++ ")"

/-- Whether an argument of `function` needs parentheses: a conditional as the first operand of a
binary operator, and an application that binds less strongly than its parent. -/
def needsParens (function : String) (first : Bool) : Expr → Bool
  | .ifThenElse _ _ _ => first && (BinaryOp.ofName? function).isSome
  | .apply inner _ => applyPrecedence function > applyPrecedence inner
  | _ => false

/-- The application of `function` to printed arguments. -/
def applicationText? (function : String) (args : List String) : Option String :=
  match BinaryOp.ofName? function with
  | some op =>
    match args with
    | a :: b :: _ => some (a ++ " " ++ op.symbol ++ " " ++ b)
    | _ => none
  | none =>
    if function = "_at" then
      match args with
      | a :: b :: _ => some (a ++ "[" ++ b ++ "]")
      | _ => none
    else if function = "_negate" then
      match args with
      | a :: _ => some ("!" ++ a)
      | _ => none
    else some (function ++ "(" ++ Text.joinWith "," args ++ ")")

/-- An interpolated expression with its options in front. -/
def placeholderText (options : List (String × String)) (value : String) : String :=
  let words := options.map fun o => o.1 ++ "=\"" ++ o.2 ++ "\""
  "~\x7b" ++ Text.joinWith " " (words ++ [value]) ++ "\x7d"

mutual

/-- The printed form of an expression. -/
def Expr.text? : Expr → Option String
  | .boolean b => some (booleanText b)
  | .int n => some (Decimal.intText n)
  | .float x => some (numberLayout.write x)
  | .null => some "None"
  | .string pieces => Piece.texts? pieces
  | .placeholder options value => value.text?.map (placeholderText options)
  | .array items _ => (Expr.texts? items).map fun ts => "[" ++ Text.joinWith ", " ts ++ "]"
  | .pair left right => do
    let l ← left.text?
    let r ← right.text?
    return "(" ++ l ++ ", " ++ r ++ ")"
  | .map entries =>
    (Expr.entryTexts? entries).map fun ts => "\x7b" ++ Text.joinWith ", " ts ++ "\x7d"
  | .struct members =>
    (Expr.memberTexts? members).map fun ts => "\x7b" ++ Text.joinWith ", " ts ++ "\x7d"
  | .ifThenElse condition yes no => do
    let c ← condition.text?
    let y ← yes.text?
    let n ← no.text?
    return "if " ++ c ++ " then " ++ y ++ " else " ++ n
  | .ident name => some name
  | .get value member => value.text?.map fun t =>
    match member with
    | some m => t ++ "." ++ m
    | none => t
  | .apply function args => (Expr.argTexts? function true args).bind (applicationText? function)

/-- The printed forms of a list of expressions. -/
def Expr.texts? : List Expr → Option (List String)
  | [] => some []
  | e :: es => do
    let t ← e.text?
    let ts ← Expr.texts? es
    return t :: ts

/-- The printed arguments of `function`; `first` says that the list begins with its first one. -/
def Expr.argTexts? (function : String) (first : Bool) : List Expr → Option (List String)
  | [] => some []
  | e :: es => do
    let t ← e.text?
    let ts ← Expr.argTexts? function false es
    return (if needsParens function first e then parenthesized t else t) :: ts

/-- The printed entries of a map. -/
def Expr.entryTexts? : List (Expr × Expr) → Option (List String)
  | [] => some []
  | (k, v) :: es => do
    let k ← k.text?
    let v ← v.text?
    let ts ← Expr.entryTexts? es
    return (k ++ ": " ++ v) :: ts

/-- The printed members of a struct value. -/
def Expr.memberTexts? : List (String × Expr) → Option (List String)
  | [] => some []
  | (name, v) :: es => do
    let v ← v.text?
    let ts ← Expr.memberTexts? es
    return ("\"" ++ name ++ "\": " ++ v) :: ts

/-- The concatenated printed forms of the pieces of a string. -/
def Piece.texts? : List Piece → Option String
  | [] => some ""
  | .text s :: ps => (Piece.texts? ps).map (s ++ ·)
  | .hole options value :: ps => do
    let t ← value.text?
    let rest ← Piece.texts? ps
    return placeholderText options t ++ rest

end

end WorkflowDocs
