import WorkflowDocs.Decimal.Reading
import WorkflowDocs.Text.JsonString
import WorkflowDocs.Wdl.Expr.Printer

/-!
# Literal values of expressions

An expression without references may have a value that is known from its text alone. Numbers
with a fraction are written with six places there, and strings as JSON. The items of an array are
brought to the type of its items, which the array remembers: an array that has the items asked for
is not looked into again.

## Main definitions

* `LiteralValue`, `LiteralValue.text`: literal values and their text
* `LiteralValue.coerce?`: a value brought to a type
* `Expr.literal`: the literal value of an expression
-/

namespace WorkflowDocs

/-- A literal value. -/
inductive LiteralValue where
  | boolean (b : Bool)
  | int (n : Int)
  | float (x : Decimal.Binary64)
  | string (s : String)
  /-- An array with the type that its items are taken to have. -/
  | array (item : WdlType) (items : List LiteralValue)
  deriving Inhabited

/-- The number of places of a literal number with a fraction. -/
def literalPlaces : Nat := 6

namespace LiteralValue

mutual

/-- The text of a literal value. -/
def text : LiteralValue → String
  | .boolean b => booleanText b
  | .int n => Decimal.intText n
  | .float x => Decimal.writeFixed literalPlaces x
  | .string s => Text.jsonString s
  | .array _ items => "[" ++ Text.joinWith ", " (texts items) ++ "]"

/-- The texts of literal values. -/
def texts : List LiteralValue → List String
  | [] => []
  | v :: vs => v.text :: texts vs

end

/-- A whole number as a number with a fraction, unless it is too great. -/
def floatOfInt? (n : Int) : Option LiteralValue :=
  match Decimal.Binary64.ofDecimal (n < 0) n.natAbs 0 with
  | .infinite _ => none
  | x => some (.float x)

/-- A value brought to a primitive type: everything becomes a string, a string becomes a number or
a path if it is one, and a whole number a number with a fraction. -/
def coercePrimitive? : Primitive → LiteralValue → Option LiteralValue
  | .any, v => some v
  | .string, .string s => some (.string s)
  | .string, v => some (.string v.text)
  | .boolean, .boolean b => some (.boolean b)
  | .int, .int n => some (.int n)
  | .int, .string s => (Decimal.readWhole? s).map .int
  | .float, .float x => some (.float x)
  | .float, .int n => floatOfInt? n
  | .float, .string s => (Decimal.readNumber? s).map .float
  | .file, .string s => if Text.endsWith s "/" then none else some (.string s)
  | .directory, .string s => some (.string s)
  | _, _ => none

/-- Whether items of one type can stay as they are where items of another are asked for: the types
are written alike, or one of them is any type. -/
def staysAs (own asked : WdlType) : Bool :=
  own.text == asked.text || own.isAny || asked.isAny

/-- A value brought to a type. An array is brought to an array type item by item, unless its items
can stay as they are, and anything else becomes an array of one item. An array that is made so takes
the whole type for the type of its items. -/
def coerce? : WdlType → LiteralValue → Option LiteralValue
  | .primitive kind _, v => coercePrimitive? kind v
  | .array item nonempty optional, .array own items =>
    if nonempty && items.isEmpty then none
    else if staysAs own item then some (.array own items)
    else (items.mapM (coerce? item)).map (.array (.array item nonempty optional))
  | .array item nonempty optional, v =>
    (coerce? item v).map fun v => .array (.array item nonempty optional) [v]
  | _, _ => none

end LiteralValue

/-- Why asking an expression for its literal value gives none: it has no such value, or its kind of
expression does not support the question. -/
inductive NoLiteral where
  | absent
  | unsupported
  deriving DecidableEq, Repr, Inhabited

/-- The text of the pieces of a string; nothing when one of them is interpolated. -/
def Piece.plainText? : List Piece → Option String
  | [] => some ""
  | .text s :: ps => (Piece.plainText? ps).map (s ++ ·)
  | .hole _ _ :: _ => none

mutual

/-- The literal value of an expression. A struct whose members all have one has an unknown type and
so none itself. -/
def Expr.literal : Expr → Except NoLiteral LiteralValue
  | .boolean b => .ok (.boolean b)
  | .int n => .ok (.int n)
  | .float x => .ok (.float x)
  | .string pieces =>
    match Piece.plainText? pieces.tail.dropLast with
    | some s => .ok (.string s)
    | none => .error .absent
  | .array items (some (.array item _ _)) => (Expr.itemLiterals item items).map (.array item)
  | .array _ _ | .pair _ _ | .map _ => .error .unsupported
  | .struct members => do
    Expr.checkMembers members
    .error .unsupported
  | _ => .error .absent

/-- The literal values of the items of an array, each brought to the type of the items before the
next one is looked at. -/
def Expr.itemLiterals (item : WdlType) : List Expr → Except NoLiteral (List LiteralValue)
  | [] => .ok []
  | e :: es => do
    let v ← e.literal
    let v ← (v.coerce? item).elim (.error .unsupported) .ok
    return v :: (← Expr.itemLiterals item es)

/-- Looks for a member without a literal value, from the first on. -/
def Expr.checkMembers : List (String × Expr) → Except NoLiteral Unit
  | [] => .ok ()
  | (_, e) :: ms => do
    let _ ← e.literal
    Expr.checkMembers ms

end

end WorkflowDocs
