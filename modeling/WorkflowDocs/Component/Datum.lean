import WorkflowDocs.Html.Basic
import WorkflowDocs.Html.Error
import WorkflowDocs.Literal.Basic
import WorkflowDocs.Path.Link

/-!
# Data for components

A component can be given data of any kind: plain values, paths, lists and tables, and the entries of
a document. What it asks of them has an answer wherever that makes sense: a field that is not there
is a missing value, a missing value is shown as nothing, and only what is asked of a missing value,
or asked of a value of a kind that has no answer, is an error.

## Main definitions

* `Datum`: the data
* `Datum.text`, `Datum.written`: how a datum is shown, on its own and inside another one
* `Datum.isTruthy`, `Datum.isOne`, `Datum.length`, `Datum.counted`: what it counts as
* `Datum.field`, `Datum.item`, `Datum.items`, `Datum.entries`: its parts
* `Datum.plural`, `Datum.addTo`, `Datum.toPath`, `Datum.linkFrom`: what can be made of it
-/

namespace WorkflowDocs

/-- A datum that a component is given. -/
inductive Datum where
  | missing
  | plain (v : Literal)
  | path (p : Path)
  | list (items : List Datum)
  | table (entries : List (String × Datum))
  /-- An entry of a document: its kind, the text that it is shown as if it has one of its own, its
  fields, and what follows from these. -/
  | entry (kind : String) (label : Option String) (fields derived : List (String × Datum))
  deriving Inhabited

namespace Datum

/-! ## Making data -/

/-- A text as a datum. -/
def ofText (s : String) : Datum :=
  .plain (.string s)

/-- A text that may not be there. -/
def ofText? (s : Option String) : Datum :=
  .plain (s.elim .null .string)

/-- A truth value as a datum. -/
def ofBool (b : Bool) : Datum :=
  .plain (.boolean b)

/-- A number as a datum. -/
def ofNat (n : Nat) : Datum :=
  .plain (.int n)

/-- Named texts as a datum. -/
def ofFields (fields : List (String × String)) : Datum :=
  .plain (.dict (fields.map fun f => (.string f.1, .string f.2)))

/-! ## Showing data -/

mutual

/-- Whether a datum has a written form. -/
def isWritable : Datum → Bool
  | .plain v => v.isWritable
  | .list items => areWritable items
  | .table entries | .entry _ _ entries _ => haveWritable entries
  | .missing | .path _ => true

/-- Whether all data have a written form. -/
def areWritable : List Datum → Bool
  | [] => true
  | d :: ds => d.isWritable && areWritable ds

/-- Whether all named data have a written form. -/
def haveWritable : List (String × Datum) → Bool
  | [] => true
  | (_, d) :: ds => d.isWritable && haveWritable ds

end

mutual

/-- The written form of a datum inside another one. -/
def written : Datum → String
  | .missing => "Undefined"
  | .plain v => v.text
  | .path p => "PosixPath(" ++ Text.quoted p.text ++ ")"
  | .list items => "[" ++ Text.joinWith ", " (writtenItems items) ++ "]"
  | .table entries => "\x7b" ++ Text.joinWith ", " (writtenEntries entries) ++ "\x7d"
  | .entry kind _ fields _ => kind ++ "(" ++ Text.joinWith ", " (writtenFields fields) ++ ")"

/-- The written items of a list. -/
def writtenItems : List Datum → List String
  | [] => []
  | d :: ds => d.written :: writtenItems ds

/-- The written entries of a table. -/
def writtenEntries : List (String × Datum) → List String
  | [] => []
  | (name, d) :: ds => (Text.quoted name ++ ": " ++ d.written) :: writtenEntries ds

/-- The written fields of an entry. -/
def writtenFields : List (String × Datum) → List String
  | [] => []
  | (name, d) :: ds => (name ++ "=" ++ d.written) :: writtenFields ds

end

/-- A datum as it is shown: a text as it is, and nothing for a missing value. -/
def text (d : Datum) : Except RenderError String :=
  match d with
  | .missing => .ok ""
  | .plain (.string s) => .ok s
  | .plain (.codes _) => .error .halfCharacter
  | .path p => .ok p.text
  | .entry _ (some label) _ _ => .ok label
  | d => if d.isWritable then .ok d.written else .error .longNumber

/-! ## What a datum counts as -/

/-- Whether a datum counts as present. -/
def isTruthy : Datum → Bool
  | .missing => false
  | .plain v => v.isTruthy
  | .path _ | .entry _ _ _ _ => true
  | .list items => !items.isEmpty
  | .table entries => !entries.isEmpty

/-- Whether a datum is the number one. -/
def isOne : Datum → Bool
  | .plain v => v.asReal.wholeNumber? == some 1
  | _ => false

/-- The text of a datum that counts as present. -/
def present (d : Datum) : Except RenderError (Option String) :=
  if d.isTruthy then some <$> d.text else .ok none

/-- A datum as a number of things. -/
def counted (d : Datum) : Except RenderError Html.Counted :=
  d.text.map fun s => ⟨s, !d.isOne⟩

/-- The number of parts of a datum. -/
def length : Datum → Except RenderError Nat
  | .missing => .ok 0
  | .plain (.string s) => .ok s.length
  | .plain (.codes cs) | .plain (.bytes cs) => .ok cs.length
  | .plain (.list items) | .plain (.tuple items) | .plain (.set items) => .ok items.length
  | .plain (.dict entries) => .ok entries.length
  | .list items => .ok items.length
  | .table entries => .ok entries.length
  | _ => .error .unfitValue

/-! ## Parts -/

/-- The datum under a name, or a missing value. -/
def find (name : String) (entries : List (String × Datum)) : Datum :=
  (entries.lookup name).getD .missing

/-- The field of a datum. -/
def field (d : Datum) (name : String) : Except RenderError Datum :=
  match d with
  | .missing => .error .missingValue
  | .plain (.dict entries) => .ok (((Literal.lookup? name entries).map .plain).getD .missing)
  | .path p => .ok (if name = "name" then ofText p.name else .missing)
  | .table entries => .ok (find name entries)
  | .entry _ _ fields derived => .ok (find name (fields ++ derived))
  | .plain _ | .list _ => .ok .missing

/-- The item of a datum at a position. -/
def item (d : Datum) (position : Nat) : Except RenderError Datum :=
  let found := fun (v : Option Literal) => Except.ok ((v.map .plain).getD .missing)
  match d with
  | .missing => .error .missingValue
  | .plain (.list items) | .plain (.tuple items) => found items[position]?
  | .plain (.string s) => found (s.toList[position]?.map fun c => .string c.toString)
  | .plain (.dict entries) =>
    found ((entries.find? fun e => Literal.sameKey e.1 (.int position)).map (·.2))
  | .list items => .ok (items[position]?.getD .missing)
  | _ => .ok .missing

/-- The items of a datum, one after the other. -/
def items : Datum → Except RenderError (List Datum)
  | .missing => .ok []
  | .plain (.list items) | .plain (.tuple items) | .plain (.set items) => .ok (items.map .plain)
  | .plain (.string s) => .ok (s.toList.map fun c => ofText c.toString)
  | .plain (.dict entries) => .ok (entries.map fun e => .plain e.1)
  | .list items => .ok items
  | .table entries => .ok (entries.map fun e => ofText e.1)
  | _ => .error .unfitValue

/-- The entries of a dictionary or a table. Nothing else has any. -/
def entries : Datum → Except RenderError (List (Datum × Datum))
  | .plain (.dict entries) => .ok (entries.map fun e => (.plain e.1, .plain e.2))
  | .table entries => .ok (entries.map fun e => (ofText e.1, e.2))
  | _ => .error .missingValue

/-- The text of a field. -/
def fieldText (d : Datum) (name : String) : Except RenderError String := do
  (← d.field name).text

/-- The text of a field that counts as present. -/
def fieldPresent (d : Datum) (name : String) : Except RenderError (Option String) := do
  (← d.field name).present

/-- Whether a field counts as present. -/
def fieldTruthy (d : Datum) (name : String) : Except RenderError Bool :=
  (d.field name).map isTruthy

/-! ## What can be made of a datum -/

/-- The plural of a noun. -/
def plural : Datum → Except RenderError String
  | .missing => .error .missingValue
  | .plain (.string s) => .ok (s ++ "s")
  | _ => .error .unfitValue

/-- A whole number and a number with a fraction added up. -/
def addFloat (n : Nat) : Decimal.Binary64 → Decimal.Binary64
  | .finite negative m q =>
    let k := (-q).toNat
    let part : Int := m * Nat.pow 2 q.toNat
    let total : Int := n * Nat.pow 2 k + (if negative then -part else part)
    Decimal.Binary64.ofDecimal (total < 0) (total.natAbs * Nat.pow 5 k) (-(k : Int))
  | x => x

/-- A number with a datum added to it. -/
def addTo (n : Nat) : Datum → Except RenderError Datum
  | .missing => .error .missingValue
  | .plain (.int k) => .ok (.plain (.int (n + k)))
  | .plain (.boolean b) => .ok (.plain (.int (n + if b then 1 else 0)))
  | .plain (.float x) => .ok (.plain (.float (addFloat n x)))
  | _ => .error .unfitValue

/-- A datum as a path. -/
def toPath : Datum → Except RenderError Path
  | .path p => .ok p
  | .plain (.string s) => .ok (Path.ofText s)
  | _ => .error .unfitValue

/-- The link to a datum on the page of a source. -/
def linkFrom (source target : Datum) : Except RenderError String := do
  let target ← target.toPath
  let source ← source.toPath
  return Path.relativeLink target source

end Datum

end WorkflowDocs
