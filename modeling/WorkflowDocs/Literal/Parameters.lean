import WorkflowDocs.Literal.Token

/-!
# Parameters of functions

No literal holds a function, but an expression may. Its parameters stand before a colon: plain
ones, one for the remaining positions after a star, ones that are given by name only, and one for
the remaining names after two stars.

## Main definitions

* `Parameters`: how far the parameters have been read
* `Parameters.step?`: one token outside a default value
* `Parameters.mayEnd`: whether the colon may follow
-/

namespace WorkflowDocs.Literal

/-- Which parameters are being read. -/
inductive ParameterStage where
  | positional
  /-- After a star alone, behind which a parameter must follow. -/
  | bareStar
  /-- Parameters that are given by name. -/
  | named
  /-- After the parameter for the remaining names, which is the last. -/
  | last
  deriving DecidableEq, Repr

/-- What comes next among the parameters. -/
inductive ParameterPlace where
  /-- A parameter, or the end. -/
  | item
  /-- The name after a star, or a comma. -/
  | afterStar
  /-- The name after two stars. -/
  | afterDoubleStar
  /-- A default value, or the end of the parameter. -/
  | named
  /-- The end of the parameter. -/
  | closed
  /-- Inside a default value. -/
  | value
  deriving DecidableEq, Repr

/-- How far the parameters have been read: whether there is one, whether a slash has divided them,
and whether a default value has been given, after which each one needs its own. -/
structure Parameters where
  stage : ParameterStage := .positional
  place : ParameterPlace := .item
  any : Bool := false
  divided : Bool := false
  hasDefault : Bool := false
  deriving DecidableEq, Repr

namespace Parameters

/-- Whether the parameter just read may stay without a default value. -/
def mayOmitDefault (p : Parameters) : Bool :=
  p.stage != .positional || !p.hasDefault

/-- Whether the colon may follow. -/
def mayEnd (p : Parameters) : Bool :=
  match p.place with
  | .item => p.stage != .bareStar
  | .named => p.mayOmitDefault
  | .closed | .value => true
  | _ => false

/-- Begins a parameter. -/
def itemStep? (p : Parameters) : Token → Option Parameters
  | .name _ =>
    match p.stage with
    | .positional => some { p with place := .named, any := true }
    | .bareStar | .named => some { p with place := .named, stage := .named }
    | .last => none
  | .star => if p.stage = .positional then some { p with place := .afterStar } else none
  | .doubleStar =>
    if p.stage = .positional || p.stage = .named then some { p with place := .afterDoubleStar }
    else none
  | .slash =>
    if p.stage = .positional && p.any && !p.divided then
      some { p with place := .closed, divided := true }
    else none
  | _ => none

/-- One token outside a default value. -/
def step? (p : Parameters) (t : Token) : Option Parameters :=
  match p.place, t with
  | .item, t => p.itemStep? t
  | .afterStar, .name _ => some { p with place := .closed, stage := .named }
  | .afterStar, .comma => some { p with place := .item, stage := .bareStar }
  | .afterDoubleStar, .name _ => some { p with place := .closed, stage := .last }
  | .named, .equals => some { p with place := .value, hasDefault := true }
  | .named, .comma => if p.mayOmitDefault then some { p with place := .item } else none
  | .closed, .comma => some { p with place := .item }
  | _, _ => none

end Parameters

end WorkflowDocs.Literal
