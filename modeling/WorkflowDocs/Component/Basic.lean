import WorkflowDocs.Component.Datum

/-!
# Components

A component is a part of a page that can be placed by itself. It has parameters, some with a
standard value, and some components enclose a content that is given to them.

## Main definitions

* `Parameter`, `Component`: components and their parameters
* `Placing`: what a component is given
* `Component.place`: the part of a page that a component makes of what it is given
-/

namespace WorkflowDocs

/-- A parameter of a component, with the value it has when it is not given. -/
structure Parameter where
  name : String
  standard : Datum := .missing
  deriving Inhabited

/-- The parameter of a name without a standard value. -/
instance : Coe String Parameter := ⟨fun name => { name }⟩

/-- The content that a component encloses; asking for it may fail. -/
abbrev Content := Except RenderError Html

/-- What a component is given: the values of its parameters, and perhaps a content. -/
structure Placing where
  values : List (String × Datum)
  content? : Option Content
  deriving Inhabited

namespace Placing

/-- The value of a parameter. -/
def get (p : Placing) (name : String) : Datum :=
  Datum.find name p.values

/-- The text of a parameter. -/
def text (p : Placing) (name : String) : Except RenderError String :=
  (p.get name).text

/-- The text of a parameter that counts as present. -/
def present (p : Placing) (name : String) : Except RenderError (Option String) :=
  (p.get name).present

/-- Whether a parameter counts as present. -/
def has (p : Placing) (name : String) : Bool :=
  (p.get name).isTruthy

/-- The content, which has to be there. -/
def content (p : Placing) : Content :=
  p.content?.getD (.error .missingValue)

/-- The content, or a standard one in place of none. -/
def contentOr (p : Placing) (standard : Html) : Content :=
  p.content?.getD (.ok standard)

end Placing

/-- A component: its parameters, whether it can enclose a content, and what it makes of what it is
given. -/
structure Component where
  parameters : List Parameter := []
  takesContent : Bool := false
  make : Placing → Except RenderError Html

namespace Component

/-- A component that always makes the same. -/
def fixed (h : Html) : Component where
  make := fun _ => .ok h

/-- The values of parameters: those given in order, then those given by name, then the standard
ones. -/
def values : List Parameter → List Datum → List (String × Datum) → List (String × Datum)
  | [], _, _ => []
  | p :: ps, d :: given, named => (p.name, d) :: values ps given named
  | p :: ps, [], named => (p.name, (named.lookup p.name).getD p.standard) :: values ps [] named

/-- Whether values can be given to a component: there are not too many, and each name is that of a
parameter that is not given in order. -/
def accepts (c : Component) (given : List Datum) (named : List (String × Datum)) : Bool :=
  given.length ≤ c.parameters.length &&
    named.all fun v => ((c.parameters.drop given.length).map (·.name)).contains v.1

/-- The part of a page that a component makes of values given in order, values given by name, and
perhaps a content. -/
def place (c : Component) (given : List Datum) (named : List (String × Datum))
    (content? : Option Content) : Except RenderError Html :=
  if c.accepts given named && (c.takesContent || content?.isNone) then
    c.make ⟨values c.parameters given named, content?⟩
  else .error .unfitValue

end Component

end WorkflowDocs
