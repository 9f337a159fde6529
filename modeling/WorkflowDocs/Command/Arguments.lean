import WorkflowDocs.Text.Cut

/-!
# Reading command lines

A command line is a list of options and operands. An option has names of one letter after a dash
and of several letters after two; options of one letter may stand together, and the value of an
option may be attached to it or be the next argument. Two dashes alone end the options.

## Main definitions

* `OptionSpec`: an option that a command knows
* `Arguments`: what a command line says
* `Arguments.read?`: reading a command line
-/

namespace WorkflowDocs

/-- An option: its key, its letters and its long names, and whether it takes a value. -/
structure OptionSpec where
  key : String
  letters : List Char := []
  names : List String
  takesValue : Bool := true
  deriving DecidableEq, Repr, Inhabited

/-- What a command line says: the options in order, with the values of those that take one, and
the operands. -/
structure Arguments where
  options : List (String × String) := []
  operands : List String := []
  deriving DecidableEq, Repr, Inhabited

namespace Arguments

/-- The values given to an option, in order. -/
def valuesOf (a : Arguments) (key : String) : List String :=
  a.options.filterMap fun o => if o.1 = key then some o.2 else none

/-- The last value given to an option. -/
def valueOf? (a : Arguments) (key : String) : Option String :=
  (a.valuesOf key).getLast?

/-- The options that are given, in the order in which they come up first. -/
def keys (a : Arguments) : List String :=
  (a.options.map (·.1)).eraseDups

/-- Whether an option is given. -/
def has (a : Arguments) (key : String) : Bool :=
  a.options.any fun o => o.1 == key

/-- What one argument says: options that are complete, and perhaps one that takes the next
argument as its value. -/
structure Group where
  complete : List (String × String) := []
  pending : Option String := none
  deriving DecidableEq, Repr, Inhabited

/-- Reads the letters after a dash. -/
def readLetters? (specs : List OptionSpec) : List Char → Option Group
  | [] => some {}
  | c :: cs => do
    let spec ← specs.find? fun s => s.letters.contains c
    if !spec.takesValue then
      let rest ← readLetters? specs cs
      return { rest with complete := (spec.key, "") :: rest.complete }
    else if cs.isEmpty then return { pending := some spec.key }
    else return { complete := [(spec.key, String.ofList cs)] }

/-- Splits a long option at its first equals sign. -/
def splitValue (s : String) : String × Option String :=
  let name := Text.before '=' s
  if name = s then (s, none) else (name, some (Text.dropChars (name.length + 1) s))

/-- Reads a long option, with an attached value if there is one. -/
def readLong? (specs : List OptionSpec) (arg : String) : Option Group := do
  let (name, value) := splitValue (Text.dropChars 2 arg)
  let spec ← specs.find? fun s => s.names.contains name
  match spec.takesValue, value with
  | true, some v => return { complete := [(spec.key, v)] }
  | true, none => return { pending := some spec.key }
  | false, some _ => none
  | false, none => return { complete := [(spec.key, "")] }

/-- Reads an argument that begins with a dash. -/
def readGroup? (specs : List OptionSpec) (arg : String) : Option Group :=
  if Text.startsWith arg "--" then readLong? specs arg
  else readLetters? specs (arg.toList.drop 1)

/-- Whether an argument is an option: a dash and something after it. -/
def isOption (arg : String) : Bool :=
  Text.startsWith arg "-" && arg != "-"

/-- Adds options before those that are there. -/
def addOptions (a : Arguments) (options : List (String × String)) : Arguments :=
  { a with options := options ++ a.options }

/-- Reads a command line. When operands end the options, everything from the first operand on is
an operand. Nothing when there is an option that is not known, that lacks its value or has one too
many. -/
def read? (specs : List OptionSpec) (operandsEnd : Bool) : List String → Option Arguments
  | [] => some {}
  | [arg] =>
    if arg = "--" then some {}
    else if isOption arg then do
      let group ← readGroup? specs arg
      if group.pending.isSome then none else some { options := group.complete }
    else some { operands := [arg] }
  | arg :: next :: rest =>
    if arg = "--" then some { operands := next :: rest }
    else if isOption arg then do
      let group ← readGroup? specs arg
      match group.pending with
      | some key =>
        return (← read? specs operandsEnd rest).addOptions (group.complete ++ [(key, next)])
      | none => return (← read? specs operandsEnd (next :: rest)).addOptions group.complete
    else if operandsEnd then some { operands := arg :: next :: rest }
    else do
      let a ← read? specs operandsEnd (next :: rest)
      return { a with operands := arg :: a.operands }

end Arguments

end WorkflowDocs
