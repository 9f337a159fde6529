import WorkflowDocs.Command.Arguments
import WorkflowDocs.Command.Graph
import WorkflowDocs.Site.Generate
import WorkflowDocs.Text.Alphanumeric

/-!
# The commands

The program has two commands: one makes the site of a project, one writes the graph of a
workflow. A run ends with a status: all is done, the command failed, or the command line has no
meaning. The settings of a command are checked before it runs, first the options as they come up
and then the operands, and the first fault decides how the run ends.

## Main definitions

* `Command`, `Command.read?`: commands and their command lines
* `Command.check`: how a run ends by its settings alone
* `Command.run`: what a command does
* `runProgram`: what the program does
-/

namespace WorkflowDocs

/-- How a run ends. -/
inductive Status where
  | done
  | failed
  | badUsage
  deriving DecidableEq, Repr, Inhabited

/-- The exit code of a status. -/
def Status.code : Status → Nat
  | .done => 0
  | .failed => 1
  | .badUsage => 2

/-- The first status of a list that is a fault. -/
def Status.first (statuses : List Status) : Status :=
  (statuses.find? (· != .done)).getD .done

/-- A command with its settings. -/
inductive Command where
  /-- Shows the help or the version. -/
  | inform
  /-- Makes the site of a project. -/
  | generate (settings : Arguments)
  /-- Writes the graph of a workflow. -/
  | graph (settings : Arguments)
  deriving DecidableEq, Repr, Inhabited

namespace Command

/-- The option that shows the help of a command. -/
def helpOption : OptionSpec := { key := "help", names := ["help"], takesValue := false }

/-- The option for more messages. -/
def verboseOption : OptionSpec :=
  { key := "verbose", letters := ['v'], names := ["verbose"], takesValue := false }

/-- The option for the place of the result. -/
def outputOption : OptionSpec := { key := "output", letters := ['o'], names := ["output"] }

/-- The options of the program itself. -/
def programOptions : List OptionSpec :=
  [helpOption, { key := "version", names := ["version"], takesValue := false }]

/-- The options of the command that makes a site. -/
def generateOptions : List OptionSpec :=
  [helpOption, verboseOption, outputOption,
    { key := "exclude", letters := ['e'], names := ["exclude"] },
    { key := "external", names := ["external-dirs"] },
    { key := "title", letters := ['t'], names := ["title"] },
    { key := "logo", letters := ['l'], names := ["logo"] }]

/-- The options of the command that writes a graph. -/
def graphOptions : List OptionSpec := [helpOption, verboseOption, outputOption]

/-- The patterns that are left out when none are given on the command line. -/
def standardExclude : List String := ["__pycache__/", ".git/", "cached-data/"]

/-- The values given to an option, or the standard ones in place of none. -/
def valuesOr (standard : List String) (a : Arguments) (key : String) : List String :=
  if a.has key then a.valuesOf key else standard

/-- Reads the arguments of a command with the given options. -/
def readWith? (options : List OptionSpec) (command : Arguments → Command) (args : List String) :
    Option Command :=
  (Arguments.read? options false args).map fun a =>
    if a.has helpOption.key then .inform else command a

/-- Whether a name looks like an option rather than a command: it begins with a mark. -/
def looksLikeOption (name : String) : Bool :=
  name.toList.head?.any (!Text.isAlphanumeric ·)

/-- Reads a command line. One that is empty asks for the help, and so does a command that is not
known and looks like an option. -/
def read? (args : List String) : Option Command := do
  if args.isEmpty then return .inform
  let a ← Arguments.read? programOptions true args
  if !a.options.isEmpty then return .inform
  match a.operands with
  | [] => none
  | "generate" :: rest => readWith? generateOptions .generate rest
  | "graph" :: rest => readWith? graphOptions .graph rest
  | name :: _ => if looksLikeOption name then return .inform else none

/-- What stands at a path given as text. A slash or a dot at the end asks for a directory. -/
def entryAt? (w : Workspace) (s : String) : Option Entry :=
  if s = "" then none
  else do
    let place ← w.tree.locate? w.cwd (Path.ofText s)
    let entry ← w.tree.get? place
    if (Text.endsWith s "/" || Text.endsWith s "/.") && !entry.isDirectory then none else entry

/-- The status of a setting that has to name an entry of a kind. Asking for a path that cannot be
followed is a failure. -/
def entryStatus (w : Workspace) (accepts : Entry → Bool) (s : String) : Status :=
  if Path.hasZero s then .failed
  else if (entryAt? w s).any accepts then .done
  else .badUsage

/-- The status of an option: a logo has to be a file, and the place of the result a path that can be
followed. -/
def optionStatus (w : Workspace) (a : Arguments) (key : String) : Status :=
  match key, a.valueOf? key with
  | "output", some s => if Path.hasZero s then .failed else .done
  | "logo", some s => entryStatus w (!·.isDirectory) s
  | _, _ => .done

/-- The directory of the project. -/
def projectRoot (a : Arguments) : String :=
  a.operands.head?.getD "."

/-- How a run ends by the settings of the command alone: a project has to be a directory and a
source a file, and there may be one of them only. -/
def check (w : Workspace) : Command → Status
  | .inform => .done
  | .generate a =>
    Status.first (a.keys.map (optionStatus w a) ++
      [entryStatus w Entry.isDirectory (projectRoot a),
        if a.operands.length ≤ 1 then .done else .badUsage])
  | .graph a =>
    Status.first (a.keys.map (optionStatus w a) ++
      [a.operands.head?.elim .badUsage (entryStatus w (!·.isDirectory)),
        if a.has "output" && a.operands.length ≤ 1 then .done else .badUsage])

/-- The file tree after a command, and how the command ends. -/
def run (assets : Option (List (Place × Entry))) (w : Workspace) (c : Command) :
    FileTree × Status :=
  if c.check w != .done then (w.tree, c.check w)
  else
    let resolve := fun s => Path.resolve w.cwd (Path.ofText s)
    let ending := fun complete => if complete then Status.done else .failed
    match c with
    | .inform => (w.tree, .done)
    | .generate a =>
      let job : SiteJob := ⟨resolve ((a.valueOf? "output").getD "docs/wdl"),
        (a.valueOf? "title").getD programTitle, (a.valueOf? "logo").map Path.ofText, assets⟩
      let result := job.document w (Project.make (resolve (projectRoot a))
        (valuesOr standardExclude a "exclude") (valuesOr [Path.externalName] a "external"))
      (result.tree, ending result.complete)
    | .graph a =>
      let (tree, complete) := w.writeGraph (resolve (a.operands.head?.getD ""))
        (resolve ((a.valueOf? "output").getD ""))
      (tree, ending complete)

end Command

/-- The file tree after a run of the program with the given arguments, and how it ends. -/
def runProgram (assets : Option (List (Place × Entry))) (w : Workspace) (args : List String) :
    FileTree × Status :=
  match Command.read? args with
  | none => (w.tree, .badUsage)
  | some c => c.run assets w

end WorkflowDocs
