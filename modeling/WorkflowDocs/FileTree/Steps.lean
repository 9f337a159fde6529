import WorkflowDocs.FileTree.Basic

/-!
# Changing a file tree step by step

A change is a list of steps. Each step either changes the tree or fails and leaves it as it is; a
failure ends the change, and what the steps before it did remains. A file is written in one step
where its content is sure to get into it, and in two where it may break off: the file is opened, and
is empty then, and it is filled.

## Main definitions

* `FileTree.Step`, `FileTree.run`: steps and their effect
* `FileTree.makeDirs`, `FileTree.write`: steps on paths
* `FileTree.openFile`, `FileTree.fill`: writing a text that may break off
-/

namespace WorkflowDocs.FileTree

/-- A step: the changed tree, or nothing when it fails. -/
abbrev Step := FileTree → Option FileTree

/-- The tree after the steps up to the first that fails, and whether none did. -/
def run : List Step → FileTree → FileTree × Bool
  | [], t => (t, true)
  | step :: steps, t =>
    match step t with
    | some t => run steps t
    | none => (t, false)

theorem run_append (first second : List Step) (t : FileTree) :
    run (first ++ second) t =
      if (run first t).2 then run second (run first t).1 else run first t := by
  induction first generalizing t with
  | nil => rfl
  | cons step steps ih =>
    cases h : step t with
    | none => simp [run, h]
    | some u => simpa [run, h] using ih u

/-- Makes the directory of a path and those above it. -/
def makeDirs (cwd dir : Path) : Step := fun t =>
  (t.makeDirs? cwd dir).map (·.1)

/-- Writes the file at a path whose directory is there, under a name that a file can have. The
content gets into the file as a whole. -/
def write (cwd file : Path) (content : ByteArray) : Step := fun t => do
  let dir ← t.locate? cwd file.parent
  if isEntryName file.name && !(cwd.join file).isLong then
    t.writeFile? (dir ++ [file.name]) content
  else none

/-- Writes a text to the file at a path whose directory is there. -/
def writeText (cwd file : Path) (text : String) : Step :=
  write cwd file text.toUTF8

/-- Opens the file at a path for writing. Whatever was in it is lost. -/
def openFile (cwd file : Path) : Step :=
  write cwd file .empty

/-- The steps that write a text to a file that was opened. Where they break off, the remnant of the
text is in the file, and the change ends. -/
def fill (cwd file : Path) (text : String) (remnant : Option ByteArray) : List Step :=
  match remnant with
  | none => [writeText cwd file text]
  | some part => [write cwd file part, fun _ => none]

end WorkflowDocs.FileTree
