import WorkflowDocs.Command.Run
import WorkflowDocs.Site.Assets

/-!
# The command line

Reads the files that the arguments can name, runs the program on them, and writes what it changed.
A reader of sources is not part of this program, so that every source counts as one that cannot be
read.
-/

namespace WorkflowDocs.Shell

/-- Adds what is at a path of the file system to a tree, if there is something. -/
partial def readInto (t : FileTree) (file : String) : IO FileTree := do
  let found ← try some <$> IO.FS.realPath file catch _ => pure none
  let some here := found | return t
  let place := (Path.ofText here.toString).names
  if ← here.isDir then
    let tree := ((t.makeDirsFrom? [] place).map (·.1)).getD t
    (← here.readDir).foldlM (fun t entry => readInto t entry.path.toString) tree
  else
    let tree := ((t.makeDirsFrom? [] place.dropLast).map (·.1)).getD t
    return tree.put place (.file (← IO.FS.readBinFile here))

/-- The files that all pages use, if the directory of the program holds all of them. -/
def readAssets : IO (Option (List (Place × Entry))) := do
  let some dir := (← IO.appPath).parent | return none
  let place := (Path.ofText dir.toString).child staticName
  let tree ← readInto {} place.text
  return if assetNames.all fun name => tree.isFile (place.names ++ name) then
    some (assetsOf fun name => (tree.read? (place.names ++ name)).getD .empty)
  else none

/-- Writes the entries of a tree that another one does not have. -/
def writeChanges (before after : FileTree) : IO Unit :=
  after.entries.forM fun (place, entry) => do
    let file := (⟨.slash, place⟩ : Path).text
    match entry with
    | .directory => IO.FS.createDirAll file
    | .file content =>
      unless (before.read? place).any (·.data == content.data) do
        IO.FS.writeBinFile file content

end WorkflowDocs.Shell

open WorkflowDocs in
/-- Runs the program with the arguments of the command line. -/
def main (args : List String) : IO UInt32 := do
  let here := (← IO.currentDir).toString
  let tree ← (here :: args.filter fun arg => !Arguments.isOption arg).foldlM Shell.readInto {}
  let w : Workspace := { tree, cwd := Path.ofText here }
  let (after, status) := runProgram (← Shell.readAssets) w args
  Shell.writeChanges tree after
  return status.code.toUInt32
