import WorkflowDocs.Path.Basic

/-!
# Paths that nothing can stand at

A file system takes names up to a length, paths up to a length, and no name with a zero character
in it.

## Main definitions

* `PathFault`: why nothing can stand at a path
* `Path.nameFault?`, `Path.fault?`: the fault of a name and of a path
-/

namespace WorkflowDocs

/-- Why nothing can stand at a path. -/
inductive PathFault where
  /-- A name has a zero character in it. -/
  | zeroCharacter
  /-- A name or the whole path is too long. -/
  | tooLong
  deriving DecidableEq, Repr, Inhabited

namespace Path

/-- The longest name that an entry may have, in bytes. -/
def nameLimit : Nat := 255

/-- The longest path that an entry may have, in bytes. -/
def pathLimit : Nat := 4095

/-- Whether a name has a zero character in it. -/
def hasZero (name : String) : Bool :=
  name.toList.contains '\x00'

/-- Whether a name is too long for an entry. -/
def isLongName (name : String) : Bool :=
  nameLimit < name.utf8ByteSize

/-- Why no entry can have a name. -/
def nameFault? (name : String) : Option PathFault :=
  if hasZero name then some .zeroCharacter
  else if isLongName name then some .tooLong
  else none

/-- Whether the path can be followed at all: no name of it has a zero character in it. All other
Unicode characters can be encoded and may stand in a name. -/
def isFollowable (p : Path) : Bool :=
  !p.names.any hasZero

/-- Whether the whole path is too long. -/
def isLong (p : Path) : Bool :=
  pathLimit < p.text.utf8ByteSize

/-- Why nothing can stand at a path. -/
def fault? (p : Path) : Option PathFault :=
  if !p.isFollowable then some .zeroCharacter
  else if p.isLong || p.names.any isLongName then some .tooLong
  else none

end Path

end WorkflowDocs
