import WorkflowDocs.Catalog.Document

/-!
# Agreement of documents

Two documents agree when all that they say is the same. Named values are compared by name, so
their order does not matter.

## Main definitions

* `DocumentInfo.agrees`: agreement of documents, and likewise of their parts
-/

namespace WorkflowDocs

/-- Whether two lists agree member by member. -/
def listsAgree {α : Type} (same : α → α → Bool) (as bs : List α) : Bool :=
  as.length == bs.length && (as.zip bs).all fun p => same p.1 p.2

/-- Whether two optional values are both missing or agree. -/
def optionsAgree {α : Type} (same : α → α → Bool) : Option α → Option α → Bool
  | none, none => true
  | some a, some b => same a b
  | _, _ => false

/-- Whether two descriptions are of one kind and read the same. -/
def Note.agrees : Note → Note → Bool
  | .text a, .text b => a == b
  | .value a, .value b => a.text == b.text
  | _, _ => false

/-- Whether two inputs agree. -/
def InputInfo.agrees (a b : InputInfo) : Bool :=
  a.name == b.name && a.type.agrees b.type &&
    optionsAgree Note.agrees a.description b.description && a.default == b.default

/-- Whether two outputs agree. -/
def OutputInfo.agrees (a b : OutputInfo) : Bool :=
  a.name == b.name && a.type.agrees b.type && a.description == b.description &&
    a.expression == b.expression

/-- Whether two tasks agree. -/
def TaskInfo.agrees (a b : TaskInfo) : Bool :=
  a.name == b.name && a.description == b.description &&
    listsAgree InputInfo.agrees a.inputs b.inputs &&
    listsAgree OutputInfo.agrees a.outputs b.outputs && a.command == b.command &&
    Fields.agree (· == ·) a.runtime b.runtime && Fields.agree (· == ·) a.metadata b.metadata &&
    a.author == b.author && a.email == b.email

/-- Whether two calls agree. -/
def CallInfo.agrees (a b : CallInfo) : Bool :=
  a.name == b.name && a.target == b.target && a.aliasName == b.aliasName &&
    Fields.agree (· == ·) a.inputs b.inputs && a.isLocal == b.isLocal && a.link == b.link &&
    a.kind == b.kind

/-- Whether two workflows agree. -/
def WorkflowInfo.agrees (a b : WorkflowInfo) : Bool :=
  a.name == b.name && a.description == b.description &&
    listsAgree InputInfo.agrees a.inputs b.inputs &&
    listsAgree OutputInfo.agrees a.outputs b.outputs &&
    listsAgree CallInfo.agrees a.calls b.calls && a.images == b.images && a.graph == b.graph &&
    Fields.agree (· == ·) a.metadata b.metadata && a.author == b.author && a.email == b.email

/-- Whether two documents agree. -/
def DocumentInfo.agrees (a b : DocumentInfo) : Bool :=
  a.filePath == b.filePath && a.relativePath == b.relativePath && a.version == b.version &&
    optionsAgree WorkflowInfo.agrees a.workflow b.workflow &&
    listsAgree TaskInfo.agrees a.tasks b.tasks && a.imports == b.imports && a.source == b.source

end WorkflowDocs
