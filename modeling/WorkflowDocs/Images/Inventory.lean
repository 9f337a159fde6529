import WorkflowDocs.Images.TaskImage

/-!
# The images of a workflow

The calls of a workflow are listed under the images of the tasks they call. A task is looked up
by the name of the callee, among the tasks of the document and those of its imports; an imported
task hides a task of the same name.

## Main definitions

* `taskMap`: the tasks by name
* `callLevels`: the calls of a body, outer ones before inner ones
* `images?`: the images of a workflow with the calls that use them
-/

namespace WorkflowDocs.Images

/-- The tasks of a document by name: its own, then those of its imports, with and without the name
of their scope. -/
def taskMap (doc : DocumentSource) : Fields TaskSource :=
  let own := Fields.ofPairs (doc.tasks.map fun t => (t.name, t))
  doc.imports.foldl (fun map i =>
    (i.target.elim [] (·.tasks)).foldl (fun map t =>
      let map := match presentText i.scope with
        | some scope => map.put (scope ++ "." ++ t.name) t
        | none => map
      map.put t.name t) map) own

/-- Joins two lists of levels level by level. -/
def zipLevels : List (List CallNode) → List (List CallNode) → List (List CallNode)
  | [], ls => ls
  | ls, [] => ls
  | a :: as, b :: bs => (a ++ b) :: zipLevels as bs

mutual

/-- The calls of an element by depth: those directly at hand first, then those one block deeper,
and so on. -/
def nodeLevels : Node → List (List CallNode)
  | .decl _ => []
  | .call c => [[c]]
  | .scatter _ _ body => [] :: callLevels body
  | .conditional _ body => [] :: callLevels body

/-- The calls of a body by depth. -/
def callLevels : List Node → List (List CallNode)
  | [] => []
  | n :: ns => zipLevels (nodeLevels n) (callLevels ns)

end

/-- The calls of a body, outer ones before inner ones. -/
def callsByDepth (body : List Node) : List CallNode :=
  (callLevels body).flatten

/-- The image of the task that a call refers to; `none` when it does not print. -/
def callImage? (tasks : Fields TaskSource) (c : CallNode) : Option (Option TaskImage) :=
  match c.callee.bind fun callee => tasks.get? callee.name with
  | none => some none
  | some t => TaskImage.ofTask? t

/-- Lists a call under an image. The first call of a group decides what the group shows. -/
def addUse (groups : Fields ImageInfo) (i : TaskImage) (call : String) : Fields ImageInfo :=
  let group := (groups.get? i.key).getD ⟨i.image, [], i.isParameterized, i.parameter, i.default⟩
  groups.put i.key { group with tasks := group.tasks ++ [call] }

/-- The groups after a list of calls. -/
def addCalls (tasks : Fields TaskSource) (groups : Fields ImageInfo) :
    List CallNode → Option (Fields ImageInfo)
  | [] => some groups
  | c :: cs => do
    match ← callImage? tasks c with
    | some i => addCalls tasks (addUse groups i c.name) cs
    | none => addCalls tasks groups cs

/-- The images of a workflow with the calls that use them, in order of first use; `none` when an
image does not print. -/
def images? (doc : DocumentSource) (w : WorkflowSource) : Option (List ImageInfo) :=
  (addCalls (taskMap doc) [] (callsByDepth w.body)).map Fields.values

end WorkflowDocs.Images
