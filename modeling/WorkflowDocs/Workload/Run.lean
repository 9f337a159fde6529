import WorkflowDocs.Workload.Catalog
import WorkflowDocs.Workload.Output
import WorkflowDocs.Workload.Paths
import WorkflowDocs.Workload.Project

/-!
# Running workloads

A workload of a given size, on a workspace that says what reading the sources of the sample
project gives.

## Main definitions

* `WorkloadKind`: the workloads
* `WorkloadKind.prepare`: what a workload reports
-/

namespace WorkflowDocs

/-- The workloads. -/
inductive WorkloadKind where
  | properties
  | indexFigures
  | inventoryFigures
  | places
  | links
  | discovery
  | reports
  | sites
  | graphs
  | images
  | texts
  | calls
  | surveys
  | readings
  | pages
  | graphFiles
  | commands
  deriving DecidableEq, Repr, Inhabited

/-- What a workload of size `n` reports of the project at a root: either its preparation fails, or
every run gives the same, be it a failure or a report. -/
def WorkloadKind.prepare (w : Workspace) (root : Path) (n : Int) :
    WorkloadKind → Except WorkloadError (Except WorkloadError Finding)
  | .properties => .ok (.ok (Workload.properties n))
  | .indexFigures => .ok (.ok (Workload.indexFigures n))
  | .inventoryFigures => .ok (.ok (Workload.inventoryFigures n))
  | .places => .ok (.ok (Workload.places n))
  | .links => .ok (.ok (Workload.links n))
  | .discovery => .ok (.ok (Workload.discovery root n))
  | .reports => .ok (.ok (Workload.reports w root n))
  | .sites => .ok (.ok (Workload.sites root n))
  | .graphs => (Workload.graphs w root).map .ok
  | .images => Workload.images w root
  | .texts => (Workload.texts w root n).map .ok
  | .calls => Workload.calls w root n
  | .surveys => Workload.surveys w root n
  | .readings => .ok (Workload.readings w root n)
  | .pages => (Workload.pages w root n).map .ok
  | .graphFiles => .ok (.ok (Workload.graphFiles w root n))
  | .commands => .ok (.ok (Workload.commands w root n))

end WorkflowDocs
