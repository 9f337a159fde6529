import WorkflowDocs.Proofs.Flowchart.Reordering
import WorkflowDocs.Proofs.Flowchart.Rooted
import WorkflowDocs.Proofs.Wdl.Mentions

/-!
# Variables that are gathered from a block

A declaration inside a block can be used behind it. Its value depends on the expression of the
block, but only calls inherit what the expression of a block around them needs; a declaration is
known by its own expression. So the chart leads from what the block needs to a call behind the
block only where some name that the call refers to carries it.

## Main definitions

* `Reaches`: the printed edges lead from one call to another
* `Carries`: the calls behind a name, and what they depend on
* `BlockIn`: the blocks of a body
* `GatheredUse`: a call uses a variable that is declared in a block

## Main results

* `reaches_iff`: the printed edges lead along chains of dependencies
* `dependsOn_of_blockIn`: a call in a block depends on what the block needs
* `gathered_reach_iff`: when the printed edges lead from what a block needs to a call that uses a
  variable of the block
-/

namespace WorkflowDocs.Flowchart

open Relation (TransGen ReflTransGen)

/-! ## Chains of printed edges -/

/-- The printed edges lead from the node of the call `a` to the node of the call `b`. -/
def Reaches (w : WorkflowSource) (a b : String) : Prop :=
  TransGen (Chart.ofBody w.name w.body).Prints (nodeId (callIndex w.body a + 1))
    (nodeId (callIndex w.body b + 1))

section Chains

variable {w : WorkflowSource} (hnames : DistinctNames w.body) (hdef : DefinedBeforeUse w.body)

include hnames hdef

theorem prints_iff_graphEdge {s t : String} :
    (Chart.ofBody w.name w.body).Prints s t ↔
      ∃ p q, GraphEdge w.body p q ∧ s = p.id w.body ∧ t = q.id w.body := by
  unfold Chart.Prints
  rw [mem_edgeLines_ofBody hnames (hdef.acyclic hnames).hasLast]
  refine exists_congr fun p => exists_congr fun q => ?_
  rw [shownEdge_iff_graphEdge hnames hdef]
  refine and_congr_right fun _ => ⟨fun hline => ?_, fun h => by rw [h.1, h.2]⟩
  exact eq_of_edgeLine_eq (p.blank_not_mem_id _) (q.blank_not_mem_id _) hline

/-- The points of an edge of the graph that are calls are calls of the body. -/
theorem GraphEdge.isIn {p q : Point} (h : GraphEdge w.body p q) :
    p.IsIn w.body ∧ q.IsIn w.body :=
  ((shownEdge_iff_graphEdge hnames hdef).2 h).isIn

/-- A chain of printed edges from a call ends at a call that depends on it, or at the end. No edge
leads on from the end. -/
theorem exists_of_transGen_prints {a t : String}
    (h : TransGen (Chart.ofBody w.name w.body).Prints ((Point.call a).id w.body) t) :
    t = Point.finish.id w.body ∨
      ∃ c, t = (Point.call c).id w.body ∧ TransGen (DependsOn w.body) c a := by
  induction h with
  | single h =>
    obtain ⟨p, q, hedge, hp, rfl⟩ := (prints_iff_graphEdge hnames hdef).1 h
    obtain rfl := Point.eq_of_id_eq (hedge.isIn hnames hdef).1 hp
    cases hedge with
    | between hdep => exact .inr ⟨_, rfl, .single hdep⟩
    | last _ _ => exact .inl rfl
  | tail _ h ih =>
    obtain ⟨p, q, hedge, hp, rfl⟩ := (prints_iff_graphEdge hnames hdef).1 h
    rcases ih with rfl | ⟨c, rfl, hchain⟩
    · obtain rfl := Point.eq_of_id_eq (hedge.isIn hnames hdef).1 hp
      cases hedge
    · obtain rfl := Point.eq_of_id_eq (hedge.isIn hnames hdef).1 hp
      cases hedge with
      | between hdep => exact .inr ⟨_, rfl, hchain.head hdep⟩
      | last _ _ => exact .inl rfl

/-- The printed edges lead along chains of dependencies. -/
theorem reaches_iff {a b : String} (hb : b ∈ callNames w.body) :
    Reaches w a b ↔ TransGen (DependsOn w.body) b a := by
  constructor
  · intro h
    rcases exists_of_transGen_prints hnames hdef h with hid | ⟨c, hid, hchain⟩
    · cases Point.eq_of_id_eq (a := .finish) (b := .call b) hb hid.symm
    · have hc := Point.eq_of_id_eq (a := .call c) (b := .call b) hb hid.symm
      rwa [Point.call.inj hc] at hchain
  · intro h
    induction h using TransGen.head_induction_on with
    | single hdep =>
      exact .single ((prints_iff_graphEdge hnames hdef).2 ⟨_, _, .between hdep, rfl, rfl⟩)
    | head hdep _ ih =>
      have hprints := (prints_iff_graphEdge hnames hdef).2 ⟨_, _, .between hdep, rfl, rfl⟩
      exact (ih hdep.mem_calls_right).tail hprints

end Chains

/-! ## What a name carries -/

/-- The name `x` carries the call `a`: a call behind `x` is `a`, or depends on `a`, directly or
through other calls. -/
def Carries (body : List Node) (x a : String) : Prop :=
  ∃ c, LeadsTo (eventsOf body) x c ∧ ReflTransGen (DependsOn body) c a

/-- The call named `c` refers to the name `x`, in an input or in the expression of a block around
it. -/
def RefersTo (body : List Node) (c x : String) : Prop :=
  ∃ g ∈ guardedCallsOf [] body, g.call.name = c ∧ ∃ e ∈ g.exprs, x ∈ e.heads

theorem transGen_dependsOn_iff {body : List Node} {c a : String} :
    TransGen (DependsOn body) c a ↔ ∃ x, RefersTo body c x ∧ Carries body x a := by
  rw [Relation.TransGen.head'_iff]
  constructor
  · rintro ⟨b, ⟨g, hg, hname, e, he, x, hx, hleads⟩, hchain⟩
    exact ⟨x, ⟨g, hg, hname, e, he, hx⟩, b, hleads, hchain⟩
  · rintro ⟨x, ⟨g, hg, hname, e, he, hx⟩, b, hleads, hchain⟩
    exact ⟨b, ⟨g, hg, hname, e, he, x, hx, hleads⟩, hchain⟩

/-- Where names are different, two events with one name are the same. -/
theorem eq_of_name?_eq {events : List Event} (h : (namesIn events).Nodup) {v v' : Event}
    {x : String} (hv : v ∈ events) (hv' : v' ∈ events) (hx : v.name? = some x)
    (hx' : v'.name? = some x) : v = v' := by
  induction events with
  | nil => cases hv
  | cons u events ih =>
    have htail : (namesIn events).Nodup :=
      h.sublist ((List.sublist_cons_self u events).filterMap Event.name?)
    have hfirst : ∀ u', u' ∈ events → u.name? = some x → u'.name? ≠ some x := by
      intro u' hu' hux hux'
      have hcons : namesIn (u :: events) = x :: namesIn events := List.filterMap_cons_some hux
      rw [hcons, List.nodup_cons] at h
      exact h.1 (mem_namesIn_of_mem hu' hux')
    rcases List.mem_cons.1 hv with rfl | hmem
    · rcases List.mem_cons.1 hv' with rfl | hmem'
      · rfl
      · exact absurd hx' (hfirst v' hmem' hx)
    · rcases List.mem_cons.1 hv' with rfl | hmem'
      · exact absurd hx (hfirst v hmem hx')
      · exact ih htail hmem hmem'

/-- A declaration carries what the names in its own expression carry. -/
theorem carries_decl_iff {body : List Node} (hnames : DistinctNames body) {d : Decl} {a : String}
    (hd : Event.decl d ∈ eventsOf body) :
    Carries body d.name a ↔ ∃ e, d.expr = some e ∧ ∃ x ∈ e.heads, Carries body x a := by
  constructor
  · rintro ⟨c, hleads, hchain⟩
    generalize hname : d.name = name at hleads
    cases hleads with
    | call hc => cases eq_of_name?_eq hnames hd hc (congrArg some hname) rfl
    | decl hd' he hx hy =>
      obtain rfl := Event.decl.inj (eq_of_name?_eq hnames hd hd' (congrArg some hname) rfl)
      exact ⟨_, he, _, hx, _, hy, hchain⟩
  · rintro ⟨e, he, x, hx, c, hleads, hchain⟩
    exact ⟨c, .decl hd he hx hleads, hchain⟩

/-! ## Blocks -/

/-- The body has a block, at any depth, with the expression `source` and the body `inner`. -/
inductive BlockIn : List Node → Option Expr → List Node → Prop
  | scatter {body inner : List Node} {item : String} {source : Option Expr}
      (h : .scatter item source inner ∈ body) : BlockIn body source inner
  | conditional {body inner : List Node} {condition : Option Expr}
      (h : .conditional condition inner ∈ body) : BlockIn body condition inner
  | nested {body middle inner : List Node} {outer source : Option Expr}
      (houter : BlockIn body outer middle) (h : BlockIn middle source inner) :
      BlockIn body source inner

/-- The expression of a block depends on the call `a`. -/
def Needs (body : List Node) (e : Expr) (a : String) : Prop :=
  ∃ x ∈ e.heads, LeadsTo (eventsOf body) x a

mutual

theorem mem_around_nodeGuardedCalls {g : GuardedCall} {e : Expr} {around : List Expr}
    (he : e ∈ around) : ∀ n : Node, g ∈ nodeGuardedCalls around n → e ∈ g.around
  | .call c, hg => by
    obtain rfl := List.mem_singleton.1 hg
    exact he
  | .scatter _ _ body, hg => mem_around_guardedCallsOf (List.mem_append_left _ he) body hg
  | .conditional _ body, hg => mem_around_guardedCallsOf (List.mem_append_left _ he) body hg

/-- The expressions around a body are around each of its calls. -/
theorem mem_around_guardedCallsOf {g : GuardedCall} {e : Expr} {around : List Expr}
    (he : e ∈ around) : ∀ body : List Node, g ∈ guardedCallsOf around body → e ∈ g.around
  | n :: ns, hg => by
    rcases List.mem_append.1 hg with hg | hg
    · exact mem_around_nodeGuardedCalls he n hg
    · exact mem_around_guardedCallsOf he ns hg

end

theorem guardedCallsOf_subset_of_mem {n : Node} {body : List Node} (h : n ∈ body)
    (around : List Expr) : nodeGuardedCalls around n ⊆ guardedCallsOf around body := by
  rw [guardedCallsOf_eq_flatMap]
  exact fun g hg => List.mem_flatMap.2 ⟨n, h, hg⟩

/-- The calls of a block are calls of the body, with the expression of the block around them. -/
theorem BlockIn.exists_around {body inner : List Node} {source : Option Expr}
    (h : BlockIn body source inner) (around : List Expr) :
    ∃ around', source.toList ⊆ around' ∧
      guardedCallsOf around' inner ⊆ guardedCallsOf around body := by
  induction h generalizing around with
  | scatter hmem =>
    exact ⟨_, List.subset_append_right _ _, guardedCallsOf_subset_of_mem hmem around⟩
  | conditional hmem =>
    exact ⟨_, List.subset_append_right _ _, guardedCallsOf_subset_of_mem hmem around⟩
  | nested _ _ ihouter ih =>
    obtain ⟨middle, _, hmiddle⟩ := ihouter around
    obtain ⟨around', hsource, hinner⟩ := ih middle
    exact ⟨around', hsource, List.Subset.trans hinner hmiddle⟩

/-- A call in a block depends on what the expression of the block needs. -/
theorem dependsOn_of_blockIn {body inner : List Node} {e : Expr} {a : String}
    (hblock : BlockIn body (some e) inner) (ha : Needs body e a) {c : CallNode}
    (hc : c ∈ Node.callsOf inner) : DependsOn body c.name a := by
  obtain ⟨around, he, hsub⟩ := hblock.exists_around []
  obtain ⟨x, hx, hleads⟩ := ha
  rw [← map_call_guardedCallsOf around] at hc
  obtain ⟨g, hg, rfl⟩ := List.mem_map.1 hc
  have haround : e ∈ g.around := mem_around_guardedCallsOf (he List.mem_cons_self) inner hg
  exact ⟨g, hsub hg, rfl, e, List.mem_append_right _ haround, x, hx, hleads⟩

/-! ## Variables of a block -/

/-- The call `c` uses the variable `d` of a block with the expression `e` and the body `inner`: it
comes later and mentions the variable in an input. -/
structure GatheredUse (body : List Node) (e : Expr) (inner : List Node) (d : Decl) (c : CallNode) :
    Prop where
  block : BlockIn body (some e) inner
  declared : Event.decl d ∈ eventsOf inner
  later : ∃ before after, eventsOf body = before ++ .decl d :: after ∧ Event.call c ∈ after
  mentions : ∃ input ∈ c.inputs.filterMap (·.2), ∃ x, input.Mentions x ∧ headName x = d.name

theorem GatheredUse.mem_events {body inner : List Node} {e : Expr} {d : Decl} {c : CallNode}
    (h : GatheredUse body e inner d c) :
    Event.decl d ∈ eventsOf body ∧ Event.call c ∈ eventsOf body := by
  obtain ⟨before, after, hsplit, hc⟩ := h.later
  rw [hsplit]
  exact ⟨by simp, List.mem_append_right _ (List.mem_cons_of_mem _ hc)⟩

theorem mem_callNames_of_mem_eventsOf {body : List Node} {c : CallNode}
    (h : Event.call c ∈ eventsOf body) : c.name ∈ callNames body := by
  unfold callNames
  rw [← callsIn_eventsOf]
  exact List.mem_map_of_mem (mem_callsIn.2 h)

/-- **When the chart leads from what a block needs to the uses of its variables**: for a body with
different names that are defined before they are used, and a call that uses a variable of a block,
the printed edges lead from a call that the block needs to that call exactly if it stands in the
block too, or refers to a name that carries what the block needs. The variable itself carries only
what the names in its own expression carry; the expression of the block adds nothing to it. -/
theorem gathered_reach_iff (w : WorkflowSource) (hnames : DistinctNames w.body)
    (hdef : DefinedBeforeUse w.body) {e : Expr} {inner : List Node} {d : Decl} {c : CallNode}
    {a : String} (huse : GatheredUse w.body e inner d c) (ha : Needs w.body e a) :
    (Reaches w a c.name ↔
      c ∈ Node.callsOf inner ∨ ∃ x, RefersTo w.body c.name x ∧ Carries w.body x a) ∧
    (Carries w.body d.name a ↔
      ∃ value, d.expr = some value ∧ ∃ x ∈ value.heads, Carries w.body x a) := by
  obtain ⟨hd, hc⟩ := huse.mem_events
  refine ⟨?_, carries_decl_iff hnames hd⟩
  rw [reaches_iff hnames hdef (mem_callNames_of_mem_eventsOf hc), ← transGen_dependsOn_iff]
  exact ⟨.inr, fun h => h.elim (fun hin => .single (dependsOn_of_blockIn huse.block ha hin)) id⟩

/-! ### One block and two variables -/

/-- What the block of `gatheringWorkflow` runs over: an output of its first call. -/
def splitParts : Expr :=
  .get (.ident "split.parts") none

/-- A call that uses the variable `kept`. -/
def mergeCall : CallNode :=
  ⟨["merge"], "merge", [("ins", some (.get (.ident "kept") none))], some ⟨.task, "merge"⟩⟩

/-- A workflow with a call, a block over its output, and a call behind the block that uses the
variable `kept`. -/
def gatheringWorkflow (inner : List Node) : WorkflowSource where
  name := "gathering"
  body :=
    [.call ⟨["split"], "split", [], some ⟨.task, "split"⟩⟩,
      .scatter "part" (some splitParts) inner, .call mergeCall]

theorem gatheredUse_gathering (inner : List Node) (before : List Event) {d : Decl}
    (hinner : eventsOf inner = before ++ [.decl d]) (hname : d.name = "kept") :
    GatheredUse (gatheringWorkflow inner).body splitParts inner d mergeCall where
  block := BlockIn.scatter (List.mem_cons_of_mem _ List.mem_cons_self)
  declared := by simp [hinner]
  later := by
    refine ⟨.call ⟨["split"], "split", [], some ⟨.task, "split"⟩⟩ :: .block (some splitParts) ::
      before, [.call mergeCall], ?_, List.mem_cons_self⟩
    simp [gatheringWorkflow, eventsOf, nodeEvents, hinner]
  mentions := by
    refine ⟨.get (.ident "kept") none, List.mem_cons_self, "kept", ?_, ?_⟩
    · exact .part List.mem_cons_self .ident
    · rw [hname]
      decide

theorem needs_gathering (inner : List Node) :
    Needs (gatheringWorkflow inner).body splitParts "split" :=
  ⟨"split", by decide, .call (c := ⟨["split"], "split", [], _⟩) List.mem_cons_self⟩

/-- A call inside the block. -/
def sortCall : CallNode :=
  ⟨["sort"], "sort", [("in", some (.get (.ident "part") none))], some ⟨.task, "sort"⟩⟩

/-- The variable `kept` takes on the output of a call inside the block. -/
def sortingBlock : List Node :=
  [.call sortCall, .decl ⟨"kept", .primitive .file false, some (.get (.ident "sort.out") none)⟩]

theorem gathered_reach_iff_sorting :
    (DistinctNames (gatheringWorkflow sortingBlock).body ∧
      DefinedBeforeUse (gatheringWorkflow sortingBlock).body ∧
      (∃ d, GatheredUse (gatheringWorkflow sortingBlock).body splitParts sortingBlock d mergeCall) ∧
      Needs (gatheringWorkflow sortingBlock).body splitParts "split") ∧
    mergeCall.name ∉ callNames sortingBlock ∧
    Reaches (gatheringWorkflow sortingBlock) "split" "merge" := by
  have hnames : DistinctNames (gatheringWorkflow sortingBlock).body := by decide
  have hdef : DefinedBeforeUse (gatheringWorkflow sortingBlock).body := by decide
  have huse := gatheredUse_gathering sortingBlock [.call sortCall] rfl rfl
  have hneeds := needs_gathering sortingBlock
  obtain ⟨hreach, hcarries⟩ := gathered_reach_iff _ hnames hdef huse hneeds
  have hsort : Carries (gatheringWorkflow sortingBlock).body "sort" "split" := by
    refine ⟨"sort", .call (c := sortCall) ?_, .single ?_⟩
    · exact List.mem_cons_of_mem _ (List.mem_cons_of_mem _ List.mem_cons_self)
    · exact dependsOn_of_blockIn huse.block hneeds (c := sortCall) List.mem_cons_self
  refine ⟨⟨hnames, hdef, ⟨_, huse⟩, hneeds⟩, by decide, hreach.2 (.inr ⟨"kept", ?_, ?_⟩)⟩
  · exact ⟨⟨mergeCall, []⟩, by simp [gatheringWorkflow, guardedCallsOf, nodeGuardedCalls], rfl,
      .get (.ident "kept") none, List.mem_cons_self, by decide⟩
  · exact hcarries.2 ⟨_, rfl, "sort", by decide, hsort⟩

/-- The variable `kept` takes on the items that the block runs over. -/
def copyingBlock : List Node :=
  [.decl ⟨"kept", .primitive .file false, some (.get (.ident "part") none)⟩]

/-- The chart does not lead from the call whose output a block runs over to the call that uses the
gathered items. Nothing at all is found behind the input of the second call. -/
theorem gathered_items_lost :
    DistinctNames (gatheringWorkflow copyingBlock).body ∧
      DefinedBeforeUse (gatheringWorkflow copyingBlock).body ∧
      (∃ d, GatheredUse (gatheringWorkflow copyingBlock).body splitParts copyingBlock d mergeCall) ∧
      Needs (gatheringWorkflow copyingBlock).body splitParts "split" ∧
      ¬ Reaches (gatheringWorkflow copyingBlock) "split" "merge" := by
  have hnames : DistinctNames (gatheringWorkflow copyingBlock).body := by decide
  have hdef : DefinedBeforeUse (gatheringWorkflow copyingBlock).body := by decide
  refine ⟨hnames, hdef, ⟨_, gatheredUse_gathering copyingBlock [] rfl rfl⟩,
    needs_gathering copyingBlock, fun h => ?_⟩
  rw [reaches_iff hnames hdef (by decide), Relation.TransGen.head'_iff] at h
  obtain ⟨b, hdep, _⟩ := h
  have hnone : computedDeps (gatheringWorkflow copyingBlock).body "merge" = [] := by decide
  have hmem : b ∈ computedDeps (gatheringWorkflow copyingBlock).body "merge" :=
    (mem_getD_callDeps hnames).2 ((finds_iff_dependsOn hnames hdef).2 hdep)
  rw [hnone] at hmem
  exact absurd hmem List.not_mem_nil

end WorkflowDocs.Flowchart
