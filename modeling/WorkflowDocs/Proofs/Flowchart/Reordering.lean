import WorkflowDocs.Proofs.Flowchart.Graph

/-!
# Charts and the order of a body

The dependencies of a body do not depend on its order, but what is drawn does: an edge needs its
source to be numbered first, and a declaration or a block sees only what stands before it. Two
orders of a body have the same edges exactly when they show the same dependencies and find the
same calls to be needed; where names are defined before they are used, all of them are shown.

## Main definitions

* `Draws`: the edges of the chart of a workflow, between points

## Main results

* `draws_iff_shownEdge`: the edges of a chart are those that are shown
* `draws_reordered_iff`: when two orders of a body have the same edges
-/

namespace WorkflowDocs.Flowchart

/-- The chart of a workflow has an edge line from the point `a` to the point `b`. -/
def Draws (w : WorkflowSource) (a b : Point) : Prop :=
  edgeLine (a.id w.body) (b.id w.body) ∈ (Chart.ofBody w.name w.body).edgeLines

/-- A point of a body: if it is a call, it is one of the body. -/
def Point.IsIn (body : List Node) : Point → Prop
  | .call name => name ∈ callNames body
  | _ => True

/-- The text of a point of a body determines it. -/
theorem Point.eq_of_id_eq {body : List Node} {a b : Point} (hb : b.IsIn body)
    (h : a.id body = b.id body) : a = b := by
  have hstart : ∀ k, nodeId k ≠ "Start" := nodeId_ne_of_not_mem (by decide)
  have hend : ∀ k, nodeId k ≠ "End([End])" := nodeId_ne_of_not_mem (by decide)
  rcases a with _ | c | _ <;> rcases b with _ | d | _
  · rfl
  · exact absurd h.symm (hstart _)
  · exact absurd h (by simp [Point.id])
  · exact absurd h (hstart _)
  · have hindex := Nat.succ.inj (nodeId_injective h)
    rw [callIndex_inj hb hindex.symm]
  · exact absurd h (hend _)
  · exact absurd h (by simp [Point.id])
  · exact absurd h.symm (hend _)
  · rfl

theorem ShownEdge.isIn {body : List Node} {a b : Point} (h : ShownEdge body a b) :
    a.IsIn body ∧ b.IsIn body := by
  cases h with
  | between h => exact ⟨h.1.dependsOn.mem_calls_right, h.1.dependsOn.mem_calls_left⟩
  | first hc _ => exact ⟨trivial, hc⟩
  | last hc _ => exact ⟨hc, trivial⟩
  | through _ => exact ⟨trivial, trivial⟩

/-- The edges of a chart are those that are shown. -/
theorem draws_iff_shownEdge {w : WorkflowSource} (hnames : DistinctNames w.body)
    (hacyclic : Acyclic w.body) {a b : Point} : Draws w a b ↔ ShownEdge w.body a b := by
  unfold Draws
  rw [mem_edgeLines_ofBody hnames hacyclic.hasLast]
  constructor
  · rintro ⟨a', b', hshown, hline⟩
    obtain ⟨ha, hb⟩ := (edgeLine_inj (a.blank_not_mem_id _) (a'.blank_not_mem_id _)).1 hline
    rw [Point.eq_of_id_eq hshown.isIn.1 ha, Point.eq_of_id_eq hshown.isIn.2 hb]
    exact hshown
  · intro h
    exact ⟨a, b, h, rfl⟩

section Arrows

variable {calls : List String} {sends : String → String → Prop} {used : String → Prop}

theorem arrow_between_iff {c d : String} :
    Arrow calls sends used (.call d) (.call c) ↔ sends d c :=
  ⟨fun h => by cases h; assumption, .between⟩

theorem arrow_last_iff {c : String} (hc : c ∈ calls) :
    Arrow calls sends used (.call c) .finish ↔ ¬ used c :=
  ⟨fun h => by cases h; assumption, .last hc⟩

/-- A graph is determined by its calls, the edges between them, and which of them are used. -/
theorem Arrow.congr {calls' : List String} {sends' : String → String → Prop}
    {used' : String → Prop} (hcalls : ∀ c, c ∈ calls ↔ c ∈ calls')
    (hsends : ∀ d c, sends d c ↔ sends' d c) (hused : ∀ c, used c ↔ used' c) {a b : Point}
    (h : Arrow calls sends used a b) : Arrow calls' sends' used' a b := by
  cases h with
  | between h => exact .between ((hsends _ _).1 h)
  | first hc h => exact .first ((hcalls _).1 hc) fun d hd => h d ((hsends _ _).2 hd)
  | last hc h => exact .last ((hcalls _).1 hc) (mt (hused _).2 h)
  | through h =>
    refine .through (List.eq_nil_iff_forall_not_mem.2 fun c hc => ?_)
    have hmem := (hcalls c).2 hc
    rw [h] at hmem
    exact absurd hmem List.not_mem_nil

end Arrows

theorem callNames_perm {body body' : List Node} (h : body.Perm body') :
    (callNames body).Perm (callNames body') := by
  unfold callNames
  rw [← callsIn_eventsOf, ← callsIn_eventsOf]
  exact ((eventsOf_perm h).filterMap Event.call?).map _

theorem mem_callNames_of_finds {body : List Node} {c d : String} (h : Finds body c d) :
    d ∈ callNames body :=
  h.dependsOn.mem_calls_right

/-- All dependencies of the body are shown: they are found, and lead to calls that are numbered
first. -/
def ShowsAll (body : List Node) : Prop :=
  ∀ c d, DependsOn body c d → Shown body d c

theorem DefinedBeforeUse.showsAll {body : List Node} (hdef : DefinedBeforeUse body)
    (hnames : DistinctNames body) : ShowsAll body := fun _ _ h =>
  ⟨(finds_iff_dependsOn hnames hdef).2 h, (callIndex_lt_of_dependsOn hnames hdef h).le⟩

/-- The chart of a workflow is its dependency graph exactly when it shows all dependencies. -/
theorem draws_iff_graphEdge_iff {w : WorkflowSource} (hnames : DistinctNames w.body)
    (hacyclic : Acyclic w.body) :
    (∀ a b, Draws w a b ↔ GraphEdge w.body a b) ↔ ShowsAll w.body := by
  simp only [draws_iff_shownEdge hnames hacyclic]
  constructor
  · intro h c d hdep
    exact arrow_between_iff.1 ((h (.call d) (.call c)).2 (.between hdep))
  · intro h a b
    have hsends : ∀ d c, Shown w.body d c ↔ DependsOn w.body c d := fun d c =>
      ⟨fun hshown => hshown.1.dependsOn, h c d⟩
    have hused : ∀ d, (∃ c, Finds w.body c d) ↔ ∃ c, DependsOn w.body c d := fun d =>
      exists_congr fun c => ⟨Finds.dependsOn, fun hdep => (h c d hdep).1⟩
    exact ⟨Arrow.congr (fun _ => .rfl) hsends hused,
      Arrow.congr (fun _ => .rfl) (fun d c => (hsends d c).symm) fun d => (hused d).symm⟩

/-- What two orders of a body have to agree on: the dependencies that are shown, and the calls
that are found to be needed. -/
def ShowSame (body body' : List Node) : Prop :=
  (∀ d c, Shown body d c ↔ Shown body' d c) ∧
    ∀ d, (∃ c, Finds body c d) ↔ ∃ c, Finds body' c d

theorem ShowsAll.showSame {body body' : List Node} (hperm : body.Perm body') (h : ShowsAll body)
    (h' : ShowsAll body') : ShowSame body body' := by
  have hdep := dependsOn_congr_of_perm hperm
  refine ⟨fun d c => ⟨fun hs => ?_, fun hs => ?_⟩, fun d => exists_congr fun c =>
    ⟨fun hf => ?_, fun hf => ?_⟩⟩
  · exact h' c d ((hdep c d).1 hs.1.dependsOn)
  · exact h c d ((hdep c d).2 hs.1.dependsOn)
  · exact (h' c d ((hdep c d).1 hf.dependsOn)).1
  · exact (h c d ((hdep c d).2 hf.dependsOn)).1

theorem shownEdge_congr_iff {body body' : List Node} (hperm : body.Perm body') :
    (∀ a b, ShownEdge body a b ↔ ShownEdge body' a b) ↔ ShowSame body body' := by
  have hcalls : ∀ c, c ∈ callNames body ↔ c ∈ callNames body' := fun c =>
    (callNames_perm hperm).mem_iff
  constructor
  · intro h
    refine ⟨fun d c => ?_, fun d => ?_⟩
    · exact arrow_between_iff.symm.trans ((h (.call d) (.call c)).trans arrow_between_iff)
    · by_cases hd : d ∈ callNames body
      · have hlast := (arrow_last_iff hd).symm.trans
          ((h (.call d) .finish).trans (arrow_last_iff ((hcalls d).1 hd)))
        exact not_iff_not.1 hlast
      · refine ⟨fun ⟨c, hc⟩ => absurd (mem_callNames_of_finds hc) hd, fun ⟨c, hc⟩ => ?_⟩
        exact absurd ((hcalls d).2 (mem_callNames_of_finds hc)) hd
  · rintro ⟨hsends, hused⟩ a b
    exact ⟨Arrow.congr hcalls hsends hused, Arrow.congr (fun c => (hcalls c).symm)
      (fun d c => (hsends d c).symm) fun d => (hused d).symm⟩

/-- **When the order of a body does not matter**: two orders of a body have the same edges exactly
when they show the same dependencies and find the same calls to be needed, and an order gives the
dependency graph exactly when it shows all dependencies. So any two orders that define names before
they use them have the same edges. -/
theorem draws_reordered_iff (w : WorkflowSource) (body' : List Node) (hperm : w.body.Perm body')
    (hnames : DistinctNames w.body) (hacyclic : Acyclic w.body) :
    ((∀ a b, Draws w a b ↔ Draws { w with body := body' } a b) ↔ ShowSame w.body body') ∧
      ((∀ a b, Draws w a b ↔ GraphEdge w.body a b) ↔ ShowsAll w.body) ∧
      (DefinedBeforeUse w.body → DefinedBeforeUse body' →
        ∀ a b, Draws w a b ↔ Draws { w with body := body' } a b) := by
  have hnames' : DistinctNames body' := (distinctNames_congr_of_perm hperm).1 hnames
  have hacyclic' : Acyclic body' := (acyclic_congr_of_perm hperm).1 hacyclic
  have hiff : (∀ a b, Draws w a b ↔ Draws { w with body := body' } a b) ↔
      ShowSame w.body body' := by
    rw [← shownEdge_congr_iff hperm]
    refine forall_congr' fun a => forall_congr' fun b => ?_
    rw [draws_iff_shownEdge hnames hacyclic,
      draws_iff_shownEdge (w := { w with body := body' }) hnames' hacyclic']
  refine ⟨hiff, draws_iff_graphEdge_iff hnames hacyclic, fun hdef hdef' => hiff.2 ?_⟩
  exact (hdef.showsAll hnames).showSame hperm (hdef'.showsAll hnames')

/-! ### Two calls in both orders -/

/-- A call without inputs. -/
def firstCall : Node :=
  .call ⟨["A"], "A", [], some ⟨.task, "A"⟩⟩

/-- A call whose input is an output of the first one. -/
def secondCall : Node :=
  .call ⟨["B"], "B", [("x", some (.get (.ident "A.out") none))], some ⟨.task, "B"⟩⟩

theorem acyclic_firstCall : Acyclic [firstCall, secondCall] :=
  DefinedBeforeUse.acyclic (by decide) (by decide)

theorem draws_reordered_iff_calls :
    ([firstCall, secondCall].Perm [secondCall, firstCall] ∧
      DistinctNames [firstCall, secondCall] ∧ Acyclic [firstCall, secondCall]) ∧
    ((∀ a b, Draws ⟨"w", [], [firstCall, secondCall], [], [], []⟩ a b ↔
      Draws ⟨"w", [], [secondCall, firstCall], [], [], []⟩ a b) ↔
        ShowSame [firstCall, secondCall] [secondCall, firstCall]) := by
  have hnames : DistinctNames [firstCall, secondCall] := by decide
  exact ⟨⟨.swap _ _ _, hnames, acyclic_firstCall⟩,
    (draws_reordered_iff ⟨"w", [], [firstCall, secondCall], [], [], []⟩ _ (.swap _ _ _) hnames
      acyclic_firstCall).1⟩

/-- The edge from the first call to the second is missing when the second stands first. -/
theorem order_changes_edges :
    [firstCall, secondCall].Perm [secondCall, firstCall] ∧
      DistinctNames [firstCall, secondCall] ∧ Acyclic [firstCall, secondCall] ∧
      Draws ⟨"w", [], [firstCall, secondCall], [], [], []⟩ (.call "A") (.call "B") ∧
      ¬ Draws ⟨"w", [], [secondCall, firstCall], [], [], []⟩ (.call "A") (.call "B") := by
  refine ⟨.swap _ _ _, by decide, acyclic_firstCall, ?_, ?_⟩
  · unfold Draws
    rw [(Chart.edgeLines_perm _).mem_iff]
    decide
  · unfold Draws
    rw [(Chart.edgeLines_perm _).mem_iff]
    decide

end WorkflowDocs.Flowchart
