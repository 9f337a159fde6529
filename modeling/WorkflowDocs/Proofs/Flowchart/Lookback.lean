import Mathlib.Data.Fintype.Card
import Mathlib.Data.List.Induction
import Mathlib.Data.List.Nodup
import Mathlib.Data.Set.Finite.Basic
import Mathlib.Order.WellFounded
import WorkflowDocs.Proofs.Flowchart.Events
import WorkflowDocs.Proofs.Lists

/-!
# Looking back in a body

One walk through a body sees its references in order: a declaration and the expression of a block
see what the walk met before them, and the inputs of a call see the whole body. `Finds` states
which dependencies are found in this way. In a body whose names are defined before they are used
these are all dependencies, and each of them leads to an earlier call.

## Main definitions

* `LeadsBack`: the calls behind a name when declarations look back
* `PlacedCall`, `placedOf`: the calls with the blocks around them and what was met before these
* `Finds`: the dependencies that are found
* `callIndex`: the place of a call among the calls of a body

## Main results

* `Finds.dependsOn`, `finds_iff_dependsOn`: what is found is a dependency, and all of them are
  found when names are defined before they are used
* `callIndex_lt_of_dependsOn`: a dependency then leads to an earlier call
* `DefinedBeforeUse.acyclic`: such a body has no cycle
* `Acyclic.exists_last`: where there is a call and no cycle, there is a call that none depends on
-/

namespace WorkflowDocs.Flowchart

/-! ## Looking back -/

/-- A name leads to a call among the events, where a declaration refers only to what stands before
it. -/
inductive LeadsBack : List Event → String → String → Prop
  | call {events : List Event} {c : CallNode} (hc : Event.call c ∈ events) :
      LeadsBack events c.name c.name
  | decl {events before after : List Event} {d : Decl} {e : Expr} {x y : String}
      (hsplit : events = before ++ .decl d :: after) (he : d.expr = some e) (hx : x ∈ e.heads)
      (hy : LeadsBack before x y) : LeadsBack events d.name y

theorem LeadsBack.leadsTo {events : List Event} {x y : String} (h : LeadsBack events x y) :
    LeadsTo events x y := by
  induction h with
  | call hc => exact .call hc
  | decl hsplit he hx _ ih =>
    subst hsplit
    exact .decl (by simp) he hx (ih.mono (List.subset_append_left _ _))

theorem LeadsBack.append {a : List Event} {x y : String} (h : LeadsBack a x y) (b : List Event) :
    LeadsBack (a ++ b) x y := by
  cases h with
  | call hc => exact .call (List.mem_append_left b hc)
  | decl hsplit he hx hy =>
    subst hsplit
    exact .decl (List.append_assoc _ _ _) he hx hy

theorem leadsBack_concat_call {events : List Event} {c : CallNode} {x y : String} :
    LeadsBack (events ++ [.call c]) x y ↔ LeadsBack events x y ∨ (x = c.name ∧ y = c.name) := by
  constructor
  · intro h
    cases h with
    | call hc =>
      rcases List.mem_append.1 hc with hc | hc
      · exact .inl (.call hc)
      · obtain rfl := Event.call.inj (List.mem_singleton.1 hc)
        exact .inr ⟨rfl, rfl⟩
    | decl hsplit he hx hy =>
      rcases concat_eq_append_cons hsplit with ⟨_, hv⟩ | ⟨rest, rfl⟩
      · cases hv
      · exact .inl (.decl rfl he hx hy)
  · rintro (h | ⟨rfl, rfl⟩)
    · exact h.append _
    · exact .call (by simp)

theorem leadsBack_concat_decl {events : List Event} {d : Decl} {x y : String} :
    LeadsBack (events ++ [.decl d]) x y ↔
      LeadsBack events x y ∨
        (x = d.name ∧ ∃ e, d.expr = some e ∧ ∃ z ∈ e.heads, LeadsBack events z y) := by
  constructor
  · intro h
    cases h with
    | call hc =>
      rcases List.mem_append.1 hc with hc | hc
      · exact .inl (.call hc)
      · cases List.mem_singleton.1 hc
    | decl hsplit he hx hy =>
      rcases concat_eq_append_cons hsplit with ⟨rfl, hv⟩ | ⟨rest, rfl⟩
      · obtain rfl := Event.decl.inj hv
        exact .inr ⟨rfl, _, he, _, hx, hy⟩
      · exact .inl (.decl rfl he hx hy)
  · rintro (h | ⟨rfl, e, he, z, hz, hy⟩)
    · exact h.append _
    · exact .decl rfl he hz hy

theorem leadsBack_concat_block {events : List Event} {e : Option Expr} {x y : String} :
    LeadsBack (events ++ [.block e]) x y ↔ LeadsBack events x y := by
  refine ⟨fun h => ?_, fun h => h.append _⟩
  cases h with
  | call hc =>
    rcases List.mem_append.1 hc with hc | hc
    · exact .call hc
    · cases List.mem_singleton.1 hc
  | decl hsplit he hx hy =>
    rcases concat_eq_append_cons hsplit with ⟨_, hv⟩ | ⟨rest, rfl⟩
    · cases hv
    · exact .decl rfl he hx hy

/-- What a name leads to is settled by the first events that bring the name in. A later event brings
in another name, so it settles nothing about `x`. -/
theorem LeadsBack.of_mem_names {a b : List Event} (hnames : (namesIn (a ++ b)).Nodup)
    {x y : String} (hx : x ∈ namesIn a) (h : LeadsBack (a ++ b) x y) : LeadsBack a x y := by
  induction b using List.reverseRecOn with
  | nil => rwa [List.append_nil] at h
  | append_singleton b v ih =>
    rw [← List.append_assoc] at h hnames
    have hab : (namesIn (a ++ b)).Nodup := nodup_namesIn_left hnames
    have hne : ∀ z, v.name? = some z → x ≠ z := by
      rintro z hz rfl
      refine not_mem_namesIn_of_nodup hnames hz ?_
      rw [namesIn_append]
      exact List.mem_append_left _ hx
    cases v with
    | call c =>
      rcases leadsBack_concat_call.1 h with h | ⟨hxc, _⟩
      · exact ih hab h
      · exact absurd hxc (hne _ rfl)
    | decl d =>
      rcases leadsBack_concat_decl.1 h with h | ⟨hxd, _⟩
      · exact ih hab h
      · exact absurd hxd (hne _ rfl)
    | block e => exact ih hab (leadsBack_concat_block.1 h)

/-- The name of a call leads to that call only. Before the call its name leads nowhere, because
nothing has brought it in. -/
theorem leadsBack_name_iff {events : List Event} (hnames : (namesIn events).Nodup) {c : CallNode}
    (hc : Event.call c ∈ events) {y : String} : LeadsBack events c.name y ↔ y = c.name := by
  refine ⟨fun h => ?_, fun h => h ▸ .call hc⟩
  obtain ⟨a, b, rfl⟩ := List.append_of_mem hc
  rw [List.append_cons] at h hnames
  have hmem : c.name ∈ namesIn (a ++ [.call c]) :=
    mem_namesIn_of_mem (List.mem_append_right a (List.mem_singleton_self (Event.call c))) rfl
  rcases leadsBack_concat_call.1 (h.of_mem_names hnames hmem) with h | ⟨_, hy⟩
  · exact absurd h.leadsTo.mem_names (not_mem_namesIn_of_nodup (nodup_namesIn_left hnames) rfl)
  · exact hy

/-! ## Calls in their places -/

/-- A call with the blocks around it: for each the events before it, and its expression. -/
structure PlacedCall where
  call : CallNode
  around : List (List Event × Expr)

/-- The call without what was met before the blocks around it. -/
def PlacedCall.guarded (g : PlacedCall) : GuardedCall :=
  ⟨g.call, g.around.map (·.2)⟩

/-- The expression of a block around a call leads back to the call named `y`. -/
def LooksBack (around : List (List Event × Expr)) (y : String) : Prop :=
  ∃ b ∈ around, ∃ x ∈ b.2.heads, LeadsBack b.1 x y

mutual

/-- The calls of an element that comes after the events `before`, inside the blocks `around`. -/
def nodePlaced (before : List Event) (around : List (List Event × Expr)) : Node → List PlacedCall
  | .decl _ => []
  | .call c => [⟨c, around⟩]
  | .scatter _ source body =>
    placedOf (before ++ [.block source]) (around ++ source.toList.map (before, ·)) body
  | .conditional condition body =>
    placedOf (before ++ [.block condition]) (around ++ condition.toList.map (before, ·)) body

/-- The calls of a body that comes after the events `before`, inside the blocks `around`. -/
def placedOf (before : List Event) (around : List (List Event × Expr)) :
    List Node → List PlacedCall
  | [] => []
  | n :: ns => nodePlaced before around n ++ placedOf (before ++ nodeEvents n) around ns

end

mutual

theorem map_guarded_nodePlaced (before : List Event) (around : List (List Event × Expr)) :
    ∀ n : Node, (nodePlaced before around n).map PlacedCall.guarded =
      nodeGuardedCalls (around.map (·.2)) n
  | .decl _ => rfl
  | .call _ => rfl
  | .scatter _ source body => by
    rw [nodePlaced, nodeGuardedCalls, map_guarded_placedOf _ _ body, List.map_append]
    cases source <;> rfl
  | .conditional condition body => by
    rw [nodePlaced, nodeGuardedCalls, map_guarded_placedOf _ _ body, List.map_append]
    cases condition <;> rfl

theorem map_guarded_placedOf (before : List Event) (around : List (List Event × Expr)) :
    ∀ body : List Node, (placedOf before around body).map PlacedCall.guarded =
      guardedCallsOf (around.map (·.2)) body
  | [] => rfl
  | n :: ns => by
    rw [placedOf, guardedCallsOf, List.map_append, map_guarded_nodePlaced before around n,
      map_guarded_placedOf _ around ns]

end

/-- The blocks open among the events, each after those that it keeps as met before. -/
def OpensIn (around : List (List Event × Expr)) (events : List Event) : Prop :=
  ∀ b ∈ around, b.1 ++ [.block (some b.2)] <+: events

theorem OpensIn.mono {around : List (List Event × Expr)} {a b : List Event}
    (h : OpensIn around a) (hab : a <+: b) : OpensIn around b :=
  fun x hx => (h x hx).trans hab

theorem OpensIn.block {around : List (List Event × Expr)} {before : List Event}
    (h : OpensIn around before) (e : Option Expr) :
    OpensIn (around ++ e.toList.map (before, ·)) (before ++ [.block e]) := by
  intro b hb
  rcases List.mem_append.1 hb with hb | hb
  · exact (h b hb).trans (List.prefix_append _ _)
  · cases e with
    | none => exact absurd hb (by simp)
    | some e =>
      obtain rfl := List.mem_singleton.1 hb
      exact List.prefix_rfl

mutual

theorem exists_place_nodePlaced {before : List Event} {around : List (List Event × Expr)} :
    ∀ n : Node, OpensIn around before → ∀ g ∈ nodePlaced before around n,
      ∃ pre, pre ++ [.call g.call] <+: before ++ nodeEvents n ∧ OpensIn g.around pre
  | .decl _, _, g, hg => absurd hg (by simp [nodePlaced])
  | .call c, h, g, hg => by
    obtain rfl := List.mem_singleton.1 hg
    exact ⟨before, List.prefix_rfl, h⟩
  | .scatter _ source body, h, g, hg => by
    rw [nodeEvents, List.append_cons]
    exact exists_place_placedOf body (h.block source) g hg
  | .conditional condition body, h, g, hg => by
    rw [nodeEvents, List.append_cons]
    exact exists_place_placedOf body (h.block condition) g hg

/-- A call stands among the events of its body after the blocks around it. -/
theorem exists_place_placedOf {before : List Event} {around : List (List Event × Expr)} :
    ∀ body : List Node, OpensIn around before → ∀ g ∈ placedOf before around body,
      ∃ pre, pre ++ [.call g.call] <+: before ++ eventsOf body ∧ OpensIn g.around pre
  | [], _, g, hg => absurd hg (by simp [placedOf])
  | n :: ns, h, g, hg => by
    rw [eventsOf, ← List.append_assoc]
    rcases List.mem_append.1 hg with hg | hg
    · obtain ⟨pre, hpre, hopen⟩ := exists_place_nodePlaced n h g hg
      exact ⟨pre, hpre.trans (List.prefix_append _ _), hopen⟩
    · exact exists_place_placedOf ns (h.mono (List.prefix_append _ _)) g hg

end

theorem exists_place {body : List Node} {g : PlacedCall} (hg : g ∈ placedOf [] [] body) :
    ∃ pre post, eventsOf body = pre ++ .call g.call :: post ∧ OpensIn g.around pre := by
  have hstart : OpensIn [] [] := fun b hb => absurd hb (by simp)
  obtain ⟨pre, ⟨post, hpost⟩, hopen⟩ := exists_place_placedOf body hstart g hg
  refine ⟨pre, post, ?_, hopen⟩
  rw [List.nil_append, List.append_assoc] at hpost
  exact hpost.symm

/-! ## What is found -/

/-- The walk through a body finds that the call named `c` depends on the call named `d`: an input
of `c` leads back to `d` from the end of the body, or a block around `c` from where it opens. -/
def Finds (body : List Node) (c d : String) : Prop :=
  ∃ g ∈ placedOf [] [] body, g.call.name = c ∧
    ((∃ e ∈ g.call.inputs.filterMap (·.2), ∃ x ∈ e.heads, LeadsBack (eventsOf body) x d) ∨
      LooksBack g.around d)

/-- What is found is a dependency. -/
theorem Finds.dependsOn {body : List Node} {c d : String} (h : Finds body c d) :
    DependsOn body c d := by
  obtain ⟨g, hg, hname, h⟩ := h
  have hguarded : g.guarded ∈ guardedCallsOf [] body := by
    rw [← List.map_nil, ← map_guarded_placedOf []]
    exact List.mem_map_of_mem hg
  refine ⟨g.guarded, hguarded, hname, ?_⟩
  rcases h with ⟨e, he, x, hx, hd⟩ | ⟨b, hb, x, hx, hd⟩
  · exact ⟨e, List.mem_append_left _ he, x, hx, hd.leadsTo⟩
  · obtain ⟨pre, post, hsplit, hopen⟩ := exists_place hg
    have hsub : b.1 ⊆ eventsOf body := by
      rw [hsplit]
      exact ((List.prefix_append _ _).trans ((hopen b hb).trans (List.prefix_append _ _))).subset
    exact ⟨b.2, List.mem_append_right _ (List.mem_map_of_mem hb), x, hx, hd.leadsTo.mono hsub⟩

section DefinedBeforeUse

variable {body : List Node} (hnames : DistinctNames body) (hdef : DefinedBeforeUse body)

include hnames hdef

/-- A name that is used leads to earlier calls. -/
theorem leadsBack_of_split {before after : List Event} {v : Event} {x y : String}
    (hsplit : eventsOf body = before ++ v :: after) (hx : x ∈ v.heads)
    (h : LeadsBack (eventsOf body) x y) : LeadsBack before x y := by
  have hmem := hdef before v after hsplit x hx h.leadsTo.mem_names
  unfold DistinctNames at hnames
  rw [hsplit] at h hnames
  exact h.of_mem_names hnames hmem

theorem leadsBack_of_leadsTo {x y : String} (h : LeadsTo (eventsOf body) x y) :
    LeadsBack (eventsOf body) x y := by
  induction h with
  | call hc => exact .call hc
  | @decl d e x y hd he hx _ ih =>
    obtain ⟨before, after, hsplit⟩ := List.append_of_mem hd
    have hhead : x ∈ (Event.decl d).heads := by
      simpa [Event.heads, Event.exprs, he] using hx
    exact .decl hsplit he hx (leadsBack_of_split hnames hdef hsplit hhead ih)

/-- The calls that a call depends on stand before it, and looking back from there leads to them. The
names in an input of the call are brought in before the call, and those of a block around it before
the block opens. -/
theorem exists_split_of_dependsOn {c d : String} (h : DependsOn body c d) :
    Finds body c d ∧ ∃ g pre post, eventsOf body = pre ++ .call g :: post ∧ g.name = c ∧
      ∃ x, LeadsBack pre x d := by
  obtain ⟨_, hguarded, rfl, e, he, x, hx, hd⟩ := h
  rw [← List.map_nil, ← map_guarded_placedOf []] at hguarded
  obtain ⟨g, hg, rfl⟩ := List.mem_map.1 hguarded
  obtain ⟨pre, post, hsplit, hopen⟩ := exists_place hg
  have hback := leadsBack_of_leadsTo hnames hdef hd
  rcases List.mem_append.1 he with he | he
  · have hhead : x ∈ (Event.call g.call).heads := List.mem_flatMap.2 ⟨e, he, hx⟩
    refine ⟨⟨g, hg, rfl, .inl ⟨e, he, x, hx, hback⟩⟩, g.call, pre, post, hsplit, rfl, x, ?_⟩
    exact leadsBack_of_split hnames hdef hsplit hhead hback
  · obtain ⟨b, hb, rfl⟩ := List.mem_map.1 he
    obtain ⟨mid, rfl⟩ := hopen b hb
    have hhead : x ∈ (Event.block (some b.2)).heads := by
      simpa [Event.heads, Event.exprs] using hx
    have hblock : eventsOf body =
        b.1 ++ .block (some b.2) :: (mid ++ .call g.call :: post) := by
      rw [hsplit]
      simp
    have hbefore := leadsBack_of_split hnames hdef hblock hhead hback
    refine ⟨⟨g, hg, rfl, .inr ⟨b, hb, x, hx, hbefore⟩⟩, g.call, _, post, hsplit, rfl, x, ?_⟩
    rw [List.append_assoc]
    exact hbefore.append _

/-- Where names are defined before they are used, all dependencies are found. -/
theorem finds_iff_dependsOn {c d : String} : Finds body c d ↔ DependsOn body c d :=
  ⟨Finds.dependsOn, fun h => (exists_split_of_dependsOn hnames hdef h).1⟩

end DefinedBeforeUse

/-! ## The order of calls -/

theorem callNames_sublist (events : List Event) :
    ((callsIn events).map (·.name)).Sublist (namesIn events) := by
  induction events with
  | nil => exact .slnil
  | cons v events ih =>
    cases v with
    | decl d => exact ih.cons d.name
    | call c => exact ih.cons_cons c.name
    | block e => exact ih

/-- The calls of a body have different names if all its names are different. -/
theorem DistinctNames.calls {body : List Node} (h : DistinctNames body) :
    ((Node.callsOf body).map (·.name)).Nodup := by
  rw [← callsIn_eventsOf]
  exact h.sublist (callNames_sublist _)

/-- The number of calls before the call with a name. -/
def callIndex (body : List Node) (name : String) : Nat :=
  ((Node.callsOf body).map (·.name)).idxOf name

theorem callIndex_lt_of_dependsOn {body : List Node} (hnames : DistinctNames body)
    (hdef : DefinedBeforeUse body) {c d : String} (h : DependsOn body c d) :
    callIndex body d < callIndex body c := by
  obtain ⟨_, g, pre, post, hsplit, rfl, x, hd⟩ := exists_split_of_dependsOn hnames hdef h
  have hcalls : (Node.callsOf body).map (·.name) =
      (callsIn pre).map (·.name) ++ g.name :: (callsIn post).map (·.name) := by
    rw [← callsIn_eventsOf, hsplit, callsIn_append, List.map_append]
    rfl
  obtain ⟨d', hd', rfl⟩ := hd.leadsTo.exists_call
  have hmem : d'.name ∈ (callsIn pre).map (·.name) := List.mem_map_of_mem hd'
  have hnot : g.name ∉ (callsIn pre).map (·.name) := by
    have hnodup := hnames.calls
    rw [hcalls] at hnodup
    intro hg
    exact (List.nodup_append.1 hnodup).2.2 _ hg _ List.mem_cons_self rfl
  unfold callIndex
  rw [hcalls, List.idxOf_append_of_mem hmem, List.idxOf_append_of_notMem hnot]
  exact Nat.lt_add_right _ (List.idxOf_lt_length_iff.2 hmem)

/-- A chain of dependencies goes down in the order of calls, so it does not come back. -/
theorem DefinedBeforeUse.acyclic {body : List Node} (hdef : DefinedBeforeUse body)
    (hnames : DistinctNames body) : Acyclic body := by
  intro c hc
  have hlt : ∀ a b, Relation.TransGen (DependsOn body) a b →
      callIndex body b < callIndex body a := by
    intro a b h
    induction h with
    | single h => exact callIndex_lt_of_dependsOn hnames hdef h
    | tail _ h ih => exact (callIndex_lt_of_dependsOn hnames hdef h).trans ih
  exact lt_irrefl _ (hlt c c hc)

/-- Where there are calls and no cycle, there is a call that no call depends on. A minimal name
under "some chain of dependencies leads to it" has none that leads to it. -/
theorem Acyclic.exists_last {body : List Node} (h : Acyclic body)
    (hne : Node.callsOf body ≠ []) :
    ∃ c ∈ (Node.callsOf body).map (·.name), ∀ b, ¬ DependsOn body b c := by
  let Name := {x // x ∈ (Node.callsOf body).map (·.name)}
  let above : Name → Name → Prop := fun a b => Relation.TransGen (DependsOn body) a.1 b.1
  have : Finite Name := List.finite_toSet _
  have : IsTrans Name above := ⟨fun _ _ _ hab hbc => hab.trans hbc⟩
  have : Std.Irrefl above := ⟨fun a => h a.1⟩
  obtain ⟨c, hc⟩ := List.exists_mem_of_ne_nil _ hne
  have hname : c.name ∈ (Node.callsOf body).map (·.name) := List.mem_map_of_mem hc
  obtain ⟨m, _, hm⟩ := (Finite.wellFounded_of_trans_of_irrefl above).has_min Set.univ
    ⟨⟨c.name, hname⟩, trivial⟩
  exact ⟨m.1, m.2, fun b hb => hm ⟨b, hb.mem_calls_left⟩ trivial (.single hb)⟩

end WorkflowDocs.Flowchart
