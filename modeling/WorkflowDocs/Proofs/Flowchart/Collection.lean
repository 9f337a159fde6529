import WorkflowDocs.Proofs.Fields
import WorkflowDocs.Proofs.Flowchart.Lookback

/-!
# Collecting the scope of a body

The scope of a body is built by one walk. `Tracks` says what the scope knows of the events met so
far; each step of the walk keeps it, so the scope of a whole body knows the whole body, and the
dependencies of its calls are those that looking back finds.

## Main definitions

* `Tracks`: what a scope knows of the events met so far

## Main results

* `Tracks.addDecl`, `Tracks.addCall`: one step of the walk
* `tracks_collect`: the whole walk
* `mem_getD_callDeps`: the dependencies of a call are those that are found
-/

namespace WorkflowDocs.Flowchart

/-! ## Unions of names -/

theorem mem_union {a b : List String} {y : String} : y ∈ union a b ↔ y ∈ a ∨ y ∈ b := by
  unfold union
  induction b generalizing a with
  | nil => simp
  | cons n b ih =>
    rw [List.foldl_cons, ih]
    by_cases h : n ∈ a
    · simp only [List.contains_iff_mem, h, if_true, List.mem_cons]
      constructor
      · rintro (hy | hy)
        · exact .inl hy
        · exact .inr (.inr hy)
      · rintro (hy | rfl | hy)
        · exact .inl hy
        · exact .inl h
        · exact .inr hy
    · simp [h, or_assoc]

theorem nodup_union {a b : List String} (ha : a.Nodup) : (union a b).Nodup := by
  unfold union
  induction b generalizing a with
  | nil => exact ha
  | cons n b ih =>
    rw [List.foldl_cons]
    refine ih ?_
    by_cases h : n ∈ a
    · simpa [h] using ha
    · simpa [h] using ha.concat h

section Unions

variable {α : Type} (f : α → List String)

theorem mem_foldl_union (xs : List α) (init : List String) {y : String} :
    y ∈ xs.foldl (fun names x => union names (f x)) init ↔ y ∈ init ∨ ∃ x ∈ xs, y ∈ f x := by
  induction xs generalizing init with
  | nil => simp
  | cons x xs ih => simp [ih, mem_union, or_assoc]

theorem nodup_foldl_union (xs : List α) {init : List String} (h : init.Nodup) :
    (xs.foldl (fun names x => union names (f x)) init).Nodup := by
  induction xs generalizing init with
  | nil => exact h
  | cons x xs ih => exact ih (nodup_union h)

end Unions

/-- The dependencies through the inputs of a call are those of their expressions together. -/
theorem inputDeps_eq_foldl (s : Scope) (c : CallNode) :
    s.inputDeps c =
      (c.inputs.filterMap (·.2)).foldl (fun deps e => union deps (s.depsOf e)) [] := by
  unfold Scope.inputDeps
  generalize ([] : List String) = init
  induction c.inputs generalizing init with
  | nil => rfl
  | cons i inputs ih =>
    obtain ⟨name, _ | e⟩ := i
    · exact ih init
    · exact ih (union init (s.depsOf e))

/-! ## What a scope knows -/

/-- The name of a call stands for that call. -/
theorem depsOfName_of_mem {s : Scope} {x : String} (h : headName x ∈ s.calls.names) :
    s.depsOfName x = [headName x] := by
  unfold Scope.depsOfName
  exact if_pos (Fields.has_iff_mem_names.2 h)

/-- Any other name stands for what its declaration depends on. -/
theorem depsOfName_of_not_mem {s : Scope} {x : String} (h : headName x ∉ s.calls.names) :
    s.depsOfName x = (s.vars.get? (headName x)).getD [] := by
  unfold Scope.depsOfName
  exact if_neg (mt Fields.has_iff_mem_names.1 h)

/-- The scope `s` knows the events met so far: its calls are those that were met, a name that is
not that of a call depends on what it leads back to, and the context of a call is what the blocks
around it look back to. -/
structure Tracks (s : Scope) (met : List Event) (placed : List PlacedCall) : Prop where
  calls : s.calls = placed.map fun g => (g.call.name, g.call)
  placed_calls : placed.map (·.call) = callsIn met
  vars : ∀ x, x ∉ s.calls.names → ∀ y, y ∈ (s.vars.get? x).getD [] ↔ LeadsBack met x y
  context : ∀ g ∈ placed, ∀ y, y ∈ (s.context.get? g.call.name).getD [] ↔ LooksBack g.around y
  context_names : ∀ x ∈ s.context.names, x ∈ namesIn met

namespace Tracks

variable {s : Scope} {met : List Event} {placed : List PlacedCall}

theorem start : Tracks {} [] [] where
  calls := rfl
  placed_calls := rfl
  vars := fun x _ y => by
    refine ⟨fun h => absurd h (by simp), fun h => ?_⟩
    exact absurd h.leadsTo.mem_names (by simp)
  context := fun _ h => absurd h (by simp)
  context_names := fun _ h => absurd h (by simp)

theorem names_calls (h : Tracks s met placed) : s.calls.names = (callsIn met).map (·.name) := by
  rw [h.calls, ← h.placed_calls, Fields.names, List.map_map, List.map_map]
  rfl

theorem mem_depsOfName (h : Tracks s met placed) (hnames : (namesIn met).Nodup) {r y : String} :
    y ∈ s.depsOfName r ↔ LeadsBack met (headName r) y := by
  by_cases hr : headName r ∈ s.calls.names
  · have hcall := hr
    rw [h.names_calls] at hcall
    obtain ⟨c, hc, hname⟩ := List.mem_map.1 hcall
    rw [depsOfName_of_mem hr, List.mem_singleton, ← hname,
      leadsBack_name_iff hnames (mem_callsIn.1 hc)]
  · rw [depsOfName_of_not_mem hr]
    exact h.vars _ hr y

theorem mem_depsOf (h : Tracks s met placed) (hnames : (namesIn met).Nodup) {e : Expr}
    {y : String} : y ∈ s.depsOf e ↔ ∃ x ∈ e.heads, LeadsBack met x y := by
  unfold Scope.depsOf Expr.heads
  rw [mem_foldl_union]
  simp [h.mem_depsOfName hnames]

/-- A block adds what its expression depends on to what is inherited. -/
theorem mem_blockDeps (h : Tracks s met placed) (hnames : (namesIn met).Nodup)
    {inherited : List String} {around : List (List Event × Expr)}
    (hin : ∀ y, y ∈ inherited ↔ LooksBack around y) (e : Option Expr) (y : String) :
    y ∈ s.blockDeps inherited e ↔ LooksBack (around ++ e.toList.map (met, ·)) y := by
  cases e with
  | none => simpa [Scope.blockDeps] using hin y
  | some e =>
    rw [Scope.blockDeps, mem_union, hin, h.mem_depsOf hnames]
    unfold LooksBack
    simp [or_and_right, exists_or]

/-! ### Steps of the walk -/

theorem block (h : Tracks s met placed) (e : Option Expr) :
    Tracks s (met ++ [.block e]) placed where
  calls := h.calls
  placed_calls := by rw [h.placed_calls, callsIn_append]; exact (List.append_nil _).symm
  vars := fun x hx y => by rw [h.vars x hx y, leadsBack_concat_block]
  context := h.context
  context_names := fun x hx => by
    rw [namesIn_append]
    exact List.mem_append_left _ (h.context_names x hx)

/-- A declaration that is new depends on what its expression leads back to. The new name depends on
nothing yet, so it gets what its expression depends on. -/
theorem addDecl (h : Tracks s met placed) {d : Decl}
    (hnames : (namesIn (met ++ [.decl d])).Nodup) :
    Tracks (s.addDecl d) (met ++ [.decl d]) placed := by
  have hmet : (namesIn met).Nodup := nodup_namesIn_left hnames
  have hnew : d.name ∉ namesIn met := not_mem_namesIn_of_nodup hnames rfl
  have hcalls : (s.addDecl d).calls = s.calls := by
    unfold Scope.addDecl
    split <;> rfl
  have hcontext : (s.addDecl d).context = s.context := by
    unfold Scope.addDecl
    split <;> rfl
  refine ⟨hcalls.trans h.calls, ?_, ?_, ?_, ?_⟩
  · rw [h.placed_calls, callsIn_append]
    exact (List.append_nil _).symm
  · intro x hx y
    rw [hcalls] at hx
    rw [leadsBack_concat_decl, ← h.vars x hx y]
    by_cases hxd : x = d.name
    · subst hxd
      have hnone : y ∉ (s.vars.get? d.name).getD [] := fun hy =>
        hnew ((h.vars _ hx y).1 hy).leadsTo.mem_names
      unfold Scope.addDecl
      cases he : d.expr with
      | none => simp [hnone]
      | some e => simp [hnone, h.mem_depsOf hmet]
    · unfold Scope.addDecl
      cases he : d.expr with
      | none => simp [hxd]
      | some e => simp [hxd, Fields.get?_put_of_ne hxd]
  · intro g hg y
    rw [hcontext]
    exact h.context g hg y
  · intro x hx
    rw [hcontext] at hx
    rw [namesIn_append]
    exact List.mem_append_left _ (h.context_names x hx)

/-- A call that is new takes what is inherited as its context. Nothing is stored for an empty
context, and nothing was stored under the new name. -/
theorem addCall (h : Tracks s met placed) {c : CallNode}
    (hnames : (namesIn (met ++ [.call c])).Nodup) {inherited : List String}
    {around : List (List Event × Expr)} (hin : ∀ y, y ∈ inherited ↔ LooksBack around y) :
    Tracks (s.addCall inherited c) (met ++ [.call c]) (placed ++ [⟨c, around⟩]) := by
  have hnew : c.name ∉ namesIn met := not_mem_namesIn_of_nodup hnames rfl
  have hplaced : ∀ g ∈ placed, g.call.name ≠ c.name := by
    intro g hg hname
    refine hnew (hname ▸ name_mem_of_mem_callsIn ?_)
    rw [← h.placed_calls]
    exact List.mem_map_of_mem hg
  have hcalls : (s.addCall inherited c).calls = s.calls ++ [(c.name, c)] := by
    refine Fields.put_of_not_mem fun hmem => ?_
    rw [h.calls, Fields.names, List.map_map] at hmem
    obtain ⟨g, hg, hname⟩ := List.mem_map.1 hmem
    exact hplaced g hg hname
  have hcontext : (s.addCall inherited c).context =
      if inherited.isEmpty then s.context else s.context.put c.name inherited := rfl
  refine ⟨?_, ?_, ?_, ?_, ?_⟩
  · rw [hcalls, h.calls, List.map_append]
    rfl
  · rw [List.map_append, h.placed_calls, callsIn_append]
    rfl
  · intro x hx y
    rw [hcalls, Fields.names_append, List.mem_append, not_or] at hx
    have hxc : x ≠ c.name := fun hxc => hx.2 (by simp [hxc])
    rw [leadsBack_concat_call, ← h.vars x hx.1 y]
    simp only [hxc, false_and, or_false]
    rfl
  · intro g hg y
    rw [hcontext]
    rcases List.mem_append.1 hg with hg | hg
    · rw [← h.context g hg y]
      split
      · rfl
      · rw [Fields.get?_put_of_ne (hplaced g hg)]
    · obtain rfl := List.mem_singleton.1 hg
      rw [← hin y]
      split
      · rename_i hempty
        have hnone : s.context.get? c.name = none :=
          Fields.get?_eq_none_iff.2 fun hmem => hnew (h.context_names _ hmem)
        rw [hnone, List.isEmpty_iff.1 hempty, Option.getD_none]
      · rw [Fields.get?_put_self, Option.getD_some]
  · intro x hx
    rw [hcontext] at hx
    rw [namesIn_append]
    split at hx
    · exact List.mem_append_left _ (h.context_names x hx)
    · rcases Fields.mem_names_put.1 hx with rfl | hx
      · exact List.mem_append_right _ List.mem_cons_self
      · exact List.mem_append_left _ (h.context_names x hx)

end Tracks

/-! ### The whole walk -/

mutual

theorem Tracks.collectNode {s : Scope} {met : List Event} {placed : List PlacedCall}
    {inherited : List String} {around : List (List Event × Expr)} :
    ∀ n : Node, Tracks s met placed → (∀ y, y ∈ inherited ↔ LooksBack around y) →
      (namesIn (met ++ nodeEvents n)).Nodup →
      Tracks (s.collectNode inherited n) (met ++ nodeEvents n) (placed ++ nodePlaced met around n)
  | .decl d, h, _, hnames => by
    rw [nodePlaced, List.append_nil]
    exact h.addDecl hnames
  | .call c, h, hin, hnames => h.addCall hnames hin
  | .scatter _ source body, h, hin, hnames => by
    rw [nodeEvents, List.append_cons] at hnames ⊢
    exact Tracks.collectOnto body (h.block source)
      (h.mem_blockDeps (nodup_namesIn_left (nodup_namesIn_left hnames)) hin source) hnames
  | .conditional condition body, h, hin, hnames => by
    rw [nodeEvents, List.append_cons] at hnames ⊢
    exact Tracks.collectOnto body (h.block condition)
      (h.mem_blockDeps (nodup_namesIn_left (nodup_namesIn_left hnames)) hin condition) hnames

/-- Walking on through a body keeps what the scope knows. -/
theorem Tracks.collectOnto {s : Scope} {met : List Event} {placed : List PlacedCall}
    {inherited : List String} {around : List (List Event × Expr)} :
    ∀ body : List Node, Tracks s met placed → (∀ y, y ∈ inherited ↔ LooksBack around y) →
      (namesIn (met ++ eventsOf body)).Nodup →
      Tracks (s.collectOnto inherited body) (met ++ eventsOf body)
        (placed ++ placedOf met around body)
  | [], h, _, _ => by
    rw [eventsOf, placedOf, List.append_nil, List.append_nil]
    exact h
  | n :: ns, h, hin, hnames => by
    rw [eventsOf, ← List.append_assoc] at hnames ⊢
    rw [placedOf, ← List.append_assoc]
    exact Tracks.collectOnto ns (Tracks.collectNode n h hin (nodup_namesIn_left hnames)) hin hnames

end

/-- The scope of a body knows the whole body. -/
theorem tracks_collect {body : List Node} (hnames : DistinctNames body) :
    Tracks (Scope.collect body) (eventsOf body) (placedOf [] [] body) :=
  Tracks.collectOnto body .start (fun y => by simp [LooksBack]) hnames

/-! ## The dependencies that are found -/

theorem names_callDeps {body : List Node} (h : DistinctNames body) :
    (Scope.collect body).callDeps.names = (Node.callsOf body).map (·.name) := by
  rw [← callsIn_eventsOf, ← (tracks_collect h).names_calls]
  simp only [Scope.callDeps, Fields.names, List.map_map]
  rfl

theorem mem_callDeps {body : List Node} (h : DistinctNames body) {c : String} {ds : List String} :
    (c, ds) ∈ (Scope.collect body).callDeps ↔
      ∃ g ∈ placedOf [] [] body, g.call.name = c ∧
        ds = union ((Scope.collect body).inputDeps g.call)
          (((Scope.collect body).context.get? g.call.name).getD []) := by
  unfold Scope.callDeps
  rw [(tracks_collect h).calls, List.map_map, List.mem_map]
  simp only [Function.comp_apply, Prod.mk.injEq]
  constructor
  · rintro ⟨g, hg, rfl, rfl⟩
    exact ⟨g, hg, rfl, rfl⟩
  · rintro ⟨g, hg, rfl, rfl⟩
    exact ⟨g, hg, rfl, rfl⟩

/-- The dependencies of a call are those that the walk finds. Calls have different names, so what is
stored for a name is what is read. -/
theorem mem_getD_callDeps {body : List Node} (h : DistinctNames body) {c d : String} :
    d ∈ ((Scope.collect body).callDeps.get? c).getD [] ↔ Finds body c d := by
  have htracks := tracks_collect h
  have hnodup : (Scope.collect body).callDeps.names.Nodup := names_callDeps h ▸ h.calls
  have hget : d ∈ ((Scope.collect body).callDeps.get? c).getD [] ↔
      ∃ ds, (c, ds) ∈ (Scope.collect body).callDeps ∧ d ∈ ds := by
    cases hds : (Scope.collect body).callDeps.get? c with
    | none =>
      refine ⟨fun hd => absurd hd (by simp), ?_⟩
      rintro ⟨ds, hmem, _⟩
      exact absurd ((Fields.get?_eq_some_iff hnodup).2 hmem) (by simp [hds])
    | some ds =>
      refine ⟨fun hd => ⟨ds, (Fields.get?_eq_some_iff hnodup).1 hds, hd⟩, ?_⟩
      rintro ⟨ds', hmem, hd⟩
      rw [(Fields.get?_eq_some_iff hnodup).2 hmem] at hds
      exact Option.some.inj hds ▸ hd
  rw [hget]
  unfold Finds
  have hfound : ∀ g ∈ placedOf [] [] body,
      (d ∈ union ((Scope.collect body).inputDeps g.call)
        (((Scope.collect body).context.get? g.call.name).getD []) ↔
      (∃ e ∈ g.call.inputs.filterMap (·.2), ∃ x ∈ e.heads, LeadsBack (eventsOf body) x d) ∨
        LooksBack g.around d) := by
    intro g hg
    rw [mem_union, inputDeps_eq_foldl, mem_foldl_union, htracks.context g hg]
    simp only [List.not_mem_nil, false_or, htracks.mem_depsOf h]
  constructor
  · rintro ⟨ds, hmem, hd⟩
    obtain ⟨g, hg, hname, rfl⟩ := (mem_callDeps h).1 hmem
    exact ⟨g, hg, hname, (hfound g hg).1 hd⟩
  · rintro ⟨g, hg, hname, hd⟩
    exact ⟨_, (mem_callDeps h).2 ⟨g, hg, hname, rfl⟩, (hfound g hg).2 hd⟩

/-- No call stands twice among the dependencies of a call. -/
theorem nodup_getD_callDeps (s : Scope) (c : String) : ((s.callDeps.get? c).getD []).Nodup := by
  cases hds : s.callDeps.get? c with
  | none => exact List.nodup_nil
  | some ds =>
    obtain ⟨⟨name, call⟩, _, heq⟩ := List.mem_map.1 (Fields.mem_of_get? hds)
    obtain ⟨rfl, rfl⟩ := Prod.mk.inj heq
    rw [inputDeps_eq_foldl]
    exact nodup_union (nodup_foldl_union _ _ List.nodup_nil)

end WorkflowDocs.Flowchart
