import WorkflowDocs.Proofs.Flowchart.Collection
import WorkflowDocs.Proofs.Wdl.Mentions

/-!
# References that are overlooked

An expression depends on the calls behind the identifiers that are followed in it. An identifier
that is hidden, inside a string, a pair, a map, a struct or a choice, is not looked at. So a call
whose name is hidden in an expression is found only if something that is followed leads to it as
well.

## Main definitions

* `Scope.SeesAll`: no reference of an expression to a call is overlooked

## Main results

* `mem_depsOf_iff`: the calls that an expression depends on
* `seesAll_iff`: the expressions in which no reference is overlooked
-/

namespace WorkflowDocs.Flowchart

/-- The dependencies of an expression are those of the identifiers that are followed. -/
theorem mem_depsOf_iff (s : Scope) {e : Expr} {c : String} :
    c ∈ s.depsOf e ↔ ∃ y, e.Follows y ∧ c ∈ s.depsOfName y := by
  unfold Scope.depsOf
  rw [mem_foldl_union]
  simp only [List.not_mem_nil, false_or, Expr.mem_refs_iff]

theorem mem_depsOfName_self {s : Scope} {x : String} (h : headName x ∈ s.calls.names) :
    headName x ∈ s.depsOfName x := by
  rw [depsOfName_of_mem h]
  exact List.mem_cons_self

/-- No reference of an expression is overlooked: where an identifier occurs, however deep, that
refers to a call of the scope, the call is among the dependencies. -/
def Scope.SeesAll (s : Scope) (e : Expr) : Prop :=
  ∀ x, e.Mentions x → headName x ∈ s.calls.names → headName x ∈ s.depsOf e

/-- What is hidden is all that can be overlooked. -/
theorem Scope.seesAll_iff_hides (s : Scope) (e : Expr) :
    s.SeesAll e ↔
      ∀ x, e.Hides x → headName x ∈ s.calls.names → headName x ∈ s.depsOf e := by
  refine ⟨fun h x hx => h x hx.mentions, fun h x hx hcall => ?_⟩
  rcases Expr.mentions_iff.1 hx with hfollows | hhides
  · exact (mem_depsOf_iff s).2 ⟨x, hfollows, mem_depsOfName_self hcall⟩
  · exact h x hhides hcall

/-- The scope with a single call. -/
def Scope.ofCall (name : String) : Scope where
  calls := [(name, { (default : CallNode) with name := name })]

/-- In a scope with a single call, an expression depends on it only by its name. -/
theorem mem_depsOf_ofCall {name : String} {e : Expr} :
    name ∈ (Scope.ofCall name).depsOf e ↔ ∃ y, e.Follows y ∧ headName y = name := by
  rw [mem_depsOf_iff]
  refine exists_congr fun y => and_congr_right fun _ => ?_
  by_cases hy : headName y = name
  · rw [depsOfName_of_mem (by simp [Scope.ofCall, hy])]
    simp [hy]
  · rw [depsOfName_of_not_mem (by simpa [Scope.ofCall] using hy)]
    simp [hy, Scope.ofCall]

/-- **Hidden references are overlooked unless they are made twice**: in a scope, no reference of an
expression is overlooked exactly if each call that is referred to in a hidden place is also behind
an identifier that is followed, as the call itself or through a declaration. This is so in every
scope exactly if each name that is referred to in a hidden place is also referred to where it is
followed. Where a name is that of the only call, nothing but the name leads to it. -/
theorem seesAll_iff (e : Expr) :
    (∀ s : Scope, s.SeesAll e ↔ ∀ x, e.Hides x → headName x ∈ s.calls.names →
      ∃ y, e.Follows y ∧ headName x ∈ s.depsOfName y) ∧
    ((∀ s : Scope, s.SeesAll e) ↔
      ∀ x, e.Hides x → ∃ y, e.Follows y ∧ headName y = headName x) := by
  refine ⟨fun s => ?_, fun h x hx => ?_, fun h s => ?_⟩
  · simp only [s.seesAll_iff_hides, mem_depsOf_iff]
  · exact mem_depsOf_ofCall.1 (h (Scope.ofCall (headName x)) x hx.mentions List.mem_cons_self)
  · rw [s.seesAll_iff_hides]
    intro x hx hcall
    obtain ⟨y, hfollows, hy⟩ := h x hx
    rw [← hy] at hcall ⊢
    exact (mem_depsOf_iff s).2 ⟨y, hfollows, mem_depsOfName_self hcall⟩

/-- A reference to the output of a call, inside each kind of expression that is not looked into. -/
def hiddenReferences : List Expr :=
  let output : Expr := .get (.ident "align.bam") none
  [.string [.text "\"", .hole [] output, .text "\""],
    .ifThenElse (.boolean true) output .null,
    .pair output (.int 1),
    .map [(.int 1, output)],
    .struct [("bam", output)]]

/-- A reference to a collected call is overlooked inside each kind of expression that is not looked
into. -/
theorem hidden_references_overlooked :
    (∀ e ∈ hiddenReferences, e.Mentions "align.bam") ∧
      headName "align.bam" ∈ (Scope.ofCall "align").calls.names ∧
      hiddenReferences.map (Scope.ofCall "align").depsOf = [[], [], [], [], []] := by
  refine ⟨fun e he => ?_, by decide, rfl⟩
  have houtput : (Expr.get (.ident "align.bam") none).Mentions "align.bam" :=
    .part List.mem_cons_self .ident
  simp only [hiddenReferences, List.mem_cons, List.not_mem_nil, or_false] at he
  rcases he with rfl | rfl | rfl | rfl | rfl
  all_goals exact .part (by simp [Expr.parts, Piece.value?]) houtput

end WorkflowDocs.Flowchart
