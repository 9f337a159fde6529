import WorkflowDocs.Wdl.Expr.References

/-!
# Identifiers in expressions

An identifier occurs in an expression when a chain of parts leads from the expression to it. The
flowchart looks into some kinds of expressions only, so it follows an identifier when the whole
chain consists of these, and the identifier is hidden when some link of the chain does not.

## Main definitions

* `Expr.parts`: the expressions directly inside an expression
* `Expr.isOpen`: the kinds of expressions that the flowchart looks into
* `Expr.Mentions`, `Expr.Follows`, `Expr.Hides`: the identifiers that occur in an expression, those
  that are followed, and those that are hidden

## Main results

* `Expr.mentions_iff`: an identifier that occurs is followed or hidden
* `Expr.mem_refs_iff`: the references of an expression are the identifiers that are followed
-/

namespace WorkflowDocs

/-- The expression in a piece of a string. -/
def Piece.value? : Piece → Option Expr
  | .text _ => none
  | .hole _ value => some value

namespace Expr

/-- The expressions directly inside an expression, in order of appearance. -/
def parts : Expr → List Expr
  | .boolean _ | .int _ | .float _ | .null | .ident _ => []
  | .string pieces => pieces.filterMap Piece.value?
  | .placeholder _ value => [value]
  | .array items _ => items
  | .pair left right => [left, right]
  | .map entries => entries.flatMap fun entry => [entry.1, entry.2]
  | .struct members => members.map (·.2)
  | .ifThenElse condition yes no => [condition, yes, no]
  | .get value _ => [value]
  | .apply _ args => args

/-- Whether the flowchart looks into an expression: it does so for member access, interpolation,
applications and arrays. -/
def isOpen : Expr → Bool
  | .get _ _ | .placeholder _ _ | .apply _ _ | .array _ _ => true
  | _ => false

/-- The identifier `x` occurs in an expression. -/
inductive Mentions (x : String) : Expr → Prop
  | ident : Mentions x (.ident x)
  | part {e part : Expr} (hpart : part ∈ e.parts) (h : Mentions x part) : Mentions x e

/-- The identifier `x` occurs in an expression where the flowchart follows it: everything around it
is looked into. -/
inductive Follows (x : String) : Expr → Prop
  | ident : Follows x (.ident x)
  | part {e part : Expr} (hopen : e.isOpen = true) (hpart : part ∈ e.parts) (h : Follows x part) :
      Follows x e

/-- The identifier `x` occurs in an expression inside something that is not looked into. -/
inductive Hides (x : String) : Expr → Prop
  | closed {e part : Expr} (hclosed : e.isOpen = false) (hpart : part ∈ e.parts)
      (h : Mentions x part) : Hides x e
  | part {e part : Expr} (hpart : part ∈ e.parts) (h : Hides x part) : Hides x e

variable {x : String} {e : Expr}

theorem Follows.mentions (h : e.Follows x) : e.Mentions x := by
  induction h with
  | ident => exact .ident
  | part _ hpart _ ih => exact .part hpart ih

theorem Hides.mentions (h : e.Hides x) : e.Mentions x := by
  induction h with
  | closed _ hpart h => exact .part hpart h
  | part hpart _ ih => exact .part hpart ih

/-- An identifier that occurs is followed or hidden; it can be both, in two places. -/
theorem mentions_iff : e.Mentions x ↔ e.Follows x ∨ e.Hides x := by
  constructor
  · intro h
    induction h with
    | ident => exact .inl .ident
    | @part e part hpart h ih =>
      rcases ih with hfollows | hhides
      · cases hopen : e.isOpen with
        | true => exact .inl (.part hopen hpart hfollows)
        | false => exact .inr (.closed hopen hpart h)
      · exact .inr (.part hpart hhides)
  · rintro (h | h)
    · exact h.mentions
    · exact h.mentions

/-! ## References -/

theorem mem_refsOf_iff {es : List Expr} : x ∈ refsOf es ↔ ∃ e ∈ es, x ∈ e.refs := by
  induction es with
  | nil => simp [refsOf]
  | cons e es ih => simp [refsOf, ih]

/-- The references of an expression that is looked into are those of its parts. -/
theorem mem_refs_of_isOpen (h : e.isOpen = true) :
    x ∈ e.refs ↔ ∃ part ∈ e.parts, x ∈ part.refs := by
  cases e with
  | get value member => simp [refs, parts]
  | placeholder options value => simp [refs, parts]
  | apply function args => simp [refs, parts, mem_refsOf_iff]
  | array items type => simp [refs, parts, mem_refsOf_iff]
  | _ => cases h

mutual

theorem follows_of_mem_refs : ∀ e : Expr, x ∈ e.refs → e.Follows x
  | .ident name, h => by
    obtain rfl := List.mem_singleton.1 h
    exact .ident
  | .get value _, h => .part rfl List.mem_cons_self (follows_of_mem_refs value h)
  | .placeholder _ value, h => .part rfl List.mem_cons_self (follows_of_mem_refs value h)
  | .apply _ args, h => by
    obtain ⟨arg, harg, hfollows⟩ := exists_follows_of_mem_refsOf args h
    exact .part rfl harg hfollows
  | .array items _, h => by
    obtain ⟨item, hitem, hfollows⟩ := exists_follows_of_mem_refsOf items h
    exact .part rfl hitem hfollows

theorem exists_follows_of_mem_refsOf :
    ∀ es : List Expr, x ∈ refsOf es → ∃ e ∈ es, e.Follows x
  | e :: es, h => by
    rcases List.mem_append.1 h with h | h
    · exact ⟨e, List.mem_cons_self, follows_of_mem_refs e h⟩
    · obtain ⟨e', he', hfollows⟩ := exists_follows_of_mem_refsOf es h
      exact ⟨e', List.mem_cons_of_mem e he', hfollows⟩

end

/-- The references of an expression are the identifiers that are followed. -/
theorem mem_refs_iff : x ∈ e.refs ↔ e.Follows x := by
  refine ⟨follows_of_mem_refs e, fun h => ?_⟩
  induction h with
  | ident => exact List.mem_cons_self
  | part hopen hpart _ ih => exact (mem_refs_of_isOpen hopen).2 ⟨_, hpart, ih⟩

end Expr

end WorkflowDocs
