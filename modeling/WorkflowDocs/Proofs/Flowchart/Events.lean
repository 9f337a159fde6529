import Mathlib.Data.List.Basic
import Mathlib.Logic.Relation
import WorkflowDocs.Flowchart.Dependencies

/-!
# The references of a workflow body

A body is read as the list of what a depth-first walk through it meets: declarations, calls, and
blocks as they open. A name leads to a call when it is the name of the call, or the name of a
declaration whose expression refers to a name that leads there. What a call depends on is stated
with this relation, so the order of the body plays no part in it.

## Main definitions

* `Event`, `eventsOf`: what a walk through a body meets
* `LeadsTo`: the calls behind a name
* `GuardedCall`, `guardedCallsOf`: the calls with the expressions of the blocks around them
* `DependsOn`: the calls that a call depends on
* `DistinctNames`, `DefinedBeforeUse`, `Acyclic`: bodies that are well formed

## Main results

* `definedBeforeUse_iff`: definition before use is decidable
* `dependsOn_congr_of_perm`: the order of a body does not change its dependencies
-/

namespace WorkflowDocs

/-- The names that an expression refers to. -/
def Expr.heads (e : Expr) : List String :=
  e.refs.map headName

namespace Flowchart

/-! ## Walking through a body -/

/-- What a walk through a body meets: a declaration, a call, or a block as it opens. -/
inductive Event where
  | decl (d : Decl)
  | call (c : CallNode)
  | block (e : Option Expr)

namespace Event

/-- The name that an event brings in. -/
def name? : Event → Option String
  | .decl d => some d.name
  | .call c => some c.name
  | .block _ => none

/-- The call of an event. -/
def call? : Event → Option CallNode
  | .call c => some c
  | _ => none

/-- The expressions that stand at an event. -/
def exprs : Event → List Expr
  | .decl d => d.expr.toList
  | .call c => c.inputs.filterMap (·.2)
  | .block e => e.toList

/-- The names that an event refers to. -/
def heads (v : Event) : List String :=
  v.exprs.flatMap Expr.heads

end Event

mutual

/-- What a walk through an element meets. -/
def nodeEvents : Node → List Event
  | .decl d => [.decl d]
  | .call c => [.call c]
  | .scatter _ source body => .block source :: eventsOf body
  | .conditional condition body => .block condition :: eventsOf body

/-- What a walk through a body meets, in depth-first order. -/
def eventsOf : List Node → List Event
  | [] => []
  | n :: ns => nodeEvents n ++ eventsOf ns

end

/-- The names that events bring in. -/
def namesIn (events : List Event) : List String :=
  events.filterMap Event.name?

/-- The calls among events. -/
def callsIn (events : List Event) : List CallNode :=
  events.filterMap Event.call?

@[simp] theorem namesIn_nil : namesIn [] = [] := rfl

@[simp] theorem namesIn_append (a b : List Event) : namesIn (a ++ b) = namesIn a ++ namesIn b :=
  List.filterMap_append

@[simp] theorem callsIn_append (a b : List Event) : callsIn (a ++ b) = callsIn a ++ callsIn b :=
  List.filterMap_append

theorem mem_callsIn {events : List Event} {c : CallNode} :
    c ∈ callsIn events ↔ Event.call c ∈ events := by
  constructor
  · intro h
    obtain ⟨v, hv, hc⟩ := List.mem_filterMap.1 h
    cases v with
    | call c' =>
      obtain rfl : c' = c := Option.some.inj hc
      exact hv
    | decl _ => cases hc
    | block _ => cases hc
  · intro h
    exact List.mem_filterMap.2 ⟨.call c, h, rfl⟩

theorem mem_namesIn_of_mem {events : List Event} {v : Event} {x : String} (hv : v ∈ events)
    (hx : v.name? = some x) : x ∈ namesIn events :=
  List.mem_filterMap.2 ⟨v, hv, hx⟩

theorem nodup_namesIn_left {a b : List Event} (h : (namesIn (a ++ b)).Nodup) :
    (namesIn a).Nodup := by
  rw [namesIn_append] at h
  exact (List.nodup_append.1 h).1

/-- Where names are different, an event brings in a name that the events before it do not. -/
theorem not_mem_namesIn_of_nodup {events : List Event} {v : Event} {x : String}
    (h : (namesIn (events ++ [v])).Nodup) (hv : v.name? = some x) : x ∉ namesIn events := by
  intro hmem
  rw [namesIn_append] at h
  exact (List.nodup_append.1 h).2.2 x hmem x (mem_namesIn_of_mem List.mem_cons_self hv) rfl

theorem name_mem_of_mem_callsIn {events : List Event} {c : CallNode} (h : c ∈ callsIn events) :
    c.name ∈ namesIn events :=
  mem_namesIn_of_mem (mem_callsIn.1 h) rfl

theorem eventsOf_eq_flatMap (body : List Node) : eventsOf body = body.flatMap nodeEvents := by
  induction body with
  | nil => rfl
  | cons n ns ih => rw [eventsOf, ih, List.flatMap_cons]

mutual

theorem callsIn_nodeEvents : ∀ n : Node, callsIn (nodeEvents n) = n.calls
  | .decl _ => rfl
  | .call _ => rfl
  | .scatter _ _ body => callsIn_eventsOf body
  | .conditional _ body => callsIn_eventsOf body

/-- The walk meets the calls of a body in their order. -/
theorem callsIn_eventsOf : ∀ body : List Node, callsIn (eventsOf body) = Node.callsOf body
  | [] => rfl
  | n :: ns => by
    rw [eventsOf, callsIn_append, callsIn_nodeEvents n, callsIn_eventsOf ns, Node.callsOf]

end

/-! ## Names and the calls behind them -/

/-- A name leads to a call: it is the name of the call, or that of a declaration that refers to a
name which leads there. -/
inductive LeadsTo (events : List Event) : String → String → Prop
  | call {c : CallNode} (hc : Event.call c ∈ events) : LeadsTo events c.name c.name
  | decl {d : Decl} {e : Expr} {x y : String} (hd : Event.decl d ∈ events)
      (he : d.expr = some e) (hx : x ∈ e.heads) (hy : LeadsTo events x y) :
      LeadsTo events d.name y

theorem LeadsTo.mono {a b : List Event} {x y : String} (hab : a ⊆ b) (h : LeadsTo a x y) :
    LeadsTo b x y := by
  induction h with
  | call hc => exact .call (hab hc)
  | decl hd he hx _ ih => exact .decl (hab hd) he hx ih

theorem LeadsTo.mem_names {events : List Event} {x y : String} (h : LeadsTo events x y) :
    x ∈ namesIn events := by
  cases h with
  | call hc => exact mem_namesIn_of_mem hc rfl
  | decl hd _ _ _ => exact mem_namesIn_of_mem hd rfl

theorem LeadsTo.exists_call {events : List Event} {x y : String} (h : LeadsTo events x y) :
    ∃ c ∈ callsIn events, c.name = y := by
  induction h with
  | call hc => exact ⟨_, mem_callsIn.2 hc, rfl⟩
  | decl _ _ _ _ ih => exact ih

/-! ## Calls in their blocks -/

/-- A call with the expressions of the blocks around it. -/
structure GuardedCall where
  call : CallNode
  around : List Expr

/-- The expressions that a call depends on: its inputs, and the expressions around it. -/
def GuardedCall.exprs (g : GuardedCall) : List Expr :=
  g.call.inputs.filterMap (·.2) ++ g.around

mutual

/-- The calls of an element inside blocks with the expressions `around`. -/
def nodeGuardedCalls (around : List Expr) : Node → List GuardedCall
  | .decl _ => []
  | .call c => [⟨c, around⟩]
  | .scatter _ source body => guardedCallsOf (around ++ source.toList) body
  | .conditional condition body => guardedCallsOf (around ++ condition.toList) body

/-- The calls of a body inside blocks with the expressions `around`. -/
def guardedCallsOf (around : List Expr) : List Node → List GuardedCall
  | [] => []
  | n :: ns => nodeGuardedCalls around n ++ guardedCallsOf around ns

end

theorem guardedCallsOf_eq_flatMap (around : List Expr) (body : List Node) :
    guardedCallsOf around body = body.flatMap (nodeGuardedCalls around) := by
  induction body with
  | nil => rfl
  | cons n ns ih => rw [guardedCallsOf, ih, List.flatMap_cons]

mutual

theorem map_call_nodeGuardedCalls (around : List Expr) :
    ∀ n : Node, (nodeGuardedCalls around n).map (·.call) = n.calls
  | .decl _ => rfl
  | .call _ => rfl
  | .scatter _ source body => map_call_guardedCallsOf (around ++ source.toList) body
  | .conditional condition body => map_call_guardedCallsOf (around ++ condition.toList) body

theorem map_call_guardedCallsOf (around : List Expr) :
    ∀ body : List Node, (guardedCallsOf around body).map (·.call) = Node.callsOf body
  | [] => rfl
  | n :: ns => by
    rw [guardedCallsOf, Node.callsOf, List.map_append, map_call_nodeGuardedCalls around n,
      map_call_guardedCallsOf around ns]

end

/-- The call named `c` depends on the call named `d`: one of its inputs, or an expression of a
block around it, refers to a name that leads to `d`. -/
def DependsOn (body : List Node) (c d : String) : Prop :=
  ∃ g ∈ guardedCallsOf [] body, g.call.name = c ∧
    ∃ e ∈ g.exprs, ∃ x ∈ e.heads, LeadsTo (eventsOf body) x d

theorem DependsOn.mem_calls_left {body : List Node} {c d : String} (h : DependsOn body c d) :
    c ∈ (Node.callsOf body).map (·.name) := by
  obtain ⟨g, hg, rfl, _⟩ := h
  rw [← map_call_guardedCallsOf []]
  exact List.mem_map_of_mem (List.mem_map_of_mem hg)

theorem DependsOn.mem_calls_right {body : List Node} {c d : String} (h : DependsOn body c d) :
    d ∈ (Node.callsOf body).map (·.name) := by
  obtain ⟨_, _, _, _, _, _, _, hd⟩ := h
  obtain ⟨c', hc', rfl⟩ := hd.exists_call
  rw [callsIn_eventsOf] at hc'
  exact List.mem_map_of_mem hc'

/-! ## Well-formed bodies -/

/-- The calls and declarations of a body have different names. -/
def DistinctNames (body : List Node) : Prop :=
  (namesIn (eventsOf body)).Nodup

instance (body : List Node) : Decidable (DistinctNames body) :=
  inferInstanceAs (Decidable (List.Nodup _))

/-- A name of the body is referred to only after what it names: by a declaration, by an input of
a call, and by the expression of a block. -/
def DefinedBeforeUse (body : List Node) : Prop :=
  ∀ before v after, eventsOf body = before ++ v :: after →
    ∀ x ∈ v.heads, x ∈ namesIn (eventsOf body) → x ∈ namesIn before

/-- No call depends on itself, directly or through other calls. -/
def Acyclic (body : List Node) : Prop :=
  ∀ c, ¬ Relation.TransGen (DependsOn body) c c

/-- Whether each event refers to names of `all` only if they are among those met before: the names
`seen` and the names of earlier events. -/
def inOrder (all seen : List String) : List Event → Bool
  | [] => true
  | v :: vs =>
    v.heads.all (fun x => !all.contains x || seen.contains x) &&
      inOrder all (seen ++ v.name?.toList) vs

theorem inOrder_iff (all seen : List String) (events : List Event) :
    inOrder all seen events = true ↔
      ∀ before v after, events = before ++ v :: after →
        ∀ x ∈ v.heads, x ∈ all → x ∈ seen ++ namesIn before := by
  induction events generalizing seen with
  | nil => simp [inOrder]
  | cons w ws ih =>
    have hhead : w.heads.all (fun x => !all.contains x || seen.contains x) = true ↔
        ∀ x ∈ w.heads, x ∈ all → x ∈ seen := by
      simp [imp_iff_not_or]
    rw [inOrder, Bool.and_eq_true, hhead, ih]
    have hname : ∀ before, namesIn (w :: before) = w.name?.toList ++ namesIn before := by
      intro before
      cases w <;> rfl
    constructor
    · rintro ⟨hw, hws⟩ before v after heq x hx hall
      cases before with
      | nil =>
        obtain ⟨rfl, rfl⟩ := List.cons.inj heq
        simpa using hw x hx hall
      | cons u before =>
        obtain ⟨rfl, rfl⟩ := List.cons.inj heq
        rw [hname, ← List.append_assoc]
        exact hws before v after rfl x hx hall
    · intro h
      refine ⟨fun x hx hall => by simpa using h [] w ws rfl x hx hall, ?_⟩
      intro before v after heq x hx hall
      have hmem := h (w :: before) v after (by rw [heq, List.cons_append]) x hx hall
      rwa [hname, ← List.append_assoc] at hmem

theorem definedBeforeUse_iff (body : List Node) :
    DefinedBeforeUse body ↔ inOrder (namesIn (eventsOf body)) [] (eventsOf body) = true := by
  rw [inOrder_iff]
  rfl

instance (body : List Node) : Decidable (DefinedBeforeUse body) :=
  decidable_of_iff _ (definedBeforeUse_iff body).symm

/-! ## The order of a body -/

section Reordering

variable {body body' : List Node}

theorem eventsOf_perm (h : body.Perm body') : (eventsOf body).Perm (eventsOf body') := by
  rw [eventsOf_eq_flatMap, eventsOf_eq_flatMap]
  exact h.flatMap_right nodeEvents

theorem guardedCallsOf_perm (h : body.Perm body') (around : List Expr) :
    (guardedCallsOf around body).Perm (guardedCallsOf around body') := by
  rw [guardedCallsOf_eq_flatMap, guardedCallsOf_eq_flatMap]
  exact h.flatMap_right (nodeGuardedCalls around)

theorem leadsTo_congr_of_perm (h : body.Perm body') (x y : String) :
    LeadsTo (eventsOf body) x y ↔ LeadsTo (eventsOf body') x y :=
  ⟨.mono (eventsOf_perm h).subset, .mono (eventsOf_perm h).symm.subset⟩

/-- The order of a body does not change its dependencies. -/
theorem dependsOn_congr_of_perm (h : body.Perm body') (c d : String) :
    DependsOn body c d ↔ DependsOn body' c d := by
  unfold DependsOn
  simp only [(guardedCallsOf_perm h []).mem_iff, leadsTo_congr_of_perm h]

theorem distinctNames_congr_of_perm (h : body.Perm body') :
    DistinctNames body ↔ DistinctNames body' :=
  ((eventsOf_perm h).filterMap Event.name?).nodup_iff

theorem acyclic_congr_of_perm (h : body.Perm body') : Acyclic body ↔ Acyclic body' := by
  have hrel : DependsOn body = DependsOn body' := by
    funext c d
    exact propext (dependsOn_congr_of_perm h c d)
  unfold Acyclic
  rw [hrel]

end Reordering

end Flowchart

end WorkflowDocs
