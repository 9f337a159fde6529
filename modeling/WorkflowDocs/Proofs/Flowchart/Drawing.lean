import Mathlib.Data.List.Nodup
import WorkflowDocs.Flowchart.Figure
import WorkflowDocs.Proofs.Flowchart.Collection
import WorkflowDocs.Proofs.Lists

/-!
# Drawing a body

Drawing numbers the calls of a body in order and, for each, adds the edges from those of its
dependencies that have a number by then. `Drawn` says what a plan holds when the calls with some
names have been drawn; drawing one call keeps it, and so does drawing a body.

## Main definitions

* `Sends`: the edges between the calls that have been drawn
* `Drawn`: what a plan holds
* `DrawnCalls`: what drawing a list of calls results in

## Main results

* `Drawn.drawCall`: one call
* `drawnCalls_draw`: a whole body
* `Drawn.endTerminals_of_leaf`, `Drawn.endTerminals_of_no_calls`: the edges into the end
-/

namespace WorkflowDocs.Flowchart

theorem Plan.connect_of_nil {p : Plan} {deps : List String} {k : Nat}
    (h : deps.filterMap p.numbers.get? = []) :
    p.connect deps k = { p with starts := p.starts ++ [k] } := by
  simp [Plan.connect, h]

theorem Plan.connect_of_ne_nil {p : Plan} {deps : List String} {k : Nat}
    (h : deps.filterMap p.numbers.get? ≠ []) :
    p.connect deps k =
      { p with edges := p.edges ++ (deps.filterMap p.numbers.get?).map (·, k) } := by
  unfold Plan.connect
  exact if_neg (mt List.isEmpty_iff.1 h)

/-- The call named `d` sends an edge to the call named `c`: it is among the dependencies of `c`
and is drawn by the time that `c` is. -/
def Sends (deps : Fields (List String)) (drawn : List String) (d c : String) : Prop :=
  d ∈ (deps.get? c).getD [] ∧ c ∈ drawn ∧ d ∈ drawn ∧ drawn.idxOf d ≤ drawn.idxOf c

/-- The plan `p` holds the calls with the names `drawn`: their numbers in order, the edges that
they send, and an edge from the start for each that is sent none. -/
structure Drawn (deps : Fields (List String)) (p : Plan) (drawn : List String) : Prop where
  names : p.numbers.names = drawn
  number : ∀ x ∈ drawn, p.numbers.get? x = some (drawn.idxOf x + 1)
  edges : ∀ a b, (a, b) ∈ p.edges ↔
    ∃ d c, Sends deps drawn d c ∧ a = drawn.idxOf d + 1 ∧ b = drawn.idxOf c + 1
  edges_nodup : p.edges.Nodup
  starts : ∀ k, k ∈ p.starts ↔
    ∃ c ∈ drawn, k = drawn.idxOf c + 1 ∧ ∀ d, ¬ Sends deps drawn d c
  starts_nodup : p.starts.Nodup

namespace Drawn

variable {deps : Fields (List String)} {p : Plan} {drawn : List String}

theorem start (deps : Fields (List String)) : Drawn deps {} [] where
  names := rfl
  number := fun x hx => absurd hx (by simp)
  edges := fun a b => by simp [Sends]
  edges_nodup := List.nodup_nil
  starts := fun k => by simp
  starts_nodup := List.nodup_nil

theorem get?_eq_none (h : Drawn deps p drawn) {x : String} (hx : x ∉ drawn) :
    p.numbers.get? x = none :=
  Fields.get?_eq_none_iff.2 (h.names ▸ hx)

/-- The numbers after a new call. -/
def numbersWith (p : Plan) (drawn : List String) (new : String) : Fields Nat :=
  p.numbers ++ [(new, drawn.length + 1)]

/-- Drawing a new call gives it the next number. -/
theorem number_eq (h : Drawn deps p drawn) {x : String} (hx : x ∉ drawn) :
    p.number x = ({ p with numbers := numbersWith p drawn x }, drawn.length + 1) := by
  have hlength : p.numbers.length = drawn.length := by
    rw [← h.names, Fields.names, List.length_map]
  unfold Plan.number
  rw [h.get?_eq_none hx]
  simp only [hlength, Fields.put_of_not_mem (h.names ▸ hx), numbersWith]

end Drawn

section Extension

variable {deps : Fields (List String)} {drawn : List String} {new : String}

theorem idxOf_concat_of_mem {x : String} (hx : x ∈ drawn) :
    (drawn ++ [new]).idxOf x = drawn.idxOf x :=
  List.idxOf_append_of_mem hx

theorem idxOf_concat_self (hnew : new ∉ drawn) : (drawn ++ [new]).idxOf new = drawn.length := by
  rw [List.idxOf_append_of_notMem hnew, List.idxOf_cons_self, Nat.add_zero]

/-- Into a call that was drawn before, a new call sends nothing. The new call has the last number,
and an edge goes to a number that is not less. -/
theorem sends_concat_of_mem (hnew : new ∉ drawn) {c d : String} (hc : c ∈ drawn) :
    Sends deps (drawn ++ [new]) d c ↔ Sends deps drawn d c := by
  unfold Sends
  rw [idxOf_concat_of_mem hc]
  constructor
  · rintro ⟨hdep, _, hd, hle⟩
    have hd' : d ∈ drawn := by
      rcases List.mem_append.1 hd with hd | hd
      · exact hd
      · obtain rfl := List.mem_singleton.1 hd
        rw [idxOf_concat_self hnew] at hle
        exact absurd (List.idxOf_lt_length_iff.2 hc) (Nat.not_lt.2 hle)
    rw [idxOf_concat_of_mem hd'] at hle
    exact ⟨hdep, hc, hd', hle⟩
  · rintro ⟨hdep, _, hd, hle⟩
    refine ⟨hdep, List.mem_append_left _ hc, List.mem_append_left _ hd, ?_⟩
    rw [idxOf_concat_of_mem hd]
    exact hle

/-- Into a new call, all its dependencies send that have been drawn. -/
theorem sends_concat_self (hnew : new ∉ drawn) {d : String} :
    Sends deps (drawn ++ [new]) d new ↔
      d ∈ (deps.get? new).getD [] ∧ d ∈ drawn ++ [new] := by
  unfold Sends
  constructor
  · rintro ⟨hdep, _, hd, _⟩
    exact ⟨hdep, hd⟩
  · rintro ⟨hdep, hd⟩
    refine ⟨hdep, by simp, hd, ?_⟩
    have hlt := List.idxOf_lt_length_iff.2 hd
    rw [List.length_append, List.length_singleton] at hlt
    rw [idxOf_concat_self hnew]
    omega

end Extension

/-! ## Drawing calls -/

namespace Drawn

variable {deps : Fields (List String)} {p : Plan} {drawn : List String} {new : String}

theorem names_numbersWith (h : Drawn deps p drawn) (new : String) :
    (numbersWith p drawn new).names = drawn ++ [new] := by
  rw [numbersWith, Fields.names_append, h.names]
  rfl

theorem get?_numbersWith (h : Drawn deps p drawn) (hnew : new ∉ drawn) {x : String}
    (hx : x ∈ drawn ++ [new]) :
    (numbersWith p drawn new).get? x = some ((drawn ++ [new]).idxOf x + 1) := by
  rw [numbersWith, ← Fields.put_of_not_mem (h.names ▸ hnew)]
  rcases List.mem_append.1 hx with hx | hx
  · have hne : x ≠ new := fun hxn => hnew (hxn ▸ hx)
    rw [Fields.get?_put_of_ne hne, h.number x hx, idxOf_concat_of_mem hx]
  · obtain rfl := List.mem_singleton.1 hx
    rw [Fields.get?_put_self, idxOf_concat_self hnew]

/-- The sources of the edges into a new call are the calls that send to it. -/
theorem mem_sources (h : Drawn deps p drawn) (hnew : new ∉ drawn) {k : Nat} :
    k ∈ ((deps.get? new).getD []).filterMap (numbersWith p drawn new).get? ↔
      ∃ d, Sends deps (drawn ++ [new]) d new ∧ k = (drawn ++ [new]).idxOf d + 1 := by
  rw [List.mem_filterMap]
  simp only [sends_concat_self hnew]
  constructor
  · rintro ⟨d, hd, hk⟩
    have hmem : d ∈ drawn ++ [new] := h.names_numbersWith new ▸ Fields.mem_names_of_get? hk
    rw [h.get?_numbersWith hnew hmem, Option.some.injEq] at hk
    exact ⟨d, ⟨hd, hmem⟩, hk.symm⟩
  · rintro ⟨d, ⟨hd, hmem⟩, rfl⟩
    exact ⟨d, hd, h.get?_numbersWith hnew hmem⟩

theorem nodup_sources (h : Drawn deps p drawn) (hnew : new ∉ drawn)
    (hdeps : ((deps.get? new).getD []).Nodup) :
    (((deps.get? new).getD []).filterMap (numbersWith p drawn new).get?).Nodup := by
  refine hdeps.filterMap fun a b k ha hb => ?_
  have ham : a ∈ drawn ++ [new] := h.names_numbersWith new ▸ Fields.mem_names_of_get? ha
  have hbm : b ∈ drawn ++ [new] := h.names_numbersWith new ▸ Fields.mem_names_of_get? hb
  rw [Option.mem_def, h.get?_numbersWith hnew ham, Option.some.injEq] at ha
  rw [Option.mem_def, h.get?_numbersWith hnew hbm, Option.some.injEq] at hb
  exact (List.idxOf_inj ham).1 (by omega)

/-- The edges drawn before stay between the same calls. -/
theorem mem_edges_concat (h : Drawn deps p drawn) (hnew : new ∉ drawn) {a b : Nat} :
    (a, b) ∈ p.edges ↔ ∃ d c, Sends deps (drawn ++ [new]) d c ∧ c ∈ drawn ∧
      a = (drawn ++ [new]).idxOf d + 1 ∧ b = (drawn ++ [new]).idxOf c + 1 := by
  rw [h.edges]
  constructor
  · rintro ⟨d, c, hsend, rfl, rfl⟩
    obtain ⟨_, hc, hd, _⟩ := id hsend
    refine ⟨d, c, (sends_concat_of_mem hnew hc).2 hsend, hc, ?_, ?_⟩
    · rw [idxOf_concat_of_mem hd]
    · rw [idxOf_concat_of_mem hc]
  · rintro ⟨d, c, hsend, hc, rfl, rfl⟩
    have hold := (sends_concat_of_mem hnew hc).1 hsend
    refine ⟨d, c, hold, ?_, ?_⟩
    · rw [idxOf_concat_of_mem hold.2.2.1]
    · rw [idxOf_concat_of_mem hc]

/-- The calls that follow the start stay the same. -/
theorem mem_starts_concat (h : Drawn deps p drawn) (hnew : new ∉ drawn) {k : Nat} :
    k ∈ p.starts ↔ ∃ c ∈ drawn, k = (drawn ++ [new]).idxOf c + 1 ∧
      ∀ d, ¬ Sends deps (drawn ++ [new]) d c := by
  rw [h.starts]
  refine exists_congr fun c => and_congr_right fun hc => ?_
  rw [idxOf_concat_of_mem hc]
  simp only [sends_concat_of_mem hnew hc]

/-- A number given before is less than that of a new call. -/
theorem lt_of_mem_edges (h : Drawn deps p drawn) {a b : Nat} (hab : (a, b) ∈ p.edges) :
    b < drawn.length + 1 := by
  obtain ⟨d, c, hsend, -, rfl⟩ := (h.edges a b).1 hab
  have := List.idxOf_lt_length_iff.2 hsend.2.1
  omega

theorem lt_of_mem_starts (h : Drawn deps p drawn) {k : Nat} (hk : k ∈ p.starts) :
    k < drawn.length + 1 := by
  obtain ⟨c, hc, rfl, -⟩ := (h.starts k).1 hk
  have := List.idxOf_lt_length_iff.2 hc
  omega

/-- A new call that is sent no edge follows the start. -/
theorem concat_start (h : Drawn deps p drawn) (hnew : new ∉ drawn)
    (hnone : ∀ d, ¬ Sends deps (drawn ++ [new]) d new) :
    Drawn deps { p with
      numbers := numbersWith p drawn new
      starts := p.starts ++ [drawn.length + 1] } (drawn ++ [new]) where
  names := h.names_numbersWith new
  number := fun x hx => h.get?_numbersWith hnew hx
  edges := fun a b => by
    rw [h.mem_edges_concat hnew]
    refine exists_congr fun d => exists_congr fun c => and_congr_right fun hsend => ?_
    refine and_iff_right ?_
    rcases List.mem_append.1 hsend.2.1 with hc | hc
    · exact hc
    · exact absurd (List.mem_singleton.1 hc ▸ hsend) (hnone d)
  edges_nodup := h.edges_nodup
  starts := fun k => by
    rw [List.mem_append, List.mem_singleton, h.mem_starts_concat hnew]
    constructor
    · rintro (⟨c, hc, hk⟩ | rfl)
      · exact ⟨c, List.mem_append_left _ hc, hk⟩
      · exact ⟨new, by simp, by rw [idxOf_concat_self hnew], hnone⟩
    · rintro ⟨c, hc, hk, hsend⟩
      rcases List.mem_append.1 hc with hc | hc
      · exact .inl ⟨c, hc, hk, hsend⟩
      · rw [List.mem_singleton.1 hc, idxOf_concat_self hnew] at hk
        exact .inr hk
  starts_nodup := by
    rw [← List.concat_eq_append]
    exact h.starts_nodup.concat fun hmem => absurd (h.lt_of_mem_starts hmem) (Nat.lt_irrefl _)

/-- A new call that is sent edges has these edges into it. The edges that are added go to the new
number, the others to numbers before it. -/
theorem concat_edges (h : Drawn deps p drawn) (hnew : new ∉ drawn) {sources : List Nat}
    (hsources : ∀ k, k ∈ sources ↔
      ∃ d, Sends deps (drawn ++ [new]) d new ∧ k = (drawn ++ [new]).idxOf d + 1)
    (hnodup : sources.Nodup) (hne : sources ≠ []) :
    Drawn deps { p with
      numbers := numbersWith p drawn new
      edges := p.edges ++ sources.map (·, drawn.length + 1) } (drawn ++ [new]) where
  names := h.names_numbersWith new
  number := fun x hx => h.get?_numbersWith hnew hx
  edges := fun a b => by
    rw [List.mem_append, h.mem_edges_concat hnew, List.mem_map]
    constructor
    · rintro (⟨d, c, hsend, _, hab⟩ | ⟨k, hk, heq⟩)
      · exact ⟨d, c, hsend, hab⟩
      · obtain ⟨d, hd, rfl⟩ := (hsources k).1 hk
        obtain ⟨rfl, rfl⟩ := Prod.mk.inj heq
        exact ⟨d, new, hd, rfl, by rw [idxOf_concat_self hnew]⟩
    · rintro ⟨d, c, hsend, rfl, rfl⟩
      rcases List.mem_append.1 hsend.2.1 with hc | hc
      · exact .inl ⟨d, c, hsend, hc, rfl, rfl⟩
      · obtain rfl := List.mem_singleton.1 hc
        exact .inr ⟨_, (hsources _).2 ⟨d, hsend, rfl⟩, by rw [idxOf_concat_self hnew]⟩
  edges_nodup := by
    refine List.nodup_append.2 ⟨h.edges_nodup, ?_, ?_⟩
    · exact hnodup.map fun a b hab => (Prod.mk.inj hab).1
    · rintro ⟨a, b⟩ hold e hadded rfl
      obtain ⟨k, _, heq⟩ := List.mem_map.1 hadded
      obtain ⟨rfl, rfl⟩ := Prod.mk.inj heq
      exact absurd (h.lt_of_mem_edges hold) (Nat.lt_irrefl _)
  starts := fun k => by
    obtain ⟨j, hj⟩ := List.exists_mem_of_ne_nil sources hne
    obtain ⟨d, hd, _⟩ := (hsources j).1 hj
    rw [h.mem_starts_concat hnew]
    constructor
    · rintro ⟨c, hc, hk⟩
      exact ⟨c, List.mem_append_left _ hc, hk⟩
    · rintro ⟨c, hc, hk, hsend⟩
      rcases List.mem_append.1 hc with hc | hc
      · exact ⟨c, hc, hk, hsend⟩
      · exact absurd (List.mem_singleton.1 hc ▸ hd) (hsend d)
  starts_nodup := h.starts_nodup

/-- Drawing a new call gives it the next number, and the edges into it or one from the start. -/
theorem drawCall (h : Drawn deps p drawn) {c : CallNode} (hnew : c.name ∉ drawn)
    (hdeps : ((deps.get? c.name).getD []).Nodup) :
    Drawn deps (p.drawCall deps c).1 (drawn ++ [c.name]) := by
  have hplan : (p.drawCall deps c).1 =
      Plan.connect { p with numbers := numbersWith p drawn c.name }
        ((deps.get? c.name).getD []) (drawn.length + 1) := by
    unfold Plan.drawCall
    rw [h.number_eq hnew]
  rw [hplan]
  by_cases hempty : ((deps.get? c.name).getD []).filterMap (numbersWith p drawn c.name).get? = []
  · have hnone : ∀ d, ¬ Sends deps (drawn ++ [c.name]) d c.name := fun d hd => by
      have hmem := (h.mem_sources hnew).2 ⟨d, hd, rfl⟩
      rw [hempty] at hmem
      exact absurd hmem List.not_mem_nil
    rw [Plan.connect_of_nil hempty]
    exact h.concat_start hnew hnone
  · rw [Plan.connect_of_ne_nil hempty]
    exact h.concat_edges hnew (fun k => h.mem_sources hnew) (h.nodup_sources hnew hdeps) hempty

/-- The counts of boxes play no part. -/
theorem withCounts (h : Drawn deps p drawn) (scatters conditionals : Nat) :
    Drawn deps { p with scatters := scatters, conditionals := conditionals } drawn :=
  ⟨h.names, h.number, h.edges, h.edges_nodup, h.starts, h.starts_nodup⟩

end Drawn

/-! ## Drawing a body -/

mutual

/-- The nodes of a figure, with their labels and shapes. -/
def Figure.nodes : Figure → List (Nat × String × Bool)
  | .node number label isTask => [(number, label, isTask)]
  | .box _ _ _ children => Figure.nodesOf children

/-- The nodes of a list of figures, in order. -/
def Figure.nodesOf : List Figure → List (Nat × String × Bool)
  | [] => []
  | f :: fs => f.nodes ++ Figure.nodesOf fs

end

theorem Figure.nodesOf_append (a b : List Figure) :
    Figure.nodesOf (a ++ b) = Figure.nodesOf a ++ Figure.nodesOf b := by
  induction a with
  | nil => rfl
  | cons f fs ih => rw [List.cons_append, nodesOf, ih, nodesOf, List.append_assoc]

mutual

theorem hasCall_eq : ∀ n : Node, hasCall n = !n.calls.isEmpty
  | .decl _ => rfl
  | .call _ => rfl
  | .scatter _ _ body => anyCall_eq body
  | .conditional _ body => anyCall_eq body

/-- A body contains a call if its list of calls is not empty. -/
theorem anyCall_eq : ∀ body : List Node, anyCall body = !(Node.callsOf body).isEmpty
  | [] => rfl
  | n :: ns => by
    rw [anyCall, hasCall_eq n, anyCall_eq ns, Node.callsOf]
    cases n.calls <;> rfl

end

theorem callsOf_eq_nil_of_anyCall {body : List Node} (h : anyCall body = false) :
    Node.callsOf body = [] := by
  rw [anyCall_eq, Bool.not_eq_false'] at h
  exact List.isEmpty_iff.1 h

/-- The nodes for calls that are numbered from `first` on. -/
def numberedNodes (first : Nat) (calls : List CallNode) : List (Nat × String × Bool) :=
  (calls.zipIdx first).map fun x => (x.2, nodeLabel x.1, callsTask x.1)

theorem numberedNodes_append (first : Nat) (a b : List CallNode) :
    numberedNodes first (a ++ b) = numberedNodes first a ++ numberedNodes (first + a.length) b := by
  rw [numberedNodes, List.zipIdx_append, List.map_append]
  rfl

/-- The result of drawing `calls` after the calls with the names `drawn`: a plan that holds all of
them, and figures with a node for each of `calls`. -/
structure DrawnCalls (deps : Fields (List String)) (drawn : List String) (calls : List CallNode)
    (result : Plan × List Figure) : Prop where
  plan : Drawn deps result.1 (drawn ++ calls.map (·.name))
  nodes : Figure.nodesOf result.2 = numberedNodes (drawn.length + 1) calls

theorem DrawnCalls.nil {deps : Fields (List String)} {p : Plan} {drawn : List String}
    (h : Drawn deps p drawn) : DrawnCalls deps drawn [] (p, []) :=
  ⟨by simpa using h, rfl⟩

/-- A new call is drawn as a node with the next number. -/
theorem Drawn.figures_drawCall {deps : Fields (List String)} {p : Plan} {drawn : List String}
    (h : Drawn deps p drawn) {c : CallNode} (hnew : c.name ∉ drawn) :
    (p.drawCall deps c).2 = [.node (drawn.length + 1) (nodeLabel c) (callsTask c)] := by
  have hhas : p.numbers.has c.name = false := by
    rw [Bool.eq_false_iff, ne_eq, Fields.has_iff_mem_names, h.names]
    exact hnew
  unfold Plan.drawCall
  rw [h.number_eq hnew, hhas]
  rfl

theorem drawnCalls_drawCall {deps : Fields (List String)} {p : Plan} {drawn : List String}
    (h : Drawn deps p drawn) {c : CallNode} (hnew : c.name ∉ drawn)
    (hdeps : ((deps.get? c.name).getD []).Nodup) :
    DrawnCalls deps drawn [c] (p.drawCall deps c) := by
  refine ⟨h.drawCall hnew hdeps, ?_⟩
  rw [h.figures_drawCall hnew]
  rfl

mutual

theorem drawnCalls_drawNode {deps : Fields (List String)}
    (hdeps : ∀ c, ((deps.get? c).getD []).Nodup) {p : Plan} {drawn : List String} :
    ∀ n : Node, Drawn deps p drawn → (drawn ++ n.calls.map (·.name)).Nodup →
      DrawnCalls deps drawn n.calls (p.drawNode deps n)
  | .decl _, h, _ => .nil h
  | .call c, h, hnames => by
    refine drawnCalls_drawCall h (fun hmem => ?_) (hdeps c.name)
    exact (List.nodup_append.1 hnames).2.2 _ hmem _ List.mem_cons_self rfl
  | .scatter item source body, h, hnames => by
    rw [Plan.drawNode, Node.calls]
    split
    · have hbody := drawnCalls_draw hdeps body (h.withCounts (p.scatters + 1) p.conditionals) hnames
      exact ⟨hbody.plan, by rw [← hbody.nodes]; exact List.append_nil _⟩
    · rename_i hnone
      rw [callsOf_eq_nil_of_anyCall (Bool.eq_false_iff.2 hnone)]
      exact .nil h
  | .conditional condition body, h, hnames => by
    rw [Plan.drawNode, Node.calls]
    split
    · have hbody := drawnCalls_draw hdeps body (h.withCounts p.scatters (p.conditionals + 1)) hnames
      exact ⟨hbody.plan, by rw [← hbody.nodes]; exact List.append_nil _⟩
    · rename_i hnone
      rw [callsOf_eq_nil_of_anyCall (Bool.eq_false_iff.2 hnone)]
      exact .nil h

/-- Drawing a body draws its calls in order. -/
theorem drawnCalls_draw {deps : Fields (List String)}
    (hdeps : ∀ c, ((deps.get? c).getD []).Nodup) {p : Plan} {drawn : List String} :
    ∀ body : List Node, Drawn deps p drawn → (drawn ++ (Node.callsOf body).map (·.name)).Nodup →
      DrawnCalls deps drawn (Node.callsOf body) (p.draw deps body)
  | [], h, _ => .nil h
  | n :: ns, h, hnames => by
    rw [Node.callsOf, List.map_append, ← List.append_assoc] at hnames
    have hn := drawnCalls_drawNode hdeps n h (List.nodup_append.1 hnames).1
    have hns := drawnCalls_draw hdeps ns hn.plan hnames
    refine ⟨?_, ?_⟩
    · rw [Node.callsOf, List.map_append, ← List.append_assoc]
      exact hns.plan
    · rw [Plan.draw, Node.callsOf, numberedNodes_append, Figure.nodesOf_append, hn.nodes,
        hns.nodes, List.length_append, List.length_map, Nat.add_right_comm]

end

/-! ## The end of a body -/

theorem mem_leaves {deps : Fields (List String)} (hnodup : deps.names.Nodup) {c : String} :
    c ∈ leaves deps ↔ c ∈ deps.names ∧ ∀ x, c ∉ (deps.get? x).getD [] := by
  unfold leaves
  rw [List.mem_filter, and_congr_right_iff]
  intro _
  rw [Bool.not_eq_true', Bool.eq_false_iff, ne_eq, List.any_eq_true]
  constructor
  · intro h x hc
    cases hx : deps.get? x with
    | none => exact absurd hc (by simp [hx])
    | some ds =>
      rw [hx, Option.getD_some] at hc
      have hmem : ds ∈ deps.values :=
        List.mem_map.2 ⟨_, (Fields.get?_eq_some_iff hnodup).1 hx, rfl⟩
      exact h ⟨ds, hmem, List.contains_iff_mem.2 hc⟩
  · rintro h ⟨ds, hds, hc⟩
    obtain ⟨⟨x, _⟩, hmem, rfl⟩ := List.mem_map.1 hds
    refine h x ?_
    rw [(Fields.get?_eq_some_iff hnodup).2 hmem]
    exact List.contains_iff_mem.1 hc

theorem mem_orStart {terminals : List Terminal} {t : Terminal} (h : t ∈ orStart terminals) :
    t = .start ∨ t ∈ terminals := by
  cases terminals with
  | nil => exact .inl (List.mem_singleton.1 h)
  | cons u us => exact .inr h

mutual

theorem eq_start_of_mem_nodeEndings (numbers : Fields Nat) {t : Terminal} :
    ∀ n : Node, n.calls = [] → t ∈ nodeEndings numbers n → t = .start
  | .scatter _ _ body, h, ht =>
    (mem_orStart ht).elim id (eq_start_of_mem_endingsOf numbers body h)
  | .conditional _ body, h, ht =>
    (mem_orStart ht).elim id (eq_start_of_mem_endingsOf numbers body h)

/-- A body without calls ends at the start. -/
theorem eq_start_of_mem_endingsOf (numbers : Fields Nat) {t : Terminal} :
    ∀ body : List Node, Node.callsOf body = [] → t ∈ endingsOf numbers body → t = .start
  | n :: ns, h, ht => by
    obtain ⟨hn, hns⟩ := List.append_eq_nil_iff.1 h
    rcases List.mem_append.1 ht with ht | ht
    · exact eq_start_of_mem_nodeEndings numbers n hn ht
    · exact eq_start_of_mem_endingsOf numbers ns hns ht

end

theorem endings_ne_nil (numbers : Fields Nat) (body : List Node) : endings numbers body ≠ [] := by
  unfold endings
  cases endingsOf numbers body <;> simp [orStart]

theorem endings_eraseDups_of_no_calls (numbers : Fields Nat) {body : List Node}
    (h : Node.callsOf body = []) : (endings numbers body).eraseDups = [.start] :=
  eraseDups_eq_singleton (endings_ne_nil numbers body) fun _ ht =>
    (mem_orStart ht).elim id (eq_start_of_mem_endingsOf numbers body h)

section Ends

variable {deps : Fields (List String)} {p : Plan} {drawn : List String} {body : List Node}

theorem Drawn.leaves_numbers (h : Drawn deps p drawn) (hnames : deps.names = drawn) :
    (leaves deps).filterMap p.numbers.get? = (leaves deps).map fun c => drawn.idxOf c + 1 := by
  rw [← List.filterMap_eq_map]
  refine List.filterMap_congr fun c hc => h.number c ?_
  rw [← hnames]
  exact (List.mem_filter.1 hc).1

/-- Where some call has no call depending on it, the edges into the end come from these calls. -/
theorem Drawn.endTerminals_of_leaf (h : Drawn deps p drawn) (hnames : deps.names = drawn)
    (hleaf : leaves deps ≠ []) (body : List Node) :
    endTerminals p.numbers deps body =
      (leaves deps).map fun c => Terminal.node (drawn.idxOf c + 1) := by
  unfold endTerminals
  rw [h.leaves_numbers hnames]
  split
  · rename_i hnil
    exact absurd (List.map_eq_nil_iff.1 hnil) hleaf
  · rw [List.map_map]
    rfl

/-- Without calls the only edge into the end comes from the start. -/
theorem Drawn.endTerminals_of_no_calls (h : Drawn deps p drawn) (hnames : deps.names = drawn)
    (hdrawn : drawn = []) (hcalls : Node.callsOf body = []) :
    endTerminals p.numbers deps body = [.start] := by
  have hleaves : leaves deps = [] := by
    unfold leaves
    rw [hnames, hdrawn]
    rfl
  unfold endTerminals
  rw [h.leaves_numbers hnames, hleaves]
  exact endings_eraseDups_of_no_calls p.numbers hcalls

end Ends

end WorkflowDocs.Flowchart
