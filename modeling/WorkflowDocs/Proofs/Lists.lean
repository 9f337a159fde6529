import Mathlib.Data.List.Induction
import Mathlib.Data.List.Infix
import Mathlib.Data.List.TakeWhile

/-!
# Lists

Where lists can be cut, and what can be left out of them.

## Main results

* `exists_first_cons_iff`: the first member that is not passed over
* `append_cons_inj_of_not_mem`, `exists_append_takeWhile`: a list is cut at the last occurrence of a
  member
* `prefix_append_cons_iff`, `infix_append_cons_iff`: pieces of a list that is cut at a separator
* `flatMap_filter_eq`, `length_flatMap_eq_countP_iff`: the members that have results
-/

namespace WorkflowDocs

/-! ## Cutting a list -/

/-- The first member with a property is the head, or the head is passed over. -/
theorem exists_first_cons_iff {α : Type} {p q : α → Prop} {a : α} {l : List α} :
    (∃ before x after, a :: l = before ++ x :: after ∧ (∀ y ∈ before, p y) ∧ q x) ↔
      q a ∨ p a ∧ ∃ before x after, l = before ++ x :: after ∧ (∀ y ∈ before, p y) ∧ q x := by
  constructor
  · rintro ⟨before, x, after, hl, hbefore, hx⟩
    cases before with
    | nil =>
      obtain ⟨rfl, -⟩ := List.cons.inj hl
      exact .inl hx
    | cons b before =>
      obtain ⟨rfl, rfl⟩ := List.cons.inj hl
      obtain ⟨ha, hbefore⟩ := List.forall_mem_cons.1 hbefore
      exact .inr ⟨ha, before, x, after, rfl, hbefore, hx⟩
  · rintro (ha | ⟨ha, before, x, after, rfl, hbefore, hx⟩)
    · exact ⟨[], a, l, rfl, fun _ h => absurd h List.not_mem_nil, ha⟩
    · exact ⟨a :: before, x, after, rfl, List.forall_mem_cons.2 ⟨ha, hbefore⟩, hx⟩

/-- A list with one more member behind it splits at that member or before it. -/
theorem concat_eq_append_cons {α : Type} {l before after : List α} {v w : α}
    (h : l ++ [v] = before ++ w :: after) :
    (l = before ∧ v = w) ∨ ∃ rest, l = before ++ w :: rest := by
  rcases List.eq_nil_or_concat after with rfl | ⟨rest, u, rfl⟩
  · obtain ⟨rfl, hv⟩ := List.append_inj' h rfl
    exact .inl ⟨rfl, (List.cons.inj hv).1⟩
  · rw [List.concat_eq_append, ← List.cons_append, ← List.append_assoc] at h
    exact .inr ⟨rest, (List.append_inj' h rfl).1⟩

/-- A list is cut in one way at its last occurrence of a member. -/
theorem append_cons_inj_of_not_mem {α : Type} {a : α} {front front' rest rest' : List α}
    (hrest : a ∉ rest) (hrest' : a ∉ rest') (h : front ++ a :: rest = front' ++ a :: rest') :
    front = front' ∧ rest = rest' := by
  rcases List.append_eq_append_iff.1 h with ⟨between, rfl, hcons⟩ | ⟨between, rfl, hcons⟩
  · cases between with
    | nil => exact ⟨(List.append_nil _).symm, (List.cons.inj hcons).2⟩
    | cons b between =>
      rw [(List.cons.inj hcons).2] at hrest
      exact absurd (List.mem_append_right _ List.mem_cons_self) hrest
  · cases between with
    | nil => exact ⟨List.append_nil _, (List.cons.inj hcons).2.symm⟩
    | cons b between =>
      rw [(List.cons.inj hcons).2] at hrest'
      exact absurd (List.mem_append_right _ List.mem_cons_self) hrest'

/-- A list ends in what is behind the last `x`, if there is an `x`. -/
theorem exists_append_takeWhile {α : Type} [DecidableEq α] {x : α} {l : List α} (h : x ∈ l) :
    ∃ front, l = front ++ x :: (l.reverse.takeWhile (· != x)).reverse := by
  have hsplit := List.takeWhile_append_dropWhile (p := (· != x)) (l := l.reverse)
  cases hrest : l.reverse.dropWhile (· != x) with
  | nil =>
    have hall := List.dropWhile_eq_nil_iff.1 hrest x (List.mem_reverse.2 h)
    simp at hall
  | cons y rest =>
    have hy : y = x := by
      have hhead := List.head?_dropWhile_not (· != x) l.reverse
      rw [hrest] at hhead
      simpa using hhead
    refine ⟨rest.reverse, ?_⟩
    rw [hrest, hy] at hsplit
    have hrev := congrArg List.reverse hsplit
    rw [List.reverse_reverse, List.reverse_append, List.reverse_cons, List.append_assoc,
      List.singleton_append] at hrev
    exact hrev.symm

/-- A piece without the separator that begins a list begins what is before the separator. -/
theorem prefix_append_cons_iff {α : Type} {piece rest : List α} {x : α} (front : List α)
    (hx : x ∉ piece) :
    piece <+: front ++ x :: rest ↔ piece <+: front := by
  refine ⟨fun h => ?_, fun h => h.trans (List.prefix_append _ _)⟩
  rcases Nat.lt_or_ge front.length piece.length with hlt | hle
  · have hlonger : front ++ [x] <+: front ++ x :: rest :=
      ⟨rest, by rw [List.append_assoc, List.singleton_append]⟩
    have hfront : front ++ [x] <+: piece :=
      List.prefix_of_prefix_length_le hlonger h (by rw [List.length_append]; exact hlt)
    exact absurd (hfront.subset (by simp)) hx
  · exact List.prefix_of_prefix_length_le h (List.prefix_append _ _) hle

/-- A piece that ends with a separator occurs in a list up to the first separator and beyond, if it
ends the first part or occurs in the rest: an occurrence that ends behind the separator begins there
too, because it has no other separator. -/
theorem infix_append_cons_iff {α : Type} {c : α} {piece first rest : List α} (hpiece : c ∉ piece)
    (hfirst : c ∉ first) :
    piece ++ [c] <:+: first ++ c :: rest ↔ piece <:+ first ∨ piece ++ [c] <:+: rest := by
  constructor
  · rintro ⟨before, after, heq⟩
    rw [List.append_assoc, List.append_assoc, List.singleton_append, ← List.append_assoc] at heq
    rcases List.append_eq_append_iff.1 heq with ⟨gap, hgap, hafter⟩ | ⟨gap, hgap, hafter⟩
    · cases gap with
      | nil => exact .inl ⟨before, by rw [hgap, List.append_nil]⟩
      | cons x gap =>
        obtain ⟨rfl, -⟩ := List.cons.inj hafter
        exact absurd (hgap ▸ by simp) hfirst
    · cases gap with
      | nil => exact .inl ⟨before, by rw [hgap, List.append_nil]⟩
      | cons x gap =>
        obtain ⟨rfl, rfl⟩ := List.cons.inj hafter
        right
        rw [← List.singleton_append, ← List.append_assoc] at hgap
        rcases List.append_eq_append_iff.1 hgap with ⟨common, hcommon, rfl⟩ | ⟨skipped, -, rfl⟩
        · rcases List.eq_nil_or_concat common with rfl | ⟨common, y, rfl⟩
          · exact ⟨[], after, by simp⟩
          · rw [List.concat_eq_append, ← List.append_assoc] at hcommon
            obtain ⟨-, heq⟩ := List.append_inj' hcommon rfl
            rw [(List.cons.inj heq).1] at hpiece
            exact absurd (by simp) hpiece
        · exact ⟨skipped, after, by simp⟩
  · rintro (⟨before, rfl⟩ | hrest)
    · exact ⟨before, rest, by simp⟩
    · exact hrest.trans ((List.suffix_cons _ _).trans (List.suffix_append _ _)).isInfix

/-! ## Members and results -/

theorem foldl_cons_map {α β : Type} (f : α → β) (xs : List α) (sofar : List β) :
    xs.foldl (fun sofar x => f x :: sofar) sofar = (xs.map f).reverse ++ sofar := by
  induction xs generalizing sofar with
  | nil => rfl
  | cons x xs ih =>
    rw [List.foldl_cons, ih, List.map_cons, List.reverse_cons, List.append_assoc,
      List.singleton_append]

theorem eraseDups_eq_singleton {α : Type} [BEq α] [LawfulBEq α] {l : List α} {a : α}
    (hne : l ≠ []) (hall : ∀ x ∈ l, x = a) : l.eraseDups = [a] := by
  cases l with
  | nil => exact absurd rfl hne
  | cons x xs =>
    obtain rfl := hall x List.mem_cons_self
    have hnone : xs.filter (fun y => !y == x) = [] :=
      List.filter_eq_nil_iff.2 fun y hy => by simp [hall y (List.mem_cons_of_mem x hy)]
    rw [List.eraseDups_cons, hnone]
    rfl

section Counting

variable {α β : Type} {p : α → Bool} {f : α → List β}

/-- Members without results can be left out. -/
theorem flatMap_filter_eq {xs : List α}
    (h : ∀ x ∈ xs, p x = false → f x = []) : (xs.filter p).flatMap f = xs.flatMap f := by
  induction xs with
  | nil => rfl
  | cons x xs ih =>
    have hrest := ih fun y hy => h y (List.mem_cons_of_mem _ hy)
    cases hx : p x with
    | true => rw [List.filter_cons_of_pos hx, List.flatMap_cons, List.flatMap_cons, hrest]
    | false =>
      rw [List.filter_cons_of_neg (by simp [hx]), hrest, List.flatMap_cons,
        h x List.mem_cons_self hx, List.nil_append]

theorem countP_le_length_flatMap (hp : ∀ x, p x = true ↔ f x ≠ []) (xs : List α) :
    xs.countP p ≤ (xs.flatMap f).length := by
  induction xs with
  | nil => exact Nat.le_refl _
  | cons x xs ih =>
    rw [List.flatMap_cons, List.length_append, List.countP_cons]
    split
    · rename_i hx
      have hpos := List.length_pos_iff.2 ((hp x).1 hx)
      omega
    · omega

/-- The members that have results are as many as the results, if none has two. -/
theorem length_flatMap_eq_countP_iff (hp : ∀ x, p x = true ↔ f x ≠ []) (xs : List α) :
    (xs.flatMap f).length = xs.countP p ↔ ∀ x ∈ xs, (f x).length ≤ 1 := by
  induction xs with
  | nil => simp
  | cons x xs ih =>
    have hrest := countP_le_length_flatMap hp xs
    rw [List.flatMap_cons, List.length_append, List.countP_cons, List.forall_mem_cons, ← ih]
    split
    · rename_i hx
      have hpos := List.length_pos_iff.2 ((hp x).1 hx)
      omega
    · rename_i hx
      have hnil : (f x).length = 0 := by
        rw [List.length_eq_zero_iff]
        exact not_not.1 fun hne => hx ((hp x).2 hne)
      omega

end Counting

end WorkflowDocs
