import Mathlib.Data.List.Forall2

/-!
# Going through a list with a step that can fail

The members of a list are taken one after the other, and nothing comes of it if one of them has no
result. Otherwise each member has one, and what is made of the results does not depend on whether
it is made on the way or at the end.

## Main results

* `exists_mapM_eq_some`, `exists_foldlM_eq_some`: every member has a result
* `forall₂_of_mapM_eq_some`, `mem_of_mapM_eq_some`: the results, member by member
* `exists_getElem?_of_forall₂`, `forall_mem_iff_of_forall₂`: related lists, member by member
* `map_eq_of_forall₂`, `map_eq_of_mapM_eq_some`: what is read off the results
* `foldlM_map_eq`: the results can be taken first, and put together then
-/

namespace WorkflowDocs

theorem exists_mapM_eq_some {α β : Type} {f : α → Option β} {xs : List α}
    (h : ∀ x ∈ xs, (f x).isSome = true) : ∃ ys, xs.mapM f = some ys := by
  induction xs with
  | nil => exact ⟨[], rfl⟩
  | cons x xs ih =>
    obtain ⟨y, hy⟩ := Option.isSome_iff_exists.1 (h x List.mem_cons_self)
    obtain ⟨ys, hys⟩ := ih fun z hz => h z (List.mem_cons_of_mem _ hz)
    exact ⟨y :: ys, by simp [List.mapM_cons, hy, hys]⟩

theorem exists_foldlM_eq_some {α β : Type} {f : β → α → Option β} {xs : List α}
    (h : ∀ x ∈ xs, ∀ b, (f b x).isSome = true) (b : β) : ∃ b', xs.foldlM f b = some b' := by
  induction xs generalizing b with
  | nil => exact ⟨b, rfl⟩
  | cons x xs ih =>
    obtain ⟨b', hb'⟩ := Option.isSome_iff_exists.1 (h x List.mem_cons_self b)
    rw [List.foldlM_cons, hb']
    exact ih (fun z hz => h z (List.mem_cons_of_mem _ hz)) b'

theorem forall₂_of_mapM_eq_some {α β : Type} {f : α → Option β} {xs : List α} {ys : List β}
    (h : xs.mapM f = some ys) : List.Forall₂ (fun x y => f x = some y) xs ys := by
  induction xs generalizing ys with
  | nil =>
    obtain rfl := Option.some.inj h
    exact .nil
  | cons x xs ih =>
    rw [List.mapM_cons] at h
    obtain ⟨y, hy, h⟩ := Option.bind_eq_some_iff.1 h
    obtain ⟨ys, hys, h⟩ := Option.bind_eq_some_iff.1 h
    obtain rfl := Option.some.inj h
    exact .cons hy (ih hys)

theorem exists_mem_of_forall₂ {α β : Type} {R : α → β → Prop} {xs : List α} {ys : List β}
    (h : List.Forall₂ R xs ys) {x : α} (hx : x ∈ xs) : ∃ y ∈ ys, R x y := by
  induction h with
  | nil => cases hx
  | cons hy _ ih =>
    rcases List.mem_cons.1 hx with rfl | hx
    · exact ⟨_, List.mem_cons_self, hy⟩
    · obtain ⟨y, hmem, hy⟩ := ih hx
      exact ⟨y, List.mem_cons_of_mem _ hmem, hy⟩

theorem exists_getElem?_of_forall₂ {α β : Type} {R : α → β → Prop} {xs : List α} {ys : List β}
    (h : List.Forall₂ R xs ys) {k : Nat} {x : α} (hx : xs[k]? = some x) :
    ∃ y, ys[k]? = some y ∧ R x y := by
  induction h generalizing k with
  | nil => exact absurd hx (by simp)
  | cons hxy _ ih =>
    cases k with
    | zero =>
      obtain rfl := Option.some.inj hx
      exact ⟨_, rfl, hxy⟩
    | succ k => exact ih hx

theorem forall_mem_iff_of_forall₂ {α β : Type} {R : α → β → Prop} {P : α → Prop} {Q : β → Prop}
    (hiff : ∀ a b, R a b → (P a ↔ Q b)) {xs : List α} {ys : List β} (h : List.Forall₂ R xs ys) :
    (∀ x ∈ xs, P x) ↔ ∀ y ∈ ys, Q y := by
  induction h with
  | nil => simp
  | cons hab _ ih => rw [List.forall_mem_cons, List.forall_mem_cons, hiff _ _ hab, ih]

/-- The results are those of the members. -/
theorem mem_of_mapM_eq_some {α β : Type} {f : α → Option β} {xs : List α} {ys : List β}
    (h : xs.mapM f = some ys) :
    (∀ x ∈ xs, ∃ y ∈ ys, f x = some y) ∧ ∀ y ∈ ys, ∃ x ∈ xs, f x = some y := by
  have hresults := forall₂_of_mapM_eq_some h
  refine ⟨fun x hx => exists_mem_of_forall₂ hresults hx, fun y hy => ?_⟩
  exact exists_mem_of_forall₂ (List.Forall₂.flip (R := fun y x => f x = some y) hresults) hy

/-- What related members have in common is read off either list. -/
theorem map_eq_of_forall₂ {α β γ : Type} {f : α → γ} {g : β → γ} {xs : List α} {ys : List β}
    (h : List.Forall₂ (fun x y => f x = g y) xs ys) : xs.map f = ys.map g := by
  have heq : List.Forall₂ Eq (xs.map f) (ys.map g) :=
    List.forall₂_map_left_iff.2 (List.forall₂_map_right_iff.2 h)
  rwa [List.forall₂_eq_eq_eq] at heq

/-- What is read off the results can be read off the members. -/
theorem map_eq_of_mapM_eq_some {α β γ : Type} {f : α → Option β} {g : β → γ} {g' : α → γ}
    (hread : ∀ x y, f x = some y → g y = g' x) {xs : List α} {ys : List β}
    (h : xs.mapM f = some ys) : ys.map g = xs.map g' :=
  (map_eq_of_forall₂ ((forall₂_of_mapM_eq_some h).imp fun x y hy => (hread x y hy).symm)).symm

/-- Results that are put together on the way can be taken first, and put together then. -/
theorem foldlM_map_eq {α β γ : Type} (f : α → Option β) (step : γ → β → γ) (xs : List α) (c : γ) :
    xs.foldlM (fun c x => (f x).map (step c)) c = (xs.mapM f).map (List.foldl step c) := by
  induction xs generalizing c with
  | nil => rfl
  | cons x xs ih =>
    rw [List.foldlM_cons, List.mapM_cons]
    cases f x with
    | none => rfl
    | some y =>
      dsimp only [Option.map_some, Option.bind_eq_bind, Option.bind_some]
      rw [ih]
      cases xs.mapM f <;> rfl

end WorkflowDocs
