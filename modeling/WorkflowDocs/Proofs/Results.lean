import Mathlib.Data.List.Forall2

/-!
# Computations that can fail

A computation gives a result or an error. Where a computation is made of others, its result is made
of theirs, and its error is the first of theirs.

## Main definitions

* `HasResult`: a computation that does not fail
* `Reports`: a result that is the first of some faults, or a value if there are none

## Main results

* `exists_of_bind_eq_ok`, `exists_of_map_eq_ok`: the results that a result is made of
* `forall₂_of_mapM`: the results, member by member
* `hasResult_bind`, `hasResult_mapM`: when a computation has a result
* `ne_error_bind`, `ne_error_mapM`: the errors that a computation does not give
* `Reports.bind`, `Reports.mapM`: the faults of a computation are those of its parts
-/

namespace WorkflowDocs

section Results

variable {ε α β : Type} {x : Except ε α}

theorem exists_of_bind_eq_ok {f : α → Except ε β} {b : β} (h : x >>= f = .ok b) :
    ∃ a, x = .ok a ∧ f a = .ok b := by
  cases x with
  | error e => exact absurd h (by simp [bind, Except.bind])
  | ok a => exact ⟨a, rfl, h⟩

theorem exists_of_map_eq_ok {f : α → β} {b : β} (h : x.map f = .ok b) :
    ∃ a, x = .ok a ∧ f a = b := by
  cases x with
  | ok a => exact ⟨a, rfl, Except.ok.inj h⟩
  | error e => exact absurd h (by simp [Except.map])

theorem eq_ok_of_mapError {δ : Type} {f : ε → δ} {a : α} (h : x.mapError f = .ok a) :
    x = .ok a := by
  cases x with
  | error e => simp [Except.mapError] at h
  | ok b => simpa [Except.mapError] using h

theorem eq_ok_of_toOption {a : α} (h : x.toOption = some a) : x = .ok a := by
  cases x with
  | ok b => exact congrArg Except.ok (Option.some.inj h)
  | error e => exact absurd h (by simp [Except.toOption])

/-- The results of the members of a list, one by one. -/
theorem forall₂_of_mapM {f : α → Except ε β} {xs : List α} {ys : List β}
    (h : xs.mapM f = .ok ys) : List.Forall₂ (fun x y => f x = .ok y) xs ys := by
  induction xs generalizing ys with
  | nil =>
    obtain rfl := Except.ok.inj h
    exact .nil
  | cons x xs ih =>
    rw [List.mapM_cons] at h
    obtain ⟨y, hy, h⟩ := exists_of_bind_eq_ok h
    obtain ⟨ys, hys, h⟩ := exists_of_bind_eq_ok h
    obtain rfl := Except.ok.inj h
    exact .cons hy (ih hys)

/-! ## Computations with a result -/

/-- The computation does not fail. -/
def HasResult (x : Except ε α) : Prop :=
  ∃ a, x = .ok a

theorem hasResult_ok {a : α} : HasResult (Except.ok a : Except ε α) := ⟨a, rfl⟩

theorem ok_bind (a : α) (f : α → Except ε β) : (Except.ok a >>= f) = f a := rfl

theorem hasResult_map {f : α → β} : HasResult (x.map f) ↔ HasResult x := by
  cases x with
  | error e => simp [HasResult, Except.map]
  | ok a => simp [HasResult, Except.map]

/-- A computation in two steps, where whether the second fails does not depend on the result of the
first. -/
theorem hasResult_bind {f : α → Except ε β} {P : Prop} (hf : ∀ a, HasResult (f a) ↔ P) :
    HasResult (x >>= f) ↔ HasResult x ∧ P := by
  constructor
  · rintro ⟨b, hb⟩
    obtain ⟨a, ha, hfa⟩ := exists_of_bind_eq_ok hb
    exact ⟨⟨a, ha⟩, (hf a).1 ⟨b, hfa⟩⟩
  · rintro ⟨⟨a, rfl⟩, hP⟩
    exact (hf a).2 hP

theorem hasResult_bind_pure {f : α → β} : HasResult (x >>= fun a => pure (f a)) ↔ HasResult x := by
  have hpure : ∀ a, HasResult (pure (f a) : Except ε β) ↔ True :=
    fun a => iff_true_intro hasResult_ok
  rw [hasResult_bind hpure, and_true]

theorem hasResult_mapM {f : α → Except ε β} {xs : List α} :
    HasResult (xs.mapM f) ↔ ∀ x ∈ xs, HasResult (f x) := by
  induction xs with
  | nil => exact ⟨fun _ _ hmem => absurd hmem List.not_mem_nil, fun _ => ⟨[], rfl⟩⟩
  | cons x xs ih =>
    rw [List.mapM_cons, hasResult_bind fun y => hasResult_bind_pure, ih, List.forall_mem_cons]

theorem hasResult_option_mapM {f : α → Except ε β} {o : Option α} :
    HasResult (o.mapM f) ↔ ∀ x ∈ o, HasResult (f x) := by
  cases o with
  | none => exact iff_of_true hasResult_ok fun x hx => absurd hx (by simp)
  | some a =>
    have hmap : HasResult (some <$> f a) ↔ HasResult (f a) := hasResult_map
    simpa using hmap

theorem hasResult_elim_error {o : Option α} {e : ε} :
    HasResult (o.elim (.error e) .ok : Except ε α) ↔ o.isSome = true := by
  cases o <;> simp [HasResult]

/-! ## Errors that do not occur -/

theorem ne_error_map {e : ε} {f : α → β} (h : x ≠ .error e) : x.map f ≠ .error e := by
  cases x with
  | error e' => simpa [Except.map] using h
  | ok a => simp [Except.map]

theorem ne_error_bind {e : ε} {f : α → Except ε β} (h : x ≠ .error e) (hf : ∀ a, f a ≠ .error e) :
    x >>= f ≠ .error e := by
  cases x with
  | error e' => simpa [bind, Except.bind] using h
  | ok a => exact hf a

theorem ne_error_mapM {e : ε} {f : α → Except ε β} (hf : ∀ a, f a ≠ .error e) (xs : List α) :
    xs.mapM f ≠ .error e := by
  induction xs with
  | nil => simp [pure, Except.pure]
  | cons x xs ih =>
    rw [List.mapM_cons]
    refine ne_error_bind (hf x) fun y => ne_error_bind ih fun ys => ?_
    simp [pure, Except.pure]

theorem ne_error_option_mapM {e : ε} {f : α → Except ε β} (hf : ∀ a, f a ≠ .error e)
    (o : Option α) : o.mapM f ≠ .error e := by
  cases o with
  | none => simp [pure, Except.pure]
  | some a =>
    have hmap : some <$> f a ≠ .error e := ne_error_map (hf a)
    simpa using hmap

end Results

/-! ## Errors that are reported -/

/-- The result is the first of the faults, or a value if there are none. -/
def Reports {ε α : Type} (r : Except ε α) (fs : List ε) : Prop :=
  ∀ f, r = .error f ↔ fs.head? = some f

namespace Reports

variable {ε α β : Type} {r : Except ε α} {fs gs : List ε}

theorem ok (a : α) : Reports (.ok a : Except ε α) [] := fun f => by simp

theorem error (f : ε) : Reports (.error f : Except ε α) [f] := fun g => by simp

theorem exists_ok_iff (h : Reports r fs) : (∃ a, r = .ok a) ↔ fs = [] := by
  cases r with
  | ok a =>
    have hnone : fs.head? = none := Option.eq_none_iff_forall_ne_some.2 fun f hf =>
      absurd ((h f).2 hf) (by simp)
    exact iff_of_true ⟨a, rfl⟩ (List.head?_eq_none_iff.1 hnone)
  | error f =>
    have hsome := (h f).1 rfl
    refine iff_of_false (by simp) ?_
    rintro rfl
    exact absurd hsome (by simp)

theorem of_eq_ok {a : α} (h : Reports r fs) (hr : r = .ok a) : fs = [] :=
  h.exists_ok_iff.1 ⟨a, hr⟩

/-- A computation that goes on with a value reports the faults of both its parts. -/
theorem bind {next : α → Except ε β} (h : Reports r fs)
    (hnext : ∀ a, r = .ok a → Reports (next a) gs) : Reports (r >>= next) (fs ++ gs) := by
  cases r with
  | ok a =>
    rw [h.of_eq_ok rfl]
    exact hnext a rfl
  | error f =>
    intro g
    rw [List.head?_append, (h f).1 rfl]
    change Except.error f = Except.error g ↔ some f = some g
    simp

theorem map {g : α → β} (h : Reports r fs) : Reports (r.map g) fs := by
  cases r with
  | ok a =>
    rw [h.of_eq_ok rfl]
    exact ok (g a)
  | error f =>
    intro e
    rw [(h f).1 rfl]
    change Except.error f = Except.error e ↔ some f = some e
    simp

/-- Items that are gone through one by one report the faults of each of them. -/
theorem mapM {f : α → Except ε β} {faults : α → List ε} (h : ∀ a, Reports (f a) (faults a))
    (as : List α) : Reports (as.mapM f) (as.flatMap faults) := by
  induction as with
  | nil => exact ok []
  | cons a as ih =>
    rw [List.mapM_cons, List.flatMap_cons]
    refine (h a).bind fun _ _ => ?_
    rw [← List.append_nil (as.flatMap faults)]
    exact ih.bind fun _ _ => ok _

/-- What follows on a computation may fail, but not with the error in question. -/
theorem bind_eq_error_iff {next : α → Except ε β} {f : ε} (h : Reports r fs)
    (hnext : ∀ a, next a ≠ .error f) : r >>= next = .error f ↔ fs.head? = some f := by
  rw [← h f]
  cases r with
  | ok a => exact iff_of_false (hnext a) (by simp)
  | error g =>
    change Except.error g = Except.error f ↔ Except.error g = Except.error f
    simp

end Reports

end WorkflowDocs
