import WorkflowDocs.Fields

/-!
# Looking up and writing fields

Writing a name changes the value of that name only, and a new name is written at the end.

## Main results

* `Fields.has_iff_mem_names`, `Fields.get?_isSome_iff`: a name is there when it is among the names
* `Fields.put_of_not_mem`: a new name goes to the end
* `Fields.get?_put_self`, `Fields.get?_put_of_ne`: the values after a write
* `Fields.names_put`, `Fields.length_update`: the names after a write, and their number
* `Fields.get?_ofPairs`: after a list of writes, each name has the value that was written last
-/

namespace WorkflowDocs.Fields

variable {α : Type} {fields : Fields α} {name other : String} {value : α}

@[simp] theorem names_nil : names ([] : Fields α) = [] := rfl

@[simp] theorem names_cons (f : String × α) (fields : Fields α) :
    names (f :: fields) = f.1 :: names fields := rfl

@[simp] theorem names_append (a b : Fields α) : names (a ++ b) = names a ++ names b :=
  List.map_append

@[simp] theorem get?_nil : get? ([] : Fields α) name = none := rfl

theorem get?_cons (f : String × α) (fields : Fields α) :
    get? (f :: fields) name = if name = f.1 then some f.2 else get? fields name := by
  by_cases h : name = f.1
  · rw [get?, List.lookup_cons, if_pos h]
    simp [h]
  · have hf : (name == f.1) = false := by simpa using h
    rw [get?, List.lookup_cons, hf, if_neg h]
    rfl

theorem has_iff_mem_names : fields.has name = true ↔ name ∈ fields.names := by
  simp [has, names]

theorem get?_eq_none_iff : fields.get? name = none ↔ name ∉ fields.names := by
  induction fields with
  | nil => simp
  | cons f fields ih =>
    rw [get?_cons, names_cons, List.mem_cons]
    by_cases h : name = f.1
    · simp [h]
    · simp [h, ih]

theorem get?_isSome_iff : (fields.get? name).isSome = true ↔ name ∈ fields.names := by
  rw [Option.isSome_iff_ne_none, ne_eq, get?_eq_none_iff, Decidable.not_not]

theorem mem_names_of_get? (h : fields.get? name = some value) : name ∈ fields.names :=
  get?_isSome_iff.1 (Option.isSome_iff_exists.2 ⟨value, h⟩)

theorem mem_of_get? (h : fields.get? name = some value) : (name, value) ∈ fields := by
  induction fields with
  | nil => exact absurd h (by simp)
  | cons f fields ih =>
    rw [get?_cons] at h
    split at h
    · rename_i hname
      obtain rfl := Option.some.inj h
      exact hname ▸ List.mem_cons_self
    · exact List.mem_cons_of_mem _ (ih h)

/-- Where no name stands twice, the value of a name is the one it stands with. -/
theorem get?_eq_some_iff (h : fields.names.Nodup) :
    fields.get? name = some value ↔ (name, value) ∈ fields := by
  induction fields with
  | nil => simp
  | cons f fields ih =>
    obtain ⟨key, v⟩ := f
    rw [names_cons, List.nodup_cons] at h
    rw [get?_cons, List.mem_cons, Prod.mk.injEq]
    by_cases hk : name = key
    · subst hk
      have hnot : (name, value) ∉ fields := fun hmem =>
        h.1 (List.mem_map.2 ⟨_, hmem, rfl⟩)
      simp [hnot, eq_comm]
    · simp [hk, ih h.2]

/-- A new name is written at the end. -/
theorem put_of_not_mem (h : name ∉ fields.names) :
    fields.put name value = fields ++ [(name, value)] := by
  induction fields with
  | nil => rfl
  | cons f fields ih =>
    obtain ⟨hf, hrest⟩ := not_or.1 (mt List.mem_cons.2 h)
    rw [put, if_neg (Ne.symm hf), ih hrest, List.cons_append]

@[simp] theorem get?_put_self : (fields.put name value).get? name = some value := by
  induction fields with
  | nil => simp [put, get?_cons]
  | cons f fields ih =>
    rw [put]
    split
    · simp [get?_cons]
    · rename_i h
      rw [get?_cons, if_neg (Ne.symm h), ih]

theorem get?_put_of_ne (h : other ≠ name) :
    (fields.put name value).get? other = fields.get? other := by
  induction fields with
  | nil => simp [put, get?_cons, h]
  | cons f fields ih =>
    rw [put]
    split
    · rename_i hf
      simp [get?_cons, h, hf]
    · simp only [get?_cons, ih]

theorem mem_names_put :
    other ∈ (fields.put name value).names ↔ other = name ∨ other ∈ fields.names := by
  rw [← get?_isSome_iff, ← get?_isSome_iff]
  by_cases h : other = name
  · subst h
    simp
  · simp [get?_put_of_ne h, h]

theorem names_put :
    (fields.put name value).names =
      if name ∈ fields.names then fields.names else fields.names ++ [name] := by
  induction fields with
  | nil => rfl
  | cons f fields ih =>
    by_cases h : f.1 = name
    · simp [put, h]
    · rw [put, if_neg h, names_cons, ih]
      by_cases hmem : name ∈ names fields
      · simp [hmem]
      · simp [hmem, Ne.symm h]

/-- Changing the value of a name adds a field if the name is new. -/
theorem length_update (default : α) (change : α → α) :
    (fields.update name default change).length =
      if fields.has name then fields.length else fields.length + 1 := by
  have hlength : ∀ fields : Fields α, fields.length = fields.names.length :=
    fun fields => (List.length_map _).symm
  rw [update, hlength, names_put, hlength]
  by_cases h : name ∈ fields.names
  · rw [if_pos h, if_pos (has_iff_mem_names.2 h)]
  · rw [if_neg h, if_neg (mt has_iff_mem_names.1 h), List.length_append, List.length_singleton]

theorem ofPairs_append_singleton (pairs : List (String × α)) :
    ofPairs (pairs ++ [(name, value)]) = (ofPairs pairs).put name value := by
  rw [ofPairs, List.foldl_append]
  rfl

/-- After a list of writes, each name has the value that was written last. The last write comes
first in the reversed list. -/
theorem get?_ofPairs (pairs : List (String × α)) :
    (ofPairs pairs).get? name = get? pairs.reverse name := by
  generalize hwrites : pairs.reverse = writes
  obtain rfl := List.reverse_eq_iff.1 hwrites
  induction writes with
  | nil => rfl
  | cons last writes ih =>
    rw [List.reverse_cons, ofPairs_append_singleton, get?_cons]
    split
    · rename_i h
      rw [h, get?_put_self]
    · rename_i h
      rw [get?_put_of_ne h]
      exact ih (List.reverse_reverse writes)

end WorkflowDocs.Fields
