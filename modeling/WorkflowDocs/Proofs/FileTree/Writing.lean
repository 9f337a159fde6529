import WorkflowDocs.FileTree.Steps
import WorkflowDocs.Proofs.Path.Resolve

/-!
# Writing into a file tree

Putting an entry at a place changes what stands there and nothing else. Writing a file puts it at
the place that the resolved path names.

## Main results

* `FileTree.get?_put`: what stands where after an entry is put at a place
* `FileTree.write_eq_some`: writing a file puts it at its resolved path
-/

namespace WorkflowDocs.FileTree

theorem lookup_replace (entries : List (Place × Entry)) (p q : Place) (e : Entry) :
    (entries.map fun x => if x.1 == p then (p, e) else x).lookup q =
      if q = p then (entries.lookup q).map fun _ => e else entries.lookup q := by
  induction entries with
  | nil => simp
  | cons x entries ih =>
    rw [List.map_cons, List.lookup_cons, List.lookup_cons, ih]
    by_cases hq : q = p
    · by_cases hx : x.1 = p
      · simp [hx, hq]
      · have hpx : (p == x.1) = false := by simpa using Ne.symm hx
        simp [hx, hq, hpx]
    · have hqp : (q == p) = false := by simpa using hq
      by_cases hx : x.1 = p <;> simp [hx, hq, hqp]

theorem isSome_lookup_of_any {entries : List (Place × Entry)} {p : Place}
    (h : entries.any (·.1 == p) = true) : (entries.lookup p).isSome = true := by
  induction entries with
  | nil => simp at h
  | cons x entries ih =>
    rw [List.lookup_cons]
    by_cases hx : p = x.1
    · simp [hx]
    · have hpx : (p == x.1) = false := by simpa using hx
      rw [hpx]
      refine ih ?_
      simpa [Ne.symm hx] using h

theorem lookup_eq_none_of_any {entries : List (Place × Entry)} {p : Place}
    (h : ¬ entries.any (·.1 == p) = true) : entries.lookup p = none := by
  rw [List.lookup_eq_none_iff]
  intro x hx
  have hne : x.1 ≠ p := by
    intro heq
    exact h (List.any_eq_true.2 ⟨x, hx, by simpa using heq⟩)
  simpa using Ne.symm hne

/-- What stands at a place after an entry is put somewhere below the root. -/
theorem get?_put (t : FileTree) {p : Place} (hp : p ≠ []) (q : Place) (e : Entry) :
    (t.put p e).get? q = if q = p then some e else t.get? q := by
  by_cases hq : q = []
  · rw [get?, get?, hq, if_neg (Ne.symm hp)]
    rfl
  · have hempty : ¬ q.isEmpty = true := by simpa using hq
    rw [get?, get?, if_neg hempty, if_neg hempty]
    by_cases hany : t.entries.any (·.1 == p) = true
    · obtain ⟨old, hold⟩ := Option.isSome_iff_exists.1 (isSome_lookup_of_any hany)
      rw [put, if_pos hany, lookup_replace]
      by_cases heq : q = p
      · simp [heq, hold]
      · simp [heq]
    · rw [put, if_neg hany, List.lookup_append]
      by_cases heq : q = p
      · simp [heq, lookup_eq_none_of_any hany]
      · have hqp : (q == p) = false := by simpa using heq
        simp [heq, hqp, List.lookup_cons]

theorem isSome_get?_put {t : FileTree} {p q : Place} (hp : p ≠ []) (e : Entry)
    (h : (t.get? q).isSome = true) : ((t.put p e).get? q).isSome = true := by
  rw [get?_put t hp]
  split
  · rfl
  · exact h

/-- Writing a file puts it at the place that its resolved path names. -/
theorem write_eq_some {cwd file : Path} {content : ByteArray} {t t' : FileTree}
    (h : write cwd file content t = some t') :
    (Path.resolve cwd file).names ≠ [] ∧
      t' = t.put (Path.resolve cwd file).names (.file content) := by
  simp only [write, Option.bind_eq_bind, Option.bind_eq_some_iff] at h
  obtain ⟨dir, hdir, h⟩ := h
  split at h
  · rename_i hname
    obtain ⟨hentry, -⟩ := Bool.and_eq_true_iff.1 hname
    simp only [isEntryName, Bool.and_eq_true, bne_iff_ne] at hentry
    have hnames : file.names ≠ [] := by
      intro hnil
      exact hentry.1.1 (by rw [Path.name, hnil]; rfl)
    have hplace : dir ++ [file.name] = (Path.resolve cwd file).names := by
      have hchild := Path.resolve_child hentry.1.2 cwd file.parent
      rw [Path.child_parent_name hnames] at hchild
      rw [hchild, (locate?_eq_some hdir).1]
      rfl
    rw [writeFile?] at h
    split at h
    · exact absurd h (by simp)
    · rw [← hplace]
      exact ⟨by simp, (Option.some.inj h).symm⟩
  · exact absurd h (by simp)

end WorkflowDocs.FileTree
