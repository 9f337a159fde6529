import WorkflowDocs.Proofs.Path.Written

/-!
# Normal forms of joined paths

A path that was brought to its normal form can be gone on from: the normal form of what is reached
is the same as if nothing had been done to the path before. The three regimes of normal forms meet
here. A directory `external` in either path cuts off the same names; double dots in the second path
take away names of the first, and the filesystem root with them, whether or not those of the first
were applied before. Only where nothing is left of the joined path is it kept as it was written, and
then the first path shows through.

## Main results

* `Path.parts_join`: the parts of a joined path
* `Path.collapse_collapse_append`: double dots can be applied in two rounds
* `Path.normalize_compositional`: normal forms are their own, and joining respects them
-/

namespace WorkflowDocs.Path

theorem parts_join {q : Path} (h : q.root = .relative) (p : Path) :
    (p.join q).parts = p.parts ++ q.names := by
  have hrelative : q.isAbsolute = false := by simp [isAbsolute, h]
  rw [join, hrelative, if_neg Bool.false_ne_true, parts, parts]
  split
  · rfl
  · exact List.cons_append.symm

/-- Double dots can be applied to the first names before the others are put behind them. -/
theorem collapse_collapse_append (base names : List String) :
    collapse (collapse base ++ names) = collapse (base ++ names) := by
  rw [collapse_append, collapse_append, collapse_of_not_mem (not_mem_collapse base)]

/-- A path without `external` of which nothing is left is kept as it is. -/
theorem normalize_of_collapse_eq_nil {p : Path} (hexternal : externalName ∉ p.parts)
    (hnil : collapse p.parts = []) : normalize p = p := by
  rw [normalize, if_neg (by simpa using hexternal), hnil]
  rfl

theorem normalize_of_collapse_ne_nil {p : Path} (hexternal : externalName ∉ p.parts)
    (hne : collapse p.parts ≠ []) : normalize p = ofParts (collapse p.parts) := by
  rw [normalize, if_neg (by simpa using hexternal), if_neg (by simpa using hne)]

/-- Double dots behind a normal form take away what they take away behind the path itself. -/
theorem collapse_parts_normalize_append {p : Path} (hexternal : externalName ∉ p.parts)
    (names : List String) :
    collapse ((normalize p).parts ++ names) = collapse (p.parts ++ names) := by
  by_cases hnil : collapse p.parts = []
  · rw [normalize_of_collapse_eq_nil hexternal hnil]
  · rw [normalize_of_collapse_ne_nil hexternal hnil, parts_ofParts, collapse_collapse_append]

theorem not_mem_parts_normalize {p : Path} (hexternal : externalName ∉ p.parts) :
    externalName ∉ (normalize p).parts := by
  by_cases hnil : collapse p.parts = []
  · rwa [normalize_of_collapse_eq_nil hexternal hnil]
  · rw [normalize_of_collapse_ne_nil hexternal hnil, parts_ofParts]
    exact fun hmem => hexternal (collapse_subset hmem)

theorem join_right_inj {p p' q : Path} (h : q.root = .relative) :
    p.join q = p'.join q ↔ p = p' := by
  refine ⟨fun hjoin => ?_, fun hp => by rw [hp]⟩
  have hrelative : q.isAbsolute = false := by simp [isAbsolute, h]
  rw [join, join, hrelative, if_neg Bool.false_ne_true, if_neg Bool.false_ne_true] at hjoin
  obtain ⟨hroot, hnames⟩ := Path.mk.inj hjoin
  cases p
  cases p'
  exact Path.mk.injEq .. ▸ ⟨hroot, List.append_cancel_right hnames⟩

/-- A directory `external` cuts off the same names in front of a normal form and of the path itself.
If the first such directory is in the first path, its normal form begins with it; if it is in the
second, all of the first path is cut off. -/
theorem normalize_join_of_external {p q : Path} (hq : q.root = .relative)
    (h : externalName ∈ (p.join q).parts) :
    normalize (p.join q) = normalize ((normalize p).join q) := by
  by_cases hp : externalName ∈ p.parts
  · obtain ⟨before, after, hparts, hfirst⟩ := List.eq_append_cons_of_mem hp
    have hwhole : (p.join q).parts = before ++ externalName :: (after ++ q.names) := by
      rw [parts_join hq, hparts, List.append_assoc, List.cons_append]
    have hnormal : ((normalize p).join q).parts = [] ++ externalName :: (after ++ q.names) := by
      rw [parts_join hq, normalize_of_external hparts hfirst, parts_ofParts, List.cons_append,
        List.nil_append]
    rw [normalize_of_external hwhole hfirst, normalize_of_external hnormal List.not_mem_nil]
  · have hmem : externalName ∈ q.names :=
      (List.mem_append.1 (parts_join hq p ▸ h)).resolve_left hp
    obtain ⟨before, after, hnames, hfirst⟩ := List.eq_append_cons_of_mem hmem
    have hcut : ∀ p' : Path, externalName ∉ p'.parts →
        normalize (p'.join q) = ofParts (externalName :: after) := by
      intro p' hp'
      have hwhole : (p'.join q).parts = (p'.parts ++ before) ++ externalName :: after := by
        rw [parts_join hq, hnames, List.append_assoc]
      refine normalize_of_external hwhole fun hmem => ?_
      exact (List.mem_append.1 hmem).elim hp' hfirst
    rw [hcut p hp, hcut (normalize p) (not_mem_parts_normalize hp)]

/-- **Normal forms are their own, and joining respects them.** A path can be brought to its normal
form before a relative path is put behind it, exactly if the joined path has a directory `external`
in it or a part of it is left when double dots are applied, or the path was in normal form. Where
nothing is left, both sides are kept as they are. -/
theorem normalize_compositional :
    (∀ p, normalize (normalize p) = normalize p) ∧
    ∀ p q : Path, q.root = .relative →
      (normalize (p.join q) = normalize ((normalize p).join q) ↔
        externalName ∈ (p.join q).parts ∨ collapse (p.join q).parts ≠ [] ∨ normalize p = p) := by
  refine ⟨normalize_normalize, fun p q hq => ?_⟩
  by_cases hexternal : externalName ∈ (p.join q).parts
  · exact iff_of_true (normalize_join_of_external hq hexternal) (.inl hexternal)
  · have hp : externalName ∉ p.parts := fun hmem =>
      hexternal (parts_join hq p ▸ List.mem_append_left _ hmem)
    have hexternal' : externalName ∉ ((normalize p).join q).parts := by
      rw [parts_join hq] at hexternal ⊢
      exact fun hmem => (List.mem_append.1 hmem).elim (not_mem_parts_normalize hp)
        fun hmem => hexternal (List.mem_append_right _ hmem)
    have hsame : collapse ((normalize p).join q).parts = collapse (p.join q).parts := by
      rw [parts_join hq, parts_join hq, collapse_parts_normalize_append hp]
    by_cases hnil : collapse (p.join q).parts = []
    · rw [normalize_of_collapse_eq_nil hexternal hnil,
        normalize_of_collapse_eq_nil hexternal' (hsame.trans hnil), join_right_inj hq]
      simp [hexternal, hnil, eq_comm]
    · rw [normalize_of_collapse_ne_nil hexternal hnil,
        normalize_of_collapse_ne_nil hexternal' (hsame ▸ hnil), hsame]
      exact iff_of_true rfl (.inr (.inl hnil))

/-- The path `/a/../../lib` has lost its root in its normal form, and `..` behind it leads to the
same place as behind the path itself. -/
theorem normalize_compositional_rootless :
    (Path.mk .relative ["..", "b.wdl"]).root = .relative ∧
    collapse ((Path.mk .slash ["a", "..", "..", "lib"]).join ⟨.relative, ["..", "b.wdl"]⟩).parts ≠
      [] ∧
    normalize ((Path.mk .slash ["a", "..", "..", "lib"]).join ⟨.relative, ["..", "b.wdl"]⟩) =
      normalize ((normalize ⟨.slash, ["a", "..", "..", "lib"]⟩).join
        ⟨.relative, ["..", "b.wdl"]⟩) :=
  ⟨rfl, by decide, (normalize_compositional.2 _ _ rfl).2 (.inr (.inl (by decide)))⟩

/-- Where nothing is left of the joined path, a path that was not in normal form shows through. -/
example : normalize ((Path.mk .relative ["a", "b", ".."]).join ⟨.relative, [".."]⟩) ≠
    normalize ((normalize ⟨.relative, ["a", "b", ".."]⟩).join ⟨.relative, [".."]⟩) := by decide

end WorkflowDocs.Path
