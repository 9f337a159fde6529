import WorkflowDocs.Project.Discovery
import WorkflowDocs.Proofs.Path.Resolve
import Mathlib.Data.List.Infix
import Mathlib.Data.List.Nodup

/-!
# The sources of a project

The sources of a project are found once each, and none of them is a third-party source. The second
fact joins two ways of reading a path: sources are left out when the *text* of their place contains
`external/`, and a path is third-party when one of its *parts* is `external`. They agree because the
last part of a source ends in `.wdl`: a part `external` is followed by a slash.

## Main results

* `FileTree.mem_below`, `FileTree.nodup_below`: the places below a directory
* `Project.exists_of_mem_internalFiles`: where the sources of a project lie
* `Project.nodup_internalFiles`: each is found once
* `Project.isExternal_of_mem_internalFiles`: none is third-party
-/

namespace WorkflowDocs

/-! ## Searching text -/

namespace Text

theorem charsContain_iff {piece cs : List Char} : charsContain piece cs = true ↔ piece <:+: cs := by
  induction cs with
  | nil => simp [charsContain]
  | cons c cs ih =>
    rw [charsContain, Bool.or_eq_true, ih, List.isPrefixOf_iff_prefix, List.infix_cons_iff]

/-- Every joined text but the last is followed by the separator. -/
theorem infix_joinWith {sep x : String} {names : List String} (h : x ∈ names.dropLast) :
    (x ++ sep).toList <:+: (joinWith sep names).toList := by
  fun_induction joinWith sep names with
  | case1 => simp at h
  | case2 => simp at h
  | case3 s rest hrest ih =>
    rw [List.dropLast_cons_of_ne_nil (fun hnil => hrest hnil), List.mem_cons] at h
    have htext : (s ++ sep ++ joinWith sep rest).toList =
        (s ++ sep).toList ++ (joinWith sep rest).toList := String.toList_append
    rw [htext]
    rcases h with rfl | h
    · exact (List.prefix_append _ _).isInfix
    · exact (ih h).trans (List.suffix_append _ _).isInfix

theorem contains_joinWith {sep x : String} {names : List String} (h : x ∈ names.dropLast) :
    contains (joinWith sep names) (x ++ sep) = true :=
  charsContain_iff.2 (infix_joinWith h)

end Text

/-! ## The places below a directory -/

namespace FileTree

theorem mem_below {t : FileTree} {dir : Place} {names : List String} :
    names ∈ t.below dir ↔ names ≠ [] ∧ dir ++ names ∈ t.entries.map (·.1) := by
  simp only [below, List.mem_filterMap, List.mem_map, Option.ite_none_right_eq_some,
    Bool.and_eq_true, List.isPrefixOf_iff_prefix, decide_eq_true_eq, Option.some.injEq]
  constructor
  · rintro ⟨x, hx, ⟨⟨rest, hrest⟩, hlength⟩, rfl⟩
    rw [← hrest, List.drop_left]
    rw [← hrest, List.length_append] at hlength
    exact ⟨List.ne_nil_of_length_pos (by omega), x, hx, hrest.symm⟩
  · rintro ⟨hne, x, hx, hplace⟩
    have hlength := List.length_pos_of_ne_nil hne
    refine ⟨x, hx, ⟨⟨names, hplace.symm⟩, ?_⟩, by rw [hplace, List.drop_left]⟩
    rw [hplace, List.length_append]
    omega

theorem nodup_below {t : FileTree} (h : t.WellFormed) (dir : Place) : (t.below dir).Nodup := by
  have hmap : t.below dir = (t.entries.map (·.1)).filterMap fun place =>
      if dir.isPrefixOf place && dir.length < place.length then some (place.drop dir.length)
      else none := by
    rw [List.filterMap_map]
    rfl
  rw [hmap]
  refine h.nodup.filterMap fun place place' names hplace hplace' => ?_
  simp only [Option.mem_def, Option.ite_none_right_eq_some, Bool.and_eq_true,
    List.isPrefixOf_iff_prefix, Option.some.injEq] at hplace hplace'
  obtain ⟨⟨⟨rest, rfl⟩, -⟩, rfl⟩ := hplace
  obtain ⟨⟨⟨rest', rfl⟩, -⟩, hrest⟩ := hplace'
  rw [List.drop_left, List.drop_left] at hrest
  rw [hrest]

end FileTree

/-! ## Sources -/

namespace Project

theorem mem_sourcesBelow {t : FileTree} {cwd dir file : Path} :
    file ∈ sourcesBelow t cwd dir ↔
      ∃ place names, t.locate? cwd dir = some place ∧ t.isDirectory place = true ∧
        names ∈ t.below place ∧ Text.endsWith (names.getLast?.getD "") sourceSuffix = true ∧
        file = ⟨dir.root, dir.names ++ names⟩ := by
  rw [sourcesBelow]
  cases hplace : t.locate? cwd dir with
  | none => simp
  | some place =>
    cases hdir : t.isDirectory place with
    | false => simp [hdir]
    | true =>
      dsimp only
      rw [hdir, if_neg (by decide), List.mem_map]
      simp only [List.mem_filter]
      constructor
      · rintro ⟨names, ⟨hbelow, hsuffix⟩, rfl⟩
        exact ⟨place, names, rfl, hdir, hbelow, hsuffix, rfl⟩
      · rintro ⟨_, names, ⟨⟩, -, hbelow, hsuffix, rfl⟩
        exact ⟨names, ⟨hbelow, hsuffix⟩, rfl⟩

theorem exists_of_mem_sourcesBelow {t : FileTree} {cwd dir file : Path}
    (h : file ∈ sourcesBelow t cwd dir) :
    ∃ place names, t.locate? cwd dir = some place ∧ names ∈ t.below place ∧
      Text.endsWith (names.getLast?.getD "") sourceSuffix = true ∧
      file = ⟨dir.root, dir.names ++ names⟩ := by
  obtain ⟨place, names, hplace, -, hbelow, hsuffix, hfile⟩ := mem_sourcesBelow.1 h
  exact ⟨place, names, hplace, hbelow, hsuffix, hfile⟩

theorem nodup_sourcesBelow {t : FileTree} (h : t.WellFormed) (cwd dir : Path) :
    (sourcesBelow t cwd dir).Nodup := by
  rw [sourcesBelow]
  split
  · exact List.nodup_nil
  · split
    · exact List.nodup_nil
    · refine ((FileTree.nodup_below h _).filter _).map fun names names' heq => ?_
      exact List.append_cancel_left (Path.mk.inj heq).2

theorem mem_internalFiles {p : Project} {t : FileTree} {cwd file : Path} :
    file ∈ p.internalFiles t cwd ↔
      file ∈ sourcesBelow t cwd p.root ∧
        p.isExcluded (p.exclude ++ [Path.externalName ++ "/"]) file = false := by
  rw [internalFiles, (Path.sort_perm _).mem_iff, List.mem_filter, Bool.not_eq_true']

theorem nodup_internalFiles {t : FileTree} (h : t.WellFormed) (p : Project) (cwd : Path) :
    (p.internalFiles t cwd).Nodup :=
  (Path.sort_perm _).nodup_iff.2 ((nodup_sourcesBelow h cwd p.root).filter _)

/-- A source ends in `.wdl`, so its name is not `external`. -/
theorem externalName_ne_of_endsWith {name : String}
    (h : Text.endsWith name sourceSuffix = true) : name ≠ Path.externalName := by
  rintro rfl
  exact absurd h (by decide)

/-- The sources of a project lie below its root, at places without a directory `external`. A part
`external` is not the last, so the text of the place would have `external/` in it. -/
theorem exists_of_mem_internalFiles {p : Project} {t : FileTree} {cwd file : Path}
    (h : file ∈ p.internalFiles t cwd) :
    ∃ place names, place ++ names ∈ t.entries.map (·.1) ∧ names ≠ [] ∧
      Text.endsWith (names.getLast?.getD "") sourceSuffix = true ∧
      Path.externalName ∉ names ∧ file = ⟨p.root.root, p.root.names ++ names⟩ := by
  obtain ⟨hfile, hexcluded⟩ := mem_internalFiles.1 h
  obtain ⟨place, names, -, hbelow, hsuffix, rfl⟩ := exists_of_mem_sourcesBelow hfile
  obtain ⟨hne, hplace⟩ := FileTree.mem_below.1 hbelow
  refine ⟨place, names, hplace, hne, hsuffix, fun hexternal => ?_, rfl⟩
  have hlast : names.getLast hne ≠ Path.externalName := by
    rw [List.getLast?_eq_some_getLast hne] at hsuffix
    exact externalName_ne_of_endsWith hsuffix
  have hdrop : Path.externalName ∈ names.dropLast := by
    rw [← List.dropLast_concat_getLast hne, List.mem_append, List.mem_singleton] at hexternal
    exact hexternal.resolve_right (Ne.symm hlast)
  have htext : (Path.mk .relative names).text = Text.joinWith "/" names := by
    simp [Path.text, hne, Root.text]
  rw [isExcluded, Path.relativeTo?_append] at hexcluded
  simp only [List.any_append, Bool.or_eq_false_iff] at hexcluded
  rw [List.any_cons, htext, Text.contains_joinWith hdrop] at hexcluded
  exact absurd hexcluded.2 (by simp)

theorem placeOf_append (p : Project) (names : List String) :
    p.placeOf ⟨p.root.root, p.root.names ++ names⟩ = ⟨.relative, names⟩ := by
  rw [placeOf, Path.relativeTo?_append, Option.getD_some]

/-- The sources of a project with the standard external directory are not third-party. -/
theorem isExternal_of_mem_internalFiles {p : Project} {t : FileTree} {cwd file : Path}
    (habs : p.root.isAbsolute = true) (hdirs : p.externalDirs = [Path.externalName])
    (h : file ∈ p.internalFiles t cwd) : p.isExternal file = false := by
  obtain ⟨-, names, -, -, -, hexternal, rfl⟩ := exists_of_mem_internalFiles h
  have hroot : p.root.root ≠ .relative := by simpa [Path.isAbsolute] using habs
  simp [isExternal, placeOf_append, hdirs, Path.parts, hroot.symm, hexternal]

end Project

end WorkflowDocs
