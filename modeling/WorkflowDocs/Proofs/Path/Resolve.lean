import WorkflowDocs.FileTree.Basic
import WorkflowDocs.Path.Normalize
import Mathlib.Data.List.Basic

/-!
# Resolved paths

Applying double dots to names leaves none, and leaves names without double dots as they are. A path
that can be followed through a tree leads to the place that its resolved form names, so whatever
exists exists under its resolved path.

## Main definitions

* `Path.Plain`, `FileTree.WellFormed`: names that entries can have, and trees with such names
* `FileTree.Regular`: trees with names that a file system takes

## Main results

* `collapse_of_not_mem`, `not_mem_collapse`: what applying double dots does
* `FileTree.locate?_eq_some`: following a path leads to its resolved names
* `FileTree.Regular.name_of_walk`: the names of a path that can be followed
* `resolve_of_not_mem`: a path from the root without double dots is resolved
* `relativeTo?_eq_some_iff`: the places relative to a directory
-/

namespace WorkflowDocs

namespace Path

/-- Names that entries can have: none is empty or a double dot or has a slash in it. -/
def Plain (names : List String) : Prop :=
  ∀ name ∈ names, name ≠ "" ∧ name ≠ ".." ∧ '/' ∉ name.toList

instance (names : List String) : Decidable (Plain names) :=
  inferInstanceAs (Decidable (∀ name ∈ names, _))

theorem Plain.not_mem {names : List String} (h : Plain names) : ".." ∉ names :=
  fun hmem => (h _ hmem).2.1 rfl

theorem Plain.of_suffix {names names' : List String} (h : Plain names)
    (hsuffix : names' <:+ names) : Plain names' :=
  fun name hmem => h name (hsuffix.subset hmem)

/-! ## Double dots -/

theorem collapseOnto_of_not_mem {names : List String} (h : ".." ∉ names) (kept : List String) :
    collapseOnto kept names = kept.reverse ++ names := by
  induction names generalizing kept with
  | nil => simp [collapseOnto]
  | cons name names ih =>
    have hname : name ≠ ".." := (List.ne_of_not_mem_cons h).symm
    rw [collapseOnto, if_neg hname, ih (List.not_mem_of_not_mem_cons h), List.reverse_cons,
      List.append_assoc, List.singleton_append]

theorem collapse_of_not_mem {names : List String} (h : ".." ∉ names) : collapse names = names :=
  collapseOnto_of_not_mem h []

theorem collapseOnto_append (kept names names' : List String) :
    collapseOnto kept (names ++ names') =
      collapseOnto (collapseOnto kept names).reverse names' := by
  induction names generalizing kept with
  | nil => simp [collapseOnto]
  | cons name names ih =>
    rw [List.cons_append, collapseOnto, collapseOnto]
    split
    · exact ih kept.tail
    · exact ih (name :: kept)

theorem collapse_append_of_not_mem (names : List String) {names' : List String}
    (h : ".." ∉ names') : collapse (names ++ names') = collapse names ++ names' := by
  rw [collapse, collapseOnto_append, collapseOnto_of_not_mem h, List.reverse_reverse, collapse]

theorem not_mem_collapseOnto {kept : List String} (h : ".." ∉ kept) (names : List String) :
    ".." ∉ collapseOnto kept names := by
  induction names generalizing kept with
  | nil => simpa [collapseOnto] using h
  | cons name names ih =>
    rw [collapseOnto]
    split
    · exact ih fun hmem => h (List.mem_of_mem_tail hmem)
    · rename_i hname
      exact ih (List.not_mem_cons_of_ne_of_not_mem (Ne.symm hname) h)

theorem not_mem_collapse (names : List String) : ".." ∉ collapse names :=
  not_mem_collapseOnto List.not_mem_nil names

/-! ## Resolving -/

theorem join_of_isAbsolute {q : Path} (h : q.isAbsolute = true) (p : Path) : p.join q = q := by
  rw [join, if_pos h]

theorem resolve_of_not_mem {p : Path} (hroot : p.root = .slash) (h : ".." ∉ p.names)
    (cwd : Path) : resolve cwd p = p := by
  have habs : p.isAbsolute = true := by simp [isAbsolute, hroot]
  rw [resolve, join_of_isAbsolute habs, collapse_of_not_mem h, ← hroot]

theorem child_parent_name {p : Path} (h : p.names ≠ []) : p.parent.child p.name = p := by
  rw [child, parent, name, List.getLast?_eq_some_getLast h, Option.getD_some,
    List.dropLast_concat_getLast h]

theorem join_append (base : Path) (root : Root) (names names' : List String) :
    base.join ⟨root, names ++ names'⟩ =
      ⟨(base.join ⟨root, names⟩).root, (base.join ⟨root, names⟩).names ++ names'⟩ := by
  by_cases h : (Path.mk root names).isAbsolute = true
  · rw [join_of_isAbsolute h, join_of_isAbsolute (by exact h)]
  · rw [join, join, if_neg h, if_neg (by exact h), List.append_assoc]

/-- The names of a path are the last of those that it has in a directory. -/
theorem names_suffix_join (base p : Path) : p.names <:+ (base.join p).names := by
  rw [join]
  split
  · exact List.suffix_rfl
  · exact List.suffix_append _ _

theorem join_child (base p : Path) (name : String) :
    base.join (p.child name) = (base.join p).child name :=
  join_append base p.root p.names [name]

theorem resolve_child {name : String} (h : name ≠ "..") (cwd p : Path) :
    resolve cwd (p.child name) = (resolve cwd p).child name := by
  have hdots : ".." ∉ [name] := by simpa using h.symm
  rw [resolve, join_child, child, collapse_append_of_not_mem _ hdots, resolve, child]

theorem child_inj {p q : Path} {name name' : String} :
    p.child name = q.child name' ↔ p = q ∧ name = name' := by
  constructor
  · intro h
    obtain ⟨hroot, hnames⟩ := Path.mk.inj h
    obtain ⟨hdir, hname⟩ := List.append_inj' hnames rfl
    refine ⟨?_, List.singleton_inj.1 hname⟩
    cases p
    cases q
    exact Path.mk.injEq .. ▸ ⟨hroot, hdir⟩
  · rintro ⟨rfl, rfl⟩
    rfl

/-! ## Places relative to a directory -/

theorem relativeTo?_eq_some_iff {p base place : Path} :
    p.relativeTo? base = some place ↔
      p.root = base.root ∧ place.root = .relative ∧ p.names = base.names ++ place.names := by
  obtain ⟨root, names⟩ := place
  simp only [relativeTo?, Bool.and_eq_true, decide_eq_true_eq, List.isPrefixOf_iff_prefix]
  constructor
  · intro h
    split at h
    · rename_i hbelow
      obtain ⟨hroot, rest, hrest⟩ := hbelow
      obtain ⟨rfl, rfl⟩ := Path.mk.injEq .. ▸ Option.some.inj h
      exact ⟨hroot, rfl, by rw [← hrest, List.drop_left]⟩
    · exact absurd h (by simp)
  · rintro ⟨hroot, rfl, hnames⟩
    rw [if_pos ⟨hroot, hnames ▸ List.prefix_append _ _⟩, hnames, List.drop_left]

theorem relativeTo?_append (root : Root) (dir names : List String) :
    relativeTo? ⟨root, dir ++ names⟩ ⟨root, dir⟩ = some ⟨.relative, names⟩ :=
  relativeTo?_eq_some_iff.2 ⟨rfl, rfl, rfl⟩

theorem sort_perm (ps : List Path) : (sort ps).Perm ps :=
  List.mergeSort_perm ps _

end Path

/-! ## Following a path through a tree -/

namespace FileTree

/-- A tree in which no place stands twice and the names are such that entries can have. -/
structure WellFormed (t : FileTree) : Prop where
  nodup : (t.entries.map (·.1)).Nodup
  plain : ∀ place ∈ t.entries.map (·.1), Path.Plain place

theorem mem_places_of_get? {t : FileTree} {place : Place} (h : (t.get? place).isSome = true) :
    place = [] ∨ place ∈ t.entries.map (·.1) := by
  rw [get?] at h
  split at h
  · exact .inl (List.isEmpty_iff.1 ‹_›)
  · obtain ⟨e, he⟩ := Option.isSome_iff_exists.1 h
    obtain ⟨before, after, hentries, -⟩ := List.lookup_eq_some_iff.1 he
    exact .inr (by simp [hentries])

/-- The names that were passed, with double dots applied, are where a walk has come to. -/
theorem walk_eq_some {t : FileTree} {here place : Place} {names : List String}
    (h : t.walk here names = some place) :
    place = Path.collapseOnto here.reverse names ∧ (t.get? place).isSome = true := by
  induction names generalizing here with
  | nil =>
    rw [walk] at h
    split at h
    · obtain rfl := Option.some.inj h
      exact ⟨by simp [Path.collapseOnto], ‹_›⟩
    · exact absurd h (by simp)
  | cons name names ih =>
    rw [walk] at h
    split at h
    · exact absurd h (by simp)
    · rw [Path.collapseOnto]
      split at h
      · rw [if_pos ‹_›, List.tail_reverse]
        exact ih h
      · rw [if_neg ‹_›, ← List.reverse_concat]
        exact ih h

theorem locate?_eq_some {t : FileTree} {cwd p : Path} {place : Place}
    (h : t.locate? cwd p = some place) :
    place = (Path.resolve cwd p).names ∧ (t.get? place).isSome = true :=
  walk_eq_some h

/-- A tree whose entries have names that a file system takes, and none of them is a dot. -/
structure Regular (t : FileTree) : Prop extends WellFormed t where
  entryNames : ∀ place ∈ t.entries.map (·.1), ∀ name ∈ place, isEntryName name = true ∧ name ≠ "."

/-- There is something where a walk starts. -/
theorem isSome_of_walk {t : FileTree} {here place : Place} {names : List String}
    (h : t.walk here names = some place) : (t.get? here).isSome = true := by
  cases names with
  | nil =>
    rw [walk] at h
    split at h
    · assumption
    · exact absurd h (by simp)
  | cons name names =>
    rw [walk] at h
    split at h
    · exact absurd h (by simp)
    · rename_i hdir
      rw [Bool.not_eq_true, Bool.not_eq_false', isDirectory, Option.any_eq_true] at hdir
      obtain ⟨e, he, -⟩ := hdir
      rw [he, Option.isSome_some]

/-- A path is followed by double dots and by names of entries. -/
theorem mem_of_walk {t : FileTree} {here place : Place} {names : List String}
    (h : t.walk here names = some place) {name : String} (hname : name ∈ names) :
    name = ".." ∨ ∃ entry ∈ t.entries.map (·.1), name ∈ entry := by
  induction names generalizing here with
  | nil => exact absurd hname List.not_mem_nil
  | cons first names ih =>
    rw [walk] at h
    split at h
    · exact absurd h (by simp)
    · split at h
      · rcases List.mem_cons.1 hname with rfl | hname
        · exact .inl ‹_›
        · exact ih h hname
      · rcases List.mem_cons.1 hname with rfl | hname
        · rcases mem_places_of_get? (isSome_of_walk h) with hempty | hentry
          · exact absurd hempty (by simp)
          · exact .inr ⟨_, hentry, by simp⟩
        · exact ih h hname

/-- The names of a path that can be followed are those of entries, or double dots. -/
theorem Regular.name_of_walk {t : FileTree} (ht : t.Regular) {here place : Place}
    {names : List String} (h : t.walk here names = some place) {name : String}
    (hname : name ∈ names) :
    Path.isName name = true ∧ '/' ∉ name.toList ∧ Path.hasZero name = false := by
  rcases mem_of_walk h hname with rfl | ⟨entry, hentry, hmem⟩
  · decide
  · obtain ⟨hempty, -, hslash⟩ := ht.plain entry hentry name hmem
    obtain ⟨hentryName, hdot⟩ := ht.entryNames entry hentry name hmem
    refine ⟨by simp [Path.isName, hempty, hdot], hslash, ?_⟩
    rw [isEntryName, Bool.and_eq_true, Path.nameFault?] at hentryName
    by_contra hzero
    rw [if_pos (by simpa using hzero)] at hentryName
    exact absurd hentryName.2 (by simp)

end FileTree

end WorkflowDocs
