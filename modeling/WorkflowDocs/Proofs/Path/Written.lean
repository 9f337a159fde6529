import WorkflowDocs.Proofs.Path.Link

/-!
# Paths as they are written

An import is a path as it is written, double dots included, and its place is computed from that
path. The place of the source itself is computed from the path that it was found under. Both are the
same for an import that leads to its source without a detour: double dots that lead back into the
project, or out of a directory `external`, are lost in the place.

## Main definitions

* `Path.climbs`: how far names lead up above the directory that they start in
* `Path.LeadsTo`: names that lead to a place without leaving their start
* `Path.Direct`: imports that are written without a detour

## Main results

* `Path.collapse_append`: applying double dots to names behind others
* `Path.collapse_down_up`: leading into directories and up again leads nowhere
* `Path.spelled_place`: the place of a path as it is written
* `Path.Direct.place`: an import without a detour leads to the place of the source
-/

namespace WorkflowDocs.Path

/-! ## Leading up -/

/-- How many directories the names lead up above the directory that they start `depth` below. -/
def climbsFrom (depth : Nat) : List String → Nat
  | [] => 0
  | name :: names =>
    if name = ".." then (if depth = 0 then 1 else 0) + climbsFrom (depth - 1) names
    else climbsFrom (depth + 1) names

/-- How many directories the names lead up above the directory that they start in. -/
def climbs (names : List String) : Nat :=
  climbsFrom 0 names

/-- Names take away as many of the names before them as they lead up above their start. The
induction is over the names, with `kept` as deep as they have led so far. -/
theorem collapseOnto_append_left (kept base names : List String) :
    collapseOnto (kept ++ base) names =
      (base.drop (climbsFrom kept.length names)).reverse ++ collapseOnto kept names := by
  induction names generalizing kept base with
  | nil => rw [collapseOnto, collapseOnto, climbsFrom, List.drop_zero, List.reverse_append]
  | cons name names ih =>
    rw [collapseOnto, collapseOnto, climbsFrom]
    by_cases hname : name = ".."
    · rw [if_pos hname, if_pos hname, if_pos hname]
      cases kept with
      | nil =>
        have hbase := ih [] base.tail
        rw [List.nil_append] at hbase
        rw [List.nil_append, hbase, List.drop_tail, List.tail_nil, Nat.add_comm]
        rfl
      | cons last kept =>
        rw [List.cons_append, List.tail_cons, List.tail_cons, ih kept base, List.length_cons,
          if_neg (Nat.succ_ne_zero _), Nat.zero_add, Nat.add_sub_cancel]
    · rw [if_neg hname, if_neg hname, if_neg hname, ← List.cons_append, ih (name :: kept) base,
        List.length_cons]

theorem collapse_append (base names : List String) :
    collapse (base ++ names) =
      (collapse base).take ((collapse base).length - climbs names) ++ collapse names := by
  have hsplit := collapseOnto_append_left [] (collapse base).reverse names
  rw [List.nil_append, List.length_nil, List.drop_reverse, List.reverse_reverse] at hsplit
  rw [collapse, collapseOnto_append, ← collapse, hsplit]
  rfl

/-- Names that do not lead up are put behind the names before them. -/
theorem collapse_append_of_climbs {names : List String} (h : climbs names = 0)
    (base : List String) : collapse (base ++ names) = collapse base ++ collapse names := by
  rw [collapse_append, h, Nat.sub_zero, List.take_length]

theorem climbsFrom_of_not_mem {names : List String} (h : ".." ∉ names) (depth : Nat) :
    climbsFrom depth names = 0 := by
  induction names generalizing depth with
  | nil => rfl
  | cons name names ih =>
    rw [climbsFrom, if_neg (List.ne_of_not_mem_cons h).symm, ih (List.not_mem_of_not_mem_cons h)]

theorem climbsFrom_succ {depth : Nat} {names : List String} (h : climbsFrom depth names = 0) :
    climbsFrom (depth + 1) names = 0 := by
  induction names generalizing depth with
  | nil => rfl
  | cons name names ih =>
    rw [climbsFrom] at h ⊢
    by_cases hname : name = ".."
    · rw [if_pos hname] at h ⊢
      cases depth with
      | zero =>
        rw [if_pos rfl] at h
        omega
      | succ depth =>
        rw [if_neg (Nat.succ_ne_zero _), Nat.zero_add, Nat.add_sub_cancel] at h
        rw [if_neg (Nat.succ_ne_zero _), Nat.zero_add, Nat.add_sub_cancel]
        exact ih h
    · rw [if_neg hname] at h ⊢
      exact ih h

theorem climbsFrom_map {f : String → String} (hf : ∀ name, f name = ".." ↔ name = "..")
    (depth : Nat) (names : List String) :
    climbsFrom depth (names.map f) = climbsFrom depth names := by
  induction names generalizing depth with
  | nil => rfl
  | cons name names ih =>
    rw [List.map_cons, climbsFrom, climbsFrom]
    simp only [hf, ih]

theorem collapseOnto_replicate (kept names : List String) (n : Nat) :
    collapseOnto kept (List.replicate n ".." ++ names) = collapseOnto (kept.drop n) names := by
  induction n generalizing kept with
  | zero => rfl
  | succ n ih =>
    rw [List.replicate_succ, List.cons_append, collapseOnto, if_pos rfl, ih, List.drop_tail]

/-- Leading into directories and up again leads nowhere. -/
theorem collapse_down_up {dir : List String} (h : ".." ∉ dir) (base names : List String) :
    collapse (collapse base ++ dir ++ (List.replicate dir.length ".." ++ names)) =
      collapse (base ++ names) := by
  have hdown : collapse (collapse base ++ dir) = collapse base ++ dir := by
    rw [collapse_append_of_not_mem _ h, collapse_of_not_mem (not_mem_collapse base)]
  rw [collapse, collapseOnto_append, ← collapse, hdown, collapseOnto_replicate, List.reverse_append,
    ← List.length_reverse, List.drop_left, collapse, ← collapseOnto_append, collapse]

/-! ## Places of paths as they are written -/

/-- An absolute path has its root as the first part. -/
theorem exists_parts_of_isAbsolute {file : Path} (h : file.isAbsolute = true) :
    ∃ first, ofParts (first :: file.names) = file ∧ file.parts = first :: file.names ∧
      first ≠ externalName ∧ first ≠ ".." := by
  obtain ⟨root, names⟩ := file
  cases root with
  | relative => simp [isAbsolute] at h
  | slash => exact ⟨"/", rfl, rfl, by decide, by decide⟩
  | doubleSlash => exact ⟨"//", rfl, rfl, by decide, by decide⟩

/-- The last two parts of a path are names of it, unless there are fewer than two names. -/
theorem ofParts_lastTwo {file : Path} (habs : file.isAbsolute = true)
    (hslash : ∀ name ∈ file.names, '/' ∉ name.toList) :
    (∃ names, (∀ name ∈ names, name ∈ file.names) ∧
      ofParts (lastParts 2 file.parts) = ⟨.relative, names⟩) ∨
    (file.names.length < 2 ∧ ofParts (lastParts 2 file.parts) = file) := by
  obtain ⟨first, hfile, hparts, -⟩ := exists_parts_of_isAbsolute habs
  rw [hparts]
  rcases hnames : file.names with _ | ⟨name, _ | ⟨second, rest⟩⟩
  · exact .inr ⟨by simp, by rw [hnames] at hfile; exact hfile⟩
  · exact .inr ⟨by simp, by rw [hnames] at hfile; exact hfile⟩
  · have hlast : lastParts 2 (first :: name :: second :: rest) =
        (name :: second :: rest).drop rest.length := by
      simp [lastParts]
    refine .inl ⟨(name :: second :: rest).drop rest.length,
      fun part hpart => List.mem_of_mem_drop hpart, ?_⟩
    rw [hlast]
    exact ofParts_of_no_slash fun part hpart =>
      hslash part (hnames ▸ List.mem_of_mem_drop hpart)

/-- Outside the root a path is placed by some of its names, or keeps all of its parts. With one name
there is nothing that could take it away. -/
theorem outsideRoot_cases {file : Path} (cwd root : Path) (habs : file.isAbsolute = true)
    (hslash : ∀ name ∈ file.names, '/' ∉ name.toList) :
    (∃ names, (∀ name ∈ names, name ∈ file.names) ∧
      outsideRoot cwd file root = ⟨.relative, names⟩) ∨
    (file.names.length < 2 ∧ externalName ∉ file.names ∧ outsideRoot cwd file root = file) := by
  have hresolved : (resolve cwd file).parts = "/" :: collapse file.names := by
    rw [resolve, join_of_isAbsolute habs]
    rfl
  rw [outsideRoot, hresolved]
  dsimp only
  split
  · refine .inl ⟨(collapse file.names).dropWhile (· != externalName), fun name hname =>
      collapse_subset ((List.dropWhile_suffix _).subset hname), ?_⟩
    rw [List.dropWhile_cons_of_pos (by decide)]
    exact ofParts_of_no_slash fun name hname =>
      hslash name (collapse_subset ((List.dropWhile_suffix _).subset hname))
  · rename_i hexternal
    cases hshared : file.relativeTo?
        (ofParts (root.parts.filter fun part => file.parts.contains part)) with
    | some place =>
      obtain ⟨placeRoot, names⟩ := place
      obtain ⟨-, rfl, hnames⟩ := relativeTo?_eq_some_iff.1 hshared
      exact .inl ⟨names, fun name hname => hnames ▸ List.mem_append_right _ hname, rfl⟩
    | none =>
      rw [Option.getD_none]
      rcases ofParts_lastTwo habs hslash with hnames | ⟨hshort, hfile⟩
      · exact .inl hnames
      · refine .inr ⟨hshort, fun hmem => hexternal ?_, hfile⟩
        have hone : file.names.length = 1 := by
          have hpos := List.length_pos_of_mem hmem
          omega
        obtain ⟨name, hname⟩ := List.length_eq_one_iff.1 hone
        obtain rfl : externalName = name := by simpa [hname] using hmem
        rw [hname]
        decide

/-- A path with at most one name stays absolute in its normal form. A double dot that is the only
name takes the root away, and then the path is kept. -/
theorem normalize_short {file : Path} (habs : file.isAbsolute = true)
    (hshort : file.names.length < 2) (hexternal : externalName ∉ file.names) :
    normalize file = file := by
  obtain ⟨first, hfile, hparts, hfirst, hdots⟩ := exists_parts_of_isAbsolute habs
  have hnone : externalName ∉ first :: file.names :=
    List.not_mem_cons_of_ne_of_not_mem hfirst.symm hexternal
  rw [normalize, hparts, if_neg (by simpa using hnone)]
  by_cases hup : ".." ∈ file.names
  · have hone : file.names.length = 1 := by
      have hpos := List.length_pos_of_mem hup
      omega
    obtain ⟨name, hname⟩ := List.length_eq_one_iff.1 hone
    obtain rfl : ".." = name := by simpa [hname] using hup
    rw [hname, collapse, collapseOnto, if_neg hdots, collapseOnto, if_pos rfl]
    rfl
  · rw [collapse_of_not_mem (List.not_mem_cons_of_ne_of_not_mem hdots.symm hup), if_neg (by simp),
      hfile]

/-- A place is the normal form of some names of the path, or the path itself. -/
theorem relativeToRoot_cases {file : Path} (cwd root : Path) (habs : file.isAbsolute = true)
    (hslash : ∀ name ∈ file.names, '/' ∉ name.toList) :
    (∃ names, (∀ name ∈ names, name ∈ file.names) ∧
      relativeToRoot cwd file root = normalize ⟨.relative, names⟩) ∨
    (file.names.length < 2 ∧ relativeToRoot cwd file root = file) := by
  rw [relativeToRoot]
  cases hplace : file.relativeTo? root with
  | some place =>
    obtain ⟨placeRoot, names⟩ := place
    obtain ⟨-, rfl, hnames⟩ := relativeTo?_eq_some_iff.1 hplace
    exact .inl ⟨names, fun name hname => hnames ▸ List.mem_append_right _ hname, rfl⟩
  | none =>
    rw [Option.getD_none]
    rcases outsideRoot_cases cwd root habs hslash with
      ⟨names, hsub, houtside⟩ | ⟨hshort, hexternal, houtside⟩
    · exact .inl ⟨names, hsub, by rw [houtside]⟩
    · exact .inr ⟨hshort, by rw [houtside, normalize_short habs hshort hexternal]⟩

/-- A place that is relative is the normal form of some names of the path. -/
theorem exists_relative {cwd root file : Path} (habs : file.isAbsolute = true)
    (hslash : ∀ name ∈ file.names, '/' ∉ name.toList)
    (hrelative : (relativeToRoot cwd file root).root = .relative) :
    ∃ names, (∀ name ∈ names, name ∈ file.names) ∧
      relativeToRoot cwd file root = normalize ⟨.relative, names⟩ := by
  refine (relativeToRoot_cases cwd root habs hslash).resolve_right ?_
  rintro ⟨-, hfile⟩
  rw [hfile] at hrelative
  simp [isAbsolute, hrelative] at habs

/-- A place that is relative can be spelled and is in normal form. -/
theorem spelled_place {cwd root file : Path} (habs : file.isAbsolute = true)
    (hspelled : Spelled file.names) {names : List String}
    (hplace : relativeToRoot cwd file root = ⟨.relative, names⟩) :
    Spelled names ∧ normalNames names = names := by
  have hslash : ∀ name ∈ file.names, '/' ∉ name.toList := fun name hname => (hspelled name hname).2
  obtain ⟨rest, hsub, hnormal⟩ := exists_relative habs hslash (by rw [hplace])
  have hrest : ∀ name ∈ rest, '/' ∉ name.toList := fun name hname => hslash name (hsub name hname)
  have hnames : names = normalNames rest := by
    rw [hplace, normalize_relative hrest] at hnormal
    exact (Path.mk.inj hnormal).2
  have hspelled' : Spelled names := fun name hname =>
    hspelled name (hsub name (normalNames_subset (hnames ▸ hname)))
  refine ⟨hspelled', ?_⟩
  have hfixed := normalize_normalize ⟨.relative, rest⟩
  rw [normalize_relative hrest, ← hnames,
    normalize_relative fun name hname => (hspelled' name hname).2] at hfixed
  exact (Path.mk.inj hfixed).2

/-! ## Imports without a detour -/

/-- The import written as `written` leads to the source `file` without a detour. -/
inductive Direct (root written file : Path) : Prop
  /-- The import is written as the path that the source was found under. -/
  | same (h : written = file)
  /-- The import does not leave the project. -/
  | below {rest names : List String} (hwritten : written = ⟨root.root, root.names ++ rest⟩)
      (hfile : file = ⟨root.root, root.names ++ names⟩) (hstays : climbs rest = 0)
      (hexternal : externalName ∉ rest)
  /-- The import leaves the project for a path without the names of the directories that it
  leaves. -/
  | beside {rest : List String} (hroot : root.root = .slash) (hdots : ".." ∉ root.names)
      (hwritten : written = ⟨root.root, root.names ++ rest⟩) (hexternal : externalName ∉ rest)
      (hexternal' : externalName ∉ file.names)
      (hleft : ∀ name ∈ root.names.drop (root.names.length - climbs rest), name ∉ file.names)
  /-- The import does not leave the directory `external` that it leads into. -/
  | external {before after : List String}
      (hwritten : written = ⟨root.root, root.names ++ (before ++ externalName :: after)⟩)
      (hroot : externalName ∉ root.names) (hfirst : externalName ∉ before)
      (hstays : climbs after = 0)

theorem resolve_of_isAbsolute {p : Path} (h : p.isAbsolute = true) (cwd : Path) :
    resolve cwd p = ⟨.slash, collapse p.names⟩ := by
  rw [resolve, join_of_isAbsolute h]

theorem resolve_below {root : Path} (h : root.isAbsolute = true) (cwd : Path)
    (rest : List String) :
    resolve cwd ⟨root.root, root.names ++ rest⟩ = ⟨.slash, collapse (root.names ++ rest)⟩ :=
  @resolve_of_isAbsolute ⟨root.root, root.names ++ rest⟩ h cwd

/-- A source below a directory `external` is placed from the first of them, if there is none above
the root. Both sides go on in the same way from their first directory `external`. -/
theorem relativeToRoot_of_external {cwd root file : Path} {before after : List String}
    (habs : root.isAbsolute = true) (hfile : IsSourceOf root file)
    (hroot : externalName ∉ root.names)
    (hresolved : (resolve cwd file).names = before ++ externalName :: after)
    (hfirst : externalName ∉ before) :
    relativeToRoot cwd file root = ⟨.relative, externalName :: after⟩ := by
  refine relativeToRoot_eq_of_placed hfile ?_
  cases hplace : file.relativeTo? root with
  | none =>
    obtain ⟨hslash, hplain⟩ := hfile.of_outside hplace
    rw [resolve_of_not_mem hslash hplain.not_mem] at hresolved
    exact .outsideExternal hplace hresolved hfirst
  | some place =>
    obtain ⟨placeRoot, names⟩ := place
    have hplain : Plain names := hfile.plain_of_inside hplace
    obtain ⟨hsame, rfl, hnames⟩ := relativeTo?_eq_some_iff.1 hplace
    have habs' : file.isAbsolute = true := by rw [isAbsolute, hsame]; exact habs
    have hwhole : collapse root.names ++ names = before ++ externalName :: after := by
      rw [← hresolved, resolve_of_isAbsolute habs', hnames,
        collapse_append_of_not_mem _ hplain.not_mem]
    have hroot' : externalName ∉ collapse root.names := fun hmem => hroot (collapse_subset hmem)
    have hmem : externalName ∈ names := by
      have hmem : externalName ∈ collapse root.names ++ names := by simp [hwhole]
      exact (List.mem_append.1 hmem).resolve_left hroot'
    obtain ⟨before', after', rfl, hfirst'⟩ := List.eq_append_cons_of_mem hmem
    have hafter : externalName :: after = externalName :: after' := by
      rw [← dropWhile_external hfirst, ← hwhole, ← List.append_assoc, dropWhile_external]
      exact fun hmem => (List.mem_append.1 hmem).elim hroot' hfirst'
    rw [hafter]
    exact .insideExternal hplace hfirst'

theorem relativeToRoot_below {root : Path} {rest : List String}
    (hslash : ∀ name ∈ rest, '/' ∉ name.toList) (cwd : Path) :
    relativeToRoot cwd ⟨root.root, root.names ++ rest⟩ root = ⟨.relative, normalNames rest⟩ := by
  rw [relativeToRoot, relativeTo?_append, Option.getD_some, normalize_relative hslash]

theorem normalNames_of_collapse {names : List String} (hexternal : externalName ∉ names)
    (hne : collapse names ≠ []) : normalNames names = collapse names := by
  rw [normalNames, if_neg (by simpa using hexternal), if_neg (by simpa using hne)]

/-- The names lead to `place` without leaving the directory that they start in. -/
def LeadsTo (names place : List String) : Prop :=
  climbs names = 0 ∧ collapse names = place

theorem leadsTo_of_not_mem {names : List String} (h : ".." ∉ names) : LeadsTo names names :=
  ⟨climbsFrom_of_not_mem h 0, collapse_of_not_mem h⟩

/-- An import of a source that does not leave the project. Behind the resolved root, both paths have
the names that are left of them. -/
theorem place_below {cwd root : Path} {rest names place : List String}
    (habs : root.isAbsolute = true) (hslash : ∀ name ∈ rest, '/' ∉ name.toList)
    (hfile : IsSourceOf root ⟨root.root, root.names ++ names⟩) (hstays : climbs rest = 0)
    (hexternal : externalName ∉ rest)
    (htarget : resolve cwd ⟨root.root, root.names ++ rest⟩ =
      resolve cwd ⟨root.root, root.names ++ names⟩)
    (hplace : relativeToRoot cwd ⟨root.root, root.names ++ names⟩ root = ⟨.relative, place⟩)
    (hne : place ≠ []) :
    relativeToRoot cwd ⟨root.root, root.names ++ rest⟩ root = ⟨.relative, place⟩ := by
  have hinside := relativeTo?_append root.root root.names names
  have hplain : Plain names := hfile.plain_of_inside hinside
  have hnames : collapse rest = names := by
    rw [resolve_below habs, resolve_below habs, collapse_append_of_climbs hstays,
      collapse_append_of_not_mem _ hplain.not_mem] at htarget
    exact List.append_cancel_left (Path.mk.inj htarget).2
  have hexternal' : externalName ∉ names := fun hmem =>
    hexternal (collapse_subset (hnames ▸ hmem))
  rw [relativeToRoot_eq_of_placed hfile (.inside hinside hexternal')] at hplace
  obtain rfl : names = place := (Path.mk.inj hplace).2
  rw [relativeToRoot_below hslash, normalNames_of_collapse hexternal (hnames ▸ hne), hnames]

/-- The directory that a source outside the root shares with it, if the source has none of the names
of the directories that are left. -/
theorem sharedDir_of_left {dir left names : List String}
    (hslash : ∀ name ∈ left, '/' ∉ name.toList) (hleft : ∀ name ∈ left, name ∉ dir ++ names) :
    sharedDir ⟨.slash, dir ++ left⟩ ⟨.slash, dir ++ names⟩ = ⟨.slash, dir⟩ := by
  have hdir : dir.filter (fun part => ("/" :: (dir ++ names)).contains part) = dir :=
    List.filter_eq_self.2 fun name hname => by simp [hname]
  have hgone : left.filter (fun part => ("/" :: (dir ++ names)).contains part) = [] := by
    refine List.filter_eq_nil_iff.2 fun name hname => ?_
    have hroot : name ≠ "/" := by
      rintro rfl
      exact hslash _ hname (by decide)
    simpa [hroot] using hleft name hname
  have hparts : (Path.mk .slash (dir ++ left)).parts.filter
      (fun part => (Path.mk .slash (dir ++ names)).parts.contains part) = "/" :: dir := by
    rw [parts_of_slash rfl, parts_of_slash rfl, List.filter_cons_of_pos (by simp),
      List.filter_append, hdir, hgone, List.append_nil]
  rw [sharedDir, hparts]
  rfl

/-- A source with none of the names of the directories that are left is placed below those that are
kept. Inside the root no directory was left. -/
theorem placed_of_left {kept left names : List String} (hslash : ∀ name ∈ left, '/' ∉ name.toList)
    (hleft : ∀ name ∈ left, name ∉ kept ++ names) (hexternal : externalName ∉ kept ++ names) :
    Placed ⟨.slash, kept ++ left⟩ ⟨.slash, kept ++ names⟩ ⟨.relative, names⟩ := by
  cases hinside : (Path.mk .slash (kept ++ names)).relativeTo? ⟨.slash, kept ++ left⟩ with
  | some inner =>
    obtain ⟨innerRoot, rest⟩ := inner
    obtain ⟨-, rfl, hnames⟩ := relativeTo?_eq_some_iff.1 hinside
    have hrest : names = left ++ rest :=
      List.append_cancel_left (hnames.trans (List.append_assoc _ _ _))
    obtain rfl : left = [] := List.eq_nil_iff_forall_not_mem.2 fun name hname =>
      hleft name hname (by simp [hrest, hname])
    obtain rfl : names = rest := hrest
    exact .inside hinside fun hmem => hexternal (List.mem_append_right _ hmem)
  | none =>
    refine .shared hinside hexternal ?_
    rw [sharedDir_of_left hslash hleft, relativeTo?_append]

/-- A source of a project with a resolved root is found under its resolved path. -/
theorem IsSourceOf.resolve_eq {root file : Path} (h : IsSourceOf root file)
    (hroot : root.root = .slash) (hdots : ".." ∉ root.names) (cwd : Path) :
    resolve cwd file = file := by
  cases h with
  | @below names h =>
    have hwhole : ".." ∉ root.names ++ names := fun hmem =>
      (List.mem_append.1 hmem).elim hdots h.not_mem
    exact @resolve_of_not_mem ⟨root.root, root.names ++ names⟩ hroot hwhole cwd
  | resolved h => exact resolve_of_not_mem rfl h.not_mem cwd

/-- An import of a source outside the root that has none of the names of the directories that are
left. The import keeps the first of the root's directories and goes on from there. -/
theorem place_beside {cwd root file : Path} {rest place : List String} (hroot : root.root = .slash)
    (hdots : ".." ∉ root.names) (hslash : ∀ name ∈ root.names ++ rest, '/' ∉ name.toList)
    (hfile : IsSourceOf root file) (hexternal : externalName ∉ rest)
    (hexternal' : externalName ∉ file.names)
    (hleft : ∀ name ∈ root.names.drop (root.names.length - climbs rest), name ∉ file.names)
    (htarget : resolve cwd ⟨root.root, root.names ++ rest⟩ = resolve cwd file)
    (hplace : relativeToRoot cwd file root = ⟨.relative, place⟩) (hne : place ≠ []) :
    relativeToRoot cwd ⟨root.root, root.names ++ rest⟩ root = ⟨.relative, place⟩ := by
  have habs : root.isAbsolute = true := by simp [isAbsolute, hroot]
  have hnames : file = ⟨.slash,
      root.names.take (root.names.length - climbs rest) ++ collapse rest⟩ := by
    rw [← hfile.resolve_eq hroot hdots cwd, ← htarget, resolve_below habs, collapse_append,
      collapse_of_not_mem hdots]
  have hsplit : root = ⟨.slash, root.names.take (root.names.length - climbs rest) ++
      root.names.drop (root.names.length - climbs rest)⟩ := by
    rw [List.take_append_drop, ← hroot]
  have hshown : Placed root file ⟨.relative, collapse rest⟩ := by
    have hslash' : ∀ name ∈ root.names.drop (root.names.length - climbs rest),
        '/' ∉ name.toList := fun name hname =>
      hslash name (List.mem_append_left _ (List.mem_of_mem_drop hname))
    rw [hnames] at hleft hexternal' ⊢
    have hplaced := placed_of_left hslash' hleft hexternal'
    rwa [← hsplit] at hplaced
  rw [relativeToRoot_eq_of_placed hfile hshown] at hplace
  obtain rfl : collapse rest = place := (Path.mk.inj hplace).2
  rw [relativeToRoot_below fun name hname => hslash name (List.mem_append_right _ hname),
    normalNames_of_collapse hexternal hne]

/-- An import into a directory `external` that it does not leave. -/
theorem place_external {cwd root file : Path} {before after place : List String}
    (habs : root.isAbsolute = true)
    (hslash : ∀ name ∈ before ++ externalName :: after, '/' ∉ name.toList)
    (hfile : IsSourceOf root file) (hroot : externalName ∉ root.names)
    (hfirst : externalName ∉ before) (hstays : climbs after = 0)
    (htarget : resolve cwd ⟨root.root, root.names ++ (before ++ externalName :: after)⟩ =
      resolve cwd file)
    (hplace : relativeToRoot cwd file root = ⟨.relative, place⟩) :
    relativeToRoot cwd ⟨root.root, root.names ++ (before ++ externalName :: after)⟩ root =
        ⟨.relative, externalName :: after⟩ ∧
      LeadsTo (externalName :: after) place := by
  have hclimbs : climbs (externalName :: after) = 0 := by
    rw [climbs, climbsFrom, if_neg (by decide)]
    exact climbsFrom_succ hstays
  have hcollapse : collapse (externalName :: after) = externalName :: collapse after :=
    collapse_append_of_climbs hstays [externalName]
  have hresolved : (resolve cwd file).names =
      collapse (root.names ++ before) ++ externalName :: collapse after := by
    rw [← htarget, resolve_below habs, ← List.append_assoc, collapse_append_of_climbs hclimbs,
      hcollapse]
  have hfirst' : externalName ∉ collapse (root.names ++ before) := fun hmem =>
    (List.mem_append.1 (collapse_subset hmem)).elim hroot hfirst
  rw [relativeToRoot_of_external habs hfile hroot hresolved hfirst'] at hplace
  obtain rfl : externalName :: collapse after = place := (Path.mk.inj hplace).2
  refine ⟨?_, hclimbs, hcollapse⟩
  rw [relativeToRoot_below hslash, normalNames, if_pos (by simp), dropWhile_external hfirst]

/-- An import without a detour leads to the place of the source, or to it through a directory
`external`. -/
theorem Direct.place {cwd root written file : Path} {place : List String}
    (h : Direct root written file) (habs : root.isAbsolute = true)
    (hslash : ∀ name ∈ written.names, '/' ∉ name.toList) (hfile : IsSourceOf root file)
    (htarget : resolve cwd written = resolve cwd file)
    (hplace : relativeToRoot cwd file root = ⟨.relative, place⟩) (hne : place ≠ []) :
    ∃ names, relativeToRoot cwd written root = ⟨.relative, names⟩ ∧ LeadsTo names place := by
  have hplain : Plain place := by
    have hshown : Placed root file (relativeToRoot cwd file root) := placed_relativeToRoot hfile
    rw [hplace] at hshown
    exact hshown.plain hfile
  cases h with
  | same h => exact ⟨place, h ▸ hplace, leadsTo_of_not_mem hplain.not_mem⟩
  | below hwritten hfile' hstays hexternal =>
    subst hwritten hfile'
    have hrest := fun name hname => hslash name (List.mem_append_right _ hname)
    exact ⟨place, place_below habs hrest hfile hstays hexternal htarget hplace hne,
      leadsTo_of_not_mem hplain.not_mem⟩
  | beside hroot hdots hwritten hexternal hexternal' hleft =>
    subst hwritten
    exact ⟨place,
      place_beside hroot hdots hslash hfile hexternal hexternal' hleft htarget hplace hne,
      leadsTo_of_not_mem hplain.not_mem⟩
  | external hwritten hroot hfirst hstays =>
    subst hwritten
    have hrest := fun name hname => hslash name (List.mem_append_right _ hname)
    exact ⟨_, place_external habs hrest hfile hroot hfirst hstays htarget hplace⟩

end WorkflowDocs.Path
