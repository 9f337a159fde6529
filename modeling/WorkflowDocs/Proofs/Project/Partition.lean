import WorkflowDocs.Proofs.FileTree.Effect
import WorkflowDocs.Proofs.Lists
import WorkflowDocs.Proofs.Project.Sources

/-!
# Internal and external sources

The sources of a project are looked for twice: those that belong to it by leaving out every place
whose *text* contains `external/`, and third-party sources by listing the *directory* `external` of
the root. The two do not complement each other. A text contains `external/` as soon as the name of
some directory ends in `external`, at any depth, and a source in such a directory is in neither list
unless the first directory on its way is `external` itself. These sources are overlooked, and no
others: without them, the two lists divide all sources between them.

## Main definitions

* `Project.isOverlooked`: the sources that are in neither list

## Main results

* `Path.eq_of_sorted`: sorted paths with one root are determined by their members
* `Text.contains_joinWith_iff`: when a name and a slash occur in a joined text
* `Project.mem_sourcesBelow_child`: the sources in a directory of a directory
* `Project.sources_divide_iff`: what the two lists have, and when these are all sources
* `Project.overlooked_source`: a source that is overlooked
-/

namespace WorkflowDocs

/-! ## Sorted paths -/

namespace Path

theorem partsLe_cons_iff {a b : String} {as bs : List String} :
    partsLe (a :: as) (b :: bs) = true ↔ a < b ∨ a = b ∧ partsLe as bs = true := by
  rw [partsLe]
  by_cases hab : a = b
  · rw [if_pos hab, hab]
    exact ⟨fun h => .inr ⟨rfl, h⟩, fun h => (h.resolve_left (String.lt_irrefl b)).2⟩
  · rw [if_neg hab, decide_eq_true_iff]
    exact ⟨.inl, fun h => h.resolve_right fun heq => hab heq.1⟩

theorem partsLe_trans {as bs cs : List String} (hab : partsLe as bs = true)
    (hbc : partsLe bs cs = true) : partsLe as cs = true := by
  induction as generalizing bs cs with
  | nil => rfl
  | cons a as ih =>
    cases bs with
    | nil => exact absurd hab (by simp [partsLe])
    | cons b bs =>
      cases cs with
      | nil => exact absurd hbc (by simp [partsLe])
      | cons c cs =>
        rw [partsLe_cons_iff] at hab hbc ⊢
        rcases hab with hab | ⟨rfl, hab⟩
        · rcases hbc with hbc | ⟨rfl, -⟩
          · exact .inl (String.lt_trans hab hbc)
          · exact .inl hab
        · exact hbc.imp_right fun hbc => ⟨hbc.1, ih hab hbc.2⟩

theorem partsLe_total (as bs : List String) : partsLe as bs = true ∨ partsLe bs as = true := by
  induction as generalizing bs with
  | nil => exact .inl rfl
  | cons a as ih =>
    cases bs with
    | nil => exact .inr rfl
    | cons b bs =>
      rw [partsLe_cons_iff, partsLe_cons_iff]
      by_cases hlt : a < b
      · exact .inl (.inl hlt)
      · by_cases hgt : b < a
        · exact .inr (.inl hgt)
        · have hab : a = b := String.le_antisymm (String.not_lt.1 hgt) (String.not_lt.1 hlt)
          exact (ih bs).imp (fun h => .inr ⟨hab, h⟩) fun h => .inr ⟨hab.symm, h⟩

theorem partsLe_antisymm {as bs : List String} (hab : partsLe as bs = true)
    (hba : partsLe bs as = true) : as = bs := by
  induction as generalizing bs with
  | nil =>
    cases bs with
    | nil => rfl
    | cons b bs => exact absurd hba (by simp [partsLe])
  | cons a as ih =>
    cases bs with
    | nil => exact absurd hab (by simp [partsLe])
    | cons b bs =>
      rw [partsLe_cons_iff] at hab hba
      rcases hab with hlt | ⟨rfl, hab⟩
      · rcases hba with hgt | ⟨rfl, -⟩
        · exact absurd hgt (String.lt_asymm hlt)
        · exact absurd hlt (String.lt_irrefl _)
      · rw [ih hab (hba.resolve_left (String.lt_irrefl a)).2]

theorem pairwise_sort (ps : List Path) : (sort ps).Pairwise fun p q => le p q = true := by
  have htrans (p q r : Path) (hpq : le p q = true) (hqr : le q r = true) : le p r = true :=
    partsLe_trans hpq hqr
  refine List.pairwise_mergeSort htrans (fun p q => ?_) ps
  rw [Bool.or_eq_true]
  exact partsLe_total p.parts q.parts

/-- Sorted paths with one root are determined by their members. Paths are compared by their parts,
which do not tell a root from a name like it. -/
theorem eq_of_sorted {ps qs : List Path} {root : Root} (hroot : ∀ p ∈ ps, p.root = root)
    (hps : ps.Pairwise fun p q => le p q = true) (hqs : qs.Pairwise fun p q => le p q = true)
    (hperm : ps.Perm qs) : ps = qs := by
  refine List.Perm.eq_of_pairwise (fun p q hp hq hpq hqp => ?_) hps hqs hperm
  have hroots : p.root = q.root := (hroot p hp).trans (hroot q (hperm.mem_iff.2 hq)).symm
  have hparts : p.parts = q.parts := partsLe_antisymm hpq hqp
  rw [parts, parts, hroots] at hparts
  have hnames : p.names = q.names := by
    split at hparts
    · exact hparts
    · exact (List.cons.inj hparts).2
  exact Path.mk.injEq .. ▸ ⟨hroots, hnames⟩

end Path

/-! ## Searching a joined text -/

namespace Text

theorem endsWith_iff {s piece : String} : endsWith s piece = true ↔ piece.toList <:+ s.toList := by
  rw [endsWith, List.isPrefixOf_iff_prefix, List.reverse_prefix]

/-- A piece and a slash occur in names joined by slashes exactly if one of the names but the last
ends with the piece. A single name has no slash. -/
theorem contains_joinWith_iff {piece : String} {names : List String}
    (hpiece : '/' ∉ piece.toList) (hnames : ∀ name ∈ names, '/' ∉ name.toList) :
    contains (joinWith "/" names) (piece ++ "/") = true ↔
      ∃ name ∈ names.dropLast, endsWith name piece = true := by
  have hslash : "/".toList = ['/'] := rfl
  rw [contains, charsContain_iff, String.toList_append, hslash]
  fun_induction joinWith "/" names with
  | case1 => simp
  | case2 name =>
    refine ⟨fun h => ?_, fun h => absurd h (by simp)⟩
    exact absurd (h.subset (by simp)) (hnames name List.mem_cons_self)
  | case3 name rest hrest ih =>
    obtain ⟨hname, hothers⟩ := List.forall_mem_cons.1 hnames
    rw [String.toList_append, String.toList_append, hslash, List.append_assoc,
      List.singleton_append, infix_append_cons_iff hpiece hname, ← endsWith_iff,
      List.dropLast_cons_of_ne_nil fun hnil => hrest hnil, List.exists_mem_cons_iff]
    exact or_congr_right (ih hothers)

end Text

/-! ## Directories of directories -/

namespace FileTree

variable {t : FileTree} {cwd p : Path} {q : Place} {name : String}

theorem isSome_get?_of_mem (h : q ∈ t.entries.map (·.1)) : (t.get? q).isSome = true := by
  rw [get?]
  split
  · rfl
  · obtain ⟨x, hx, rfl⟩ := List.mem_map.1 h
    exact List.lookup_isSome_iff.2 ⟨x, hx, by simp⟩

/-- Names and a further one lead to what is under that name in the directory they lead to. -/
theorem walk_concat (hname : name ≠ "..") {here : Place} {names : List String} :
    t.walk here (names ++ [name]) = some q ↔
      ∃ place, t.walk here names = some place ∧ t.isDirectory place = true ∧
        q = place ++ [name] ∧ (t.get? q).isSome = true := by
  induction names generalizing here with
  | nil =>
    by_cases hdir : t.isDirectory here = true
    · rw [List.nil_append, walk_cons hdir, walk_nil hdir, enter, if_neg hname, walk,
        Option.ite_none_right_eq_some]
      constructor
      · rintro ⟨hsome, ⟨⟩⟩
        exact ⟨here, rfl, hdir, rfl, hsome⟩
      · rintro ⟨_, ⟨⟩, -, rfl, hsome⟩
        exact ⟨hsome, rfl⟩
    · constructor
      · intro h
        exact absurd (isDirectory_of_walk_cons h) hdir
      · rintro ⟨place, hplace, hdirectory, -⟩
        obtain ⟨rfl, -⟩ := walk_eq_some hplace
        rw [Path.collapseOnto, List.reverse_reverse] at hdirectory
        exact absurd hdirectory hdir
  | cons first names ih =>
    by_cases hdir : t.isDirectory here = true
    · rw [List.cons_append, walk_cons hdir, walk_cons hdir]
      exact ih
    · constructor
      · intro h
        exact absurd (isDirectory_of_walk_cons h) hdir
      · rintro ⟨place, hplace, -⟩
        exact absurd (isDirectory_of_walk_cons hplace) hdir

theorem locate?_child_eq_some_iff (hname : name ≠ "..") :
    t.locate? cwd (p.child name) = some q ↔
      ∃ place, t.locate? cwd p = some place ∧ t.isDirectory place = true ∧
        q = place ++ [name] ∧ (t.get? q).isSome = true := by
  rw [locate?, Path.join_child]
  exact walk_concat hname

end FileTree

namespace Project

variable {p : Project} {t : FileTree} {cwd dir file : Path}

/-- The sources in a directory of a directory are those that are found below it on a way that begins
with its name. -/
theorem mem_sourcesBelow_child (hdirs : t.InDirectories) {name : String} (hname : name ≠ "..") :
    file ∈ sourcesBelow t cwd (dir.child name) ↔
      ∃ names, names ≠ [] ∧ file = ⟨dir.root, dir.names ++ name :: names⟩ ∧
        file ∈ sourcesBelow t cwd dir := by
  rw [mem_sourcesBelow, mem_sourcesBelow]
  constructor
  · rintro ⟨place', names, hlocate, hdir', hbelow, hsuffix, rfl⟩
    obtain ⟨place, hplace, hdir, rfl, -⟩ := (FileTree.locate?_child_eq_some_iff hname).1 hlocate
    obtain ⟨hne, hmem⟩ := FileTree.mem_below.1 hbelow
    rw [List.append_assoc, List.singleton_append] at hmem
    refine ⟨names, hne, by simp [Path.child], place, name :: names, hplace, hdir,
      FileTree.mem_below.2 ⟨List.cons_ne_nil _ _, hmem⟩, ?_, by simp [Path.child]⟩
    rwa [List.getLast?_cons_of_ne_nil hne]
  · rintro ⟨names, hne, rfl, place, names', hplace, hdir, hbelow, hsuffix, heq⟩
    obtain rfl : name :: names = names' := List.append_cancel_left (Path.mk.inj heq).2
    have hmem := (FileTree.mem_below.1 hbelow).2
    rw [← List.singleton_append, ← List.append_assoc] at hmem
    have hdir' := hdirs.isDirectory hne (FileTree.isSome_get?_of_mem hmem)
    have hlocate : t.locate? cwd (dir.child name) = some (place ++ [name]) := by
      refine (FileTree.locate?_child_eq_some_iff hname).2 ⟨place, hplace, hdir, rfl, ?_⟩
      rw [FileTree.get?_of_isDirectory hdir']
      rfl
    refine ⟨_, names, hlocate, hdir', FileTree.mem_below.2 ⟨hne, hmem⟩, ?_, by simp [Path.child]⟩
    rwa [List.getLast?_cons_of_ne_nil hne] at hsuffix

/-! ## The two lists -/

/-- Whether the way to a file begins with the directory `external` of the root. -/
def startsExternal (p : Project) (file : Path) : Bool :=
  (p.placeOf file).names.head? == some Path.externalName

/-- Whether the way to a file passes a directory whose name ends in `external`. -/
def passesExternal (p : Project) (file : Path) : Bool :=
  (p.placeOf file).names.dropLast.any fun name => Text.endsWith name Path.externalName

/-- Whether a source is in neither list: a directory on its way has a name that ends in `external`,
and the way does not begin with the directory `external`. -/
def isOverlooked (p : Project) (file : Path) : Bool :=
  p.passesExternal file && !p.startsExternal file

theorem mem_allFiles :
    file ∈ p.allFiles t cwd ↔
      file ∈ sourcesBelow t cwd p.root ∧ p.isExcluded p.exclude file = false := by
  rw [allFiles, (Path.sort_perm _).mem_iff, List.mem_filter, Bool.not_eq_true']

theorem exists_plain_of_mem (htree : t.WellFormed) (h : file ∈ sourcesBelow t cwd dir) :
    ∃ names, file = ⟨dir.root, dir.names ++ names⟩ ∧ names ≠ [] ∧ Path.Plain names ∧
      Text.endsWith (names.getLast?.getD "") sourceSuffix = true := by
  obtain ⟨place, names, -, hbelow, hsuffix, rfl⟩ := exists_of_mem_sourcesBelow h
  obtain ⟨hne, hplace⟩ := FileTree.mem_below.1 hbelow
  have hplain := htree.plain _ hplace
  exact ⟨names, rfl, hne, fun name hname => hplain name (List.mem_append_right _ hname), hsuffix⟩

/-- The further pattern leaves out what passes a directory with a name that ends in `external`. -/
theorem isExcluded_external {names : List String} (hplain : Path.Plain names) (hne : names ≠ []) :
    p.isExcluded (p.exclude ++ [Path.externalName ++ "/"])
        ⟨p.root.root, p.root.names ++ names⟩ =
      (p.isExcluded p.exclude ⟨p.root.root, p.root.names ++ names⟩ ||
        p.passesExternal ⟨p.root.root, p.root.names ++ names⟩) := by
  have htext : (Path.mk .relative names).text = Text.joinWith "/" names := by
    simp [Path.text, hne, Root.text]
  have hcontains : Text.contains (Text.joinWith "/" names) (Path.externalName ++ "/") =
      names.dropLast.any fun name => Text.endsWith name Path.externalName := by
    rw [Bool.eq_iff_iff, List.any_eq_true]
    exact Text.contains_joinWith_iff (by decide) fun name hname => (hplain name hname).2.2
  rw [isExcluded, isExcluded, Path.relativeTo?_append, passesExternal, placeOf_append]
  simp only [List.any_append, List.any_cons, List.any_nil, Bool.or_false, htext, hcontains]

theorem mem_internalFiles_iff (htree : t.WellFormed) :
    file ∈ p.internalFiles t cwd ↔
      file ∈ p.allFiles t cwd ∧ p.passesExternal file = false := by
  rw [mem_internalFiles, mem_allFiles, and_assoc]
  refine and_congr_right fun hfile => ?_
  obtain ⟨names, rfl, hne, hplain, -⟩ := exists_plain_of_mem htree hfile
  rw [isExcluded_external hplain hne, Bool.or_eq_false_iff]

theorem mem_externalFiles_iff (hdirs : t.InDirectories) :
    file ∈ p.externalFiles t cwd ↔
      file ∈ p.allFiles t cwd ∧ p.startsExternal file = true := by
  rw [externalFiles, (Path.sort_perm _).mem_iff, List.mem_filter, Bool.not_eq_true', mem_allFiles,
    mem_sourcesBelow_child hdirs (by decide), startsExternal]
  constructor
  · rintro ⟨⟨names, -, rfl, hfile⟩, hexcluded⟩
    refine ⟨⟨hfile, hexcluded⟩, ?_⟩
    rw [placeOf_append]
    simp
  · rintro ⟨⟨hfile, hexcluded⟩, hstarts⟩
    obtain ⟨place, names, -, -, hsuffix, rfl⟩ := exists_of_mem_sourcesBelow hfile
    rw [placeOf_append, beq_iff_eq, List.head?_eq_some_iff] at hstarts
    obtain ⟨rest, rfl⟩ := hstarts
    refine ⟨⟨rest, ?_, rfl, hfile⟩, hexcluded⟩
    rintro rfl
    exact externalName_ne_of_endsWith hsuffix rfl

theorem passesExternal_of_startsExternal (htree : t.WellFormed) (hfile : file ∈ p.allFiles t cwd)
    (h : p.startsExternal file = true) : p.passesExternal file = true := by
  obtain ⟨names, rfl, -, -, hsuffix⟩ := exists_plain_of_mem htree (mem_allFiles.1 hfile).1
  rw [startsExternal, placeOf_append, beq_iff_eq, List.head?_eq_some_iff] at h
  obtain ⟨rest, rfl⟩ := h
  have hrest : rest ≠ [] := by
    rintro rfl
    exact externalName_ne_of_endsWith hsuffix rfl
  rw [passesExternal, placeOf_append, List.dropLast_cons_of_ne_nil hrest, List.any_cons,
    show Text.endsWith Path.externalName Path.externalName = true from by decide, Bool.true_or]

theorem nodup_allFiles (htree : t.WellFormed) (p : Project) (cwd : Path) :
    (p.allFiles t cwd).Nodup :=
  (Path.sort_perm _).nodup_iff.2 ((nodup_sourcesBelow htree cwd p.root).filter _)

theorem nodup_externalFiles (htree : t.WellFormed) (p : Project) (cwd : Path) :
    (p.externalFiles t cwd).Nodup :=
  (Path.sort_perm _).nodup_iff.2 ((nodup_sourcesBelow htree cwd _).filter _)

/-- No source is in both lists: a way that begins with `external` passes it, because a source lies
in it. -/
theorem nodup_internal_append_external (htree : t.WellFormed) (hdirs : t.InDirectories)
    (p : Project) (cwd : Path) : (p.internalFiles t cwd ++ p.externalFiles t cwd).Nodup := by
  refine (nodup_internalFiles htree p cwd).append (nodup_externalFiles htree p cwd) ?_
  intro file hinternal hexternal
  obtain ⟨hfile, hpasses⟩ := (mem_internalFiles_iff htree).1 hinternal
  have hstarts := ((mem_externalFiles_iff hdirs).1 hexternal).2
  rw [passesExternal_of_startsExternal htree hfile hstarts] at hpasses
  exact absurd hpasses (by decide)

theorem mem_internal_append_external (htree : t.WellFormed) (hdirs : t.InDirectories) :
    file ∈ p.internalFiles t cwd ++ p.externalFiles t cwd ↔
      file ∈ p.allFiles t cwd ∧ p.isOverlooked file = false := by
  rw [List.mem_append, mem_internalFiles_iff htree, mem_externalFiles_iff hdirs, ← and_or_left,
    isOverlooked, Bool.and_eq_false_iff, Bool.not_eq_false']

/-- The two lists have every source once that is not overlooked, and no other. Sorted, they are all
sources of the project exactly if none of these is overlooked. Both sides are sorted and have the
same members, none of them twice. -/
theorem sources_divide_iff (p : Project) (t : FileTree) (cwd : Path) (htree : t.WellFormed)
    (hdirs : t.InDirectories) :
    (p.internalFiles t cwd ++ p.externalFiles t cwd).Nodup ∧
      Path.sort (p.internalFiles t cwd ++ p.externalFiles t cwd) =
        (p.allFiles t cwd).filter (fun file => !p.isOverlooked file) ∧
      (Path.sort (p.internalFiles t cwd ++ p.externalFiles t cwd) = p.allFiles t cwd ↔
        ∀ file ∈ p.allFiles t cwd, p.isOverlooked file = false) := by
  have hnodup := nodup_internal_append_external htree hdirs p cwd
  have hkept : Path.sort (p.internalFiles t cwd ++ p.externalFiles t cwd) =
      (p.allFiles t cwd).filter (fun file => !p.isOverlooked file) := by
    have hmem (file : Path) : file ∈ p.internalFiles t cwd ++ p.externalFiles t cwd ↔
        file ∈ (p.allFiles t cwd).filter (fun file => !p.isOverlooked file) := by
      rw [mem_internal_append_external htree hdirs, List.mem_filter, Bool.not_eq_true']
    have hperm := (List.perm_ext_iff_of_nodup hnodup ((nodup_allFiles htree p cwd).filter _)).2 hmem
    have hroot : ∀ file ∈ Path.sort (p.internalFiles t cwd ++ p.externalFiles t cwd),
        file.root = p.root.root := by
      intro file hfile
      have hall := List.mem_of_mem_filter ((hmem file).1 ((Path.sort_perm _).mem_iff.1 hfile))
      obtain ⟨names, rfl, -⟩ := exists_plain_of_mem htree (mem_allFiles.1 hall).1
      rfl
    exact Path.eq_of_sorted hroot (Path.pairwise_sort _) ((Path.pairwise_sort _).filter _)
      ((Path.sort_perm _).trans hperm)
  refine ⟨hnodup, hkept, ?_⟩
  rw [hkept, List.filter_eq_self]
  simp only [Bool.not_eq_true']

/-- A project with standard settings. -/
def vendoredProject : Project := make ⟨.slash, ["p"]⟩ none none

/-- It has a source, a third-party source, and a source in a directory whose name only ends in
`external`. -/
def vendoredTree : FileTree where
  entries := [(["p"], .directory), (["p", "a.wdl"], .file ⟨#[]⟩), (["p", "external"], .directory),
    (["p", "external", "b.wdl"], .file ⟨#[]⟩), (["p", "my_external"], .directory),
    (["p", "my_external", "c.wdl"], .file ⟨#[]⟩)]

theorem sources_divide_iff_of_vendored :
    (vendoredTree.WellFormed ∧ vendoredTree.InDirectories) ∧
      (vendoredProject.internalFiles vendoredTree Path.here ++
        vendoredProject.externalFiles vendoredTree Path.here).Nodup ∧
      Path.sort (vendoredProject.internalFiles vendoredTree Path.here ++
          vendoredProject.externalFiles vendoredTree Path.here) =
        (vendoredProject.allFiles vendoredTree Path.here).filter
          (fun file => !vendoredProject.isOverlooked file) := by
  have htree : vendoredTree.WellFormed := ⟨by decide, by decide⟩
  have hdirs : vendoredTree.InDirectories := by decide
  obtain ⟨hnodup, hkept, -⟩ := sources_divide_iff vendoredProject vendoredTree Path.here htree hdirs
  exact ⟨⟨htree, hdirs⟩, hnodup, hkept⟩

/-- A directory `my_external` has a source that is in neither list. -/
theorem overlooked_source :
    Path.mk .slash ["p", "my_external", "c.wdl"] ∈
        vendoredProject.allFiles vendoredTree Path.here ∧
      Path.mk .slash ["p", "my_external", "c.wdl"] ∉
        vendoredProject.internalFiles vendoredTree Path.here ∧
      Path.mk .slash ["p", "my_external", "c.wdl"] ∉
        vendoredProject.externalFiles vendoredTree Path.here := by
  have htree : vendoredTree.WellFormed := ⟨by decide, by decide⟩
  rw [mem_internalFiles_iff htree, mem_externalFiles_iff (by decide), mem_allFiles]
  decide

end Project

end WorkflowDocs
