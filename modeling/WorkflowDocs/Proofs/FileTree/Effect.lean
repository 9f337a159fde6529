import WorkflowDocs.Proofs.FileTree.Room
import WorkflowDocs.Proofs.Path.Placement

/-!
# What changes do to a file tree

A step that succeeds tells what stands at each place afterwards. Making directories puts them at the
places that a path leads through, and changes nothing else; a file was at none of them. Storing a
file does this for its directory, and puts the file at its place. Of several files that are stored
one after another the last one counts where places coincide, and since no step makes a file of a
directory or a directory of a file, no file was in the way of another.

## Main definitions

* `Path.passed`: the places that a path leads through
* `FileTree.InDirectories`, `FileTree.Named`: trees whose entries lie in directories and have names
  that entries can have
* `FileTree.ClosedAt`: trees with nothing below a place where nothing stands
* `FileTree.Stores`, `FileTree.StoresAll`: storing a file, and storing files one after another
* `FileTree.wayAt?`: what stands at a place once those on some ways are directories
* `FileTree.lastWritten`, `FileTree.storedAt?`: what is written last to a place, and what stands
  there afterwards

## Main results

* `FileTree.get?_remove`, `FileTree.get?_clear`, `FileTree.get?_foldl_put`: simple changes
* `FileTree.makeDirs_eq_some`: making directories
* `FileTree.stores_of_write`, `FileTree.stores_of_makeDirs`: storing a file
* `FileTree.StoresAll.get?_eq`: storing files
* `FileTree.StoresAll.hasRoom`: there was room for files that were stored
-/

namespace WorkflowDocs

/-! ## The places on the way -/

namespace Path

/-- The places that a path leads through from the root on, with the one that it leads to. -/
def passed (cwd p : Path) : List Place :=
  (cwd.join p).names.inits.map collapse

theorem mem_passed {cwd p : Path} {q : Place} :
    q ∈ passed cwd p ↔ ∃ part, part <+: (cwd.join p).names ∧ collapse part = q := by
  rw [passed, List.mem_map]
  exact exists_congr fun part => and_congr_left fun _ => List.mem_inits _ _

theorem resolve_mem_passed (cwd p : Path) : (resolve cwd p).names ∈ passed cwd p :=
  mem_passed.2 ⟨_, List.prefix_rfl, rfl⟩

theorem collapse_concat (names : List String) (name : String) :
    collapse (names ++ [name]) = FileTree.enter (collapse names) name := by
  rw [collapse, collapseOnto_append, FileTree.collapseOnto_singleton, collapse]

/-- What leads to a place that was passed was passed before it. -/
theorem exists_collapse_of_begins {names : List String} {q : Place} (h : q <+: collapse names) :
    ∃ part, part <+: names ∧ collapse part = q := by
  induction names using List.reverseRecOn with
  | nil => exact ⟨[], List.nil_prefix, (List.prefix_nil.1 h).symm⟩
  | append_singleton names name ih =>
    have hrest : q <+: collapse names → ∃ part, part <+: names ++ [name] ∧ collapse part = q := by
      intro hq
      obtain ⟨part, hpart, hcollapse⟩ := ih hq
      exact ⟨part, hpart.trans (List.prefix_append _ _), hcollapse⟩
    rw [collapse_concat, FileTree.enter] at h
    split at h
    · exact hrest (h.trans (List.dropLast_prefix _))
    · rename_i hname
      rcases List.prefix_concat_iff.1 h with rfl | h
      · refine ⟨_, List.prefix_rfl, ?_⟩
        rw [collapse_concat, FileTree.enter, if_neg hname]
      · exact hrest h

theorem mem_passed_of_begins {cwd p : Path} {q r : Place} (hq : q ∈ passed cwd p) (h : r <+: q) :
    r ∈ passed cwd p := by
  obtain ⟨part, hpart, rfl⟩ := mem_passed.1 hq
  obtain ⟨first, hfirst, rfl⟩ := exists_collapse_of_begins h
  exact mem_passed.2 ⟨first, hfirst.trans hpart, rfl⟩

/-- A path without double dots passes what leads to its place. -/
theorem mem_passed_of_not_mem {cwd p : Path} {q : Place} (h : ".." ∉ (cwd.join p).names) :
    q ∈ passed cwd p ↔ q <+: (resolve cwd p).names := by
  rw [mem_passed]
  show _ ↔ q <+: collapse (cwd.join p).names
  rw [collapse_of_not_mem h]
  constructor
  · rintro ⟨part, hpart, rfl⟩
    rwa [collapse_of_not_mem fun hmem => h (hpart.subset hmem)]
  · intro hq
    exact ⟨q, hq, collapse_of_not_mem fun hmem => h (hq.subset hmem)⟩

theorem names_join_take_begins (cwd p : Path) (n : Nat) :
    (cwd.join ⟨p.root, p.names.take n⟩).names <+: (cwd.join p).names := by
  have happend := join_append cwd p.root (p.names.take n) (p.names.drop n)
  rw [List.take_append_drop] at happend
  have hnames : (cwd.join p).names =
      (cwd.join ⟨p.root, p.names.take n⟩).names ++ p.names.drop n := congrArg Path.names happend
  rw [hnames]
  exact List.prefix_append _ _

/-- The paths that lead to a path pass the places that it passes. -/
theorem mem_flatMap_passed_lineage {cwd p : Path} {q : Place} :
    q ∈ p.lineage.flatMap (passed cwd) ↔ q ∈ passed cwd p := by
  rw [List.mem_flatMap]
  constructor
  · rintro ⟨dir, hdir, hq⟩
    obtain ⟨n, -, rfl⟩ := List.mem_map.1 hdir
    obtain ⟨part, hpart, rfl⟩ := mem_passed.1 hq
    exact mem_passed.2 ⟨part, hpart.trans (names_join_take_begins cwd p n), rfl⟩
  · intro hq
    refine ⟨p, List.mem_map.2 ⟨p.names.length, List.mem_range.2 (Nat.lt_succ_self _), ?_⟩, hq⟩
    rw [List.take_length]

theorem isLong_of_mem_lineage {cwd p dir : Path} (hdir : dir ∈ p.lineage)
    (h : (cwd.join p).isLong = false) : (cwd.join dir).isLong = false := by
  obtain ⟨n, -, rfl⟩ := List.mem_map.1 hdir
  refine isLong_eq_false_of_infix (names_join_take_begins cwd p n).isInfix (Nat.le_of_eq ?_) h
  have happend := join_append cwd p.root (p.names.take n) (p.names.drop n)
  rw [List.take_append_drop] at happend
  rw [show (cwd.join p).root = _ from congrArg Path.root happend]

end Path

namespace FileTree

variable {t t' u : FileTree} {cwd file : Path} {content : ByteArray} {q : Place}

/-! ## Trees of entries in directories -/

/-- Every entry lies in a directory. -/
def InDirectories (t : FileTree) : Prop :=
  ∀ place ∈ t.entries.map (·.1), t.isDirectory place.dropLast = true

instance (t : FileTree) : Decidable t.InDirectories :=
  inferInstanceAs (Decidable (∀ place ∈ t.entries.map (·.1), t.isDirectory place.dropLast = true))

/-- Every entry is reached by names that entries can have. -/
def Named (t : FileTree) : Prop :=
  ∀ q, (t.get? q).isSome = true → ∀ name ∈ q, isEntryName name = true

theorem Regular.named (h : t.Regular) : t.Named := by
  intro q hq name hname
  rcases mem_places_of_get? hq with rfl | hplace
  · exact absurd hname List.not_mem_nil
  · exact (h.entryNames q hplace name hname).1

theorem get?_of_isDirectory (h : t.isDirectory q = true) : t.get? q = some .directory := by
  obtain ⟨e, he, hdir⟩ := (Option.any_eq_true ..).1 h
  cases e with
  | directory => exact he
  | file content => exact absurd hdir (by simp [Entry.isDirectory])

theorem isDirectory_of_eq (h : t'.get? q = t.get? q) : t'.isDirectory q = t.isDirectory q := by
  rw [isDirectory, isDirectory, h]

theorem isFile_of_eq (h : t'.get? q = t.get? q) : t'.isFile q = t.isFile q := by
  rw [isFile, isFile, h]

theorem isFile_of_get?_file (h : t.get? q = some (.file content)) : t.isFile q = true := by
  rw [isFile, h]
  rfl

/-- In a tree of entries in directories, what is above an entry is a directory. -/
theorem InDirectories.isDirectory (h : t.InDirectories) {r : Place} (hr : r ≠ [])
    (hq : (t.get? (q ++ r)).isSome = true) : t.isDirectory q = true := by
  induction r using List.reverseRecOn with
  | nil => exact absurd rfl hr
  | append_singleton r name ih =>
    rw [← List.append_assoc] at hq
    have hplace := (mem_places_of_get? hq).resolve_left (by simp)
    have hdir := h _ hplace
    rw [List.dropLast_concat] at hdir
    rcases eq_or_ne r [] with rfl | hne
    · rwa [List.append_nil] at hdir
    · exact ih hne (by rw [get?_of_isDirectory hdir]; rfl)

/-- Nothing is below the place if nothing stands there. -/
def ClosedAt (t : FileTree) (p : Place) : Prop :=
  t.get? p = none → ∀ q, p <+: q → t.get? q = none

theorem InDirectories.closedAt (h : t.InDirectories) (p : Place) : t.ClosedAt p := by
  rintro hnone q ⟨r, rfl⟩
  by_contra hsome
  have hr : r ≠ [] := by
    rintro rfl
    exact hsome (by rw [List.append_nil]; exact hnone)
  have hdirectory := h.isDirectory hr (Option.isSome_iff_ne_none.2 hsome)
  rw [get?_of_isDirectory hdirectory] at hnone
  exact absurd hnone (by simp)

theorem ClosedAt.of_isDirectory {p : Place} (h : t.isDirectory p = true) : t.ClosedAt p := by
  intro hnone
  rw [get?_of_isDirectory h] at hnone
  exact absurd hnone (by simp)

/-! ## Simple changes -/

theorem lookup_filter_keys (entries : List (Place × Entry)) (keep : Place → Bool) (q : Place) :
    (entries.filter fun x => keep x.1).lookup q =
      if keep q then entries.lookup q else none := by
  induction entries with
  | nil => simp
  | cons x entries ih =>
    rw [List.filter_cons, List.lookup_cons]
    by_cases hq : q = x.1
    · rw [← hq]
      have hqq : (q == q) = true := by simp
      split
      · rw [List.lookup_cons, ← hq, hqq]
      · rw [ih, if_neg ‹_›]
    · have hqx : (q == x.1) = false := by simpa using hq
      rw [hqx]
      split
      · rw [List.lookup_cons, hqx, ih]
      · exact ih

/-- Taking a place away leaves nothing there and below it. -/
theorem get?_remove (t : FileTree) {p : Place} (hp : p ≠ []) (q : Place) :
    (t.remove p).get? q = if p <+: q then none else t.get? q := by
  by_cases hq : q = []
  · rw [if_neg (by rw [hq, List.prefix_nil]; exact hp), get?, get?, hq]
    rfl
  · have hempty : ¬ q.isEmpty = true := by simpa using hq
    rw [get?, get?, if_neg hempty, if_neg hempty, remove,
      lookup_filter_keys _ fun place => !p.isPrefixOf place]
    have hiff : p.isPrefixOf q = true ↔ p <+: q := List.isPrefixOf_iff_prefix
    by_cases hbelow : p <+: q
    · rw [if_pos hbelow, hiff.2 hbelow]
      rfl
    · rw [if_neg hbelow, Bool.eq_false_iff.2 (mt hiff.1 hbelow)]
      rfl

/-- Taking away what is below a place leaves nothing there. -/
theorem get?_clear (t : FileTree) (p q : Place) :
    (t.clear p).get? q = if p <+: q ∧ q ≠ p then none else t.get? q := by
  by_cases hq : q = []
  · rw [if_neg (by rw [hq, List.prefix_nil]; exact fun h => h.2 h.1.symm), get?, get?, hq]
    rfl
  · have hempty : ¬ q.isEmpty = true := by simpa using hq
    rw [get?, get?, if_neg hempty, if_neg hempty, clear,
      lookup_filter_keys _ fun place => !(p.isPrefixOf place && place != p)]
    have hiff : (p.isPrefixOf q && q != p) = true ↔ p <+: q ∧ q ≠ p := by
      rw [Bool.and_eq_true, List.isPrefixOf_iff_prefix, bne_iff_ne]
    by_cases hbelow : p <+: q ∧ q ≠ p
    · rw [if_pos hbelow, hiff.2 hbelow]
      rfl
    · rw [if_neg hbelow, Bool.eq_false_iff.2 (mt hiff.1 hbelow)]
      rfl

/-- Entries that are put into a directory stand there, and nothing outside of it changes. No entry
has the name of an earlier one. -/
theorem get?_foldl_put {dir : Place} (hdir : dir ≠ []) {entries : List (Place × Entry)}
    (hnodup : (entries.map (·.1)).Nodup) (t : FileTree) :
    (∀ r, (entries.foldl (fun t a => t.put (dir ++ a.1) a.2) t).get? (dir ++ r) =
      (entries.lookup r).or (t.get? (dir ++ r))) ∧
    ∀ q, ¬ dir <+: q →
      (entries.foldl (fun t a => t.put (dir ++ a.1) a.2) t).get? q = t.get? q := by
  induction entries generalizing t with
  | nil => exact ⟨fun r => rfl, fun q _ => rfl⟩
  | cons a entries ih =>
    rw [List.map_cons, List.nodup_cons] at hnodup
    obtain ⟨hfresh, hnodup⟩ := hnodup
    obtain ⟨hbelow, houtside⟩ := ih hnodup (t.put (dir ++ a.1) a.2)
    have hput := get?_put t (List.append_ne_nil_of_left_ne_nil hdir a.1)
    refine ⟨fun r => ?_, fun q hq => ?_⟩
    · rw [List.foldl_cons, hbelow, hput, List.lookup_cons]
      by_cases hr : r = a.1
      · have hnone : entries.lookup r = none := by
          rw [List.lookup_eq_none_iff]
          intro x hx
          have hne : r ≠ x.1 := by
            rintro rfl
            exact hfresh (hr ▸ List.mem_map_of_mem hx)
          simpa using hne
        simp [hr ▸ hnone, hr]
      · have hbeq : (r == a.1) = false := by simpa using hr
        rw [hbeq, if_neg fun heq => hr (List.append_cancel_left heq)]
    · have hne : q ≠ dir ++ a.1 := by
        rintro rfl
        exact hq (List.prefix_append _ _)
      rw [List.foldl_cons, houtside q hq, hput, if_neg hne]

/-! ## Parts of a change -/

theorem run_append_of_eq {first second : List Step} (h : run first t = (u, true)) :
    run (first ++ second) t = run second u := by
  rw [run_append, h]
  rfl

/-- Steps that change nothing are complete. -/
theorem run_eq_of_forall {steps : List Step} (h : ∀ step ∈ steps, step t = some t) :
    run steps t = (t, true) := by
  induction steps with
  | nil => rfl
  | cons step steps ih =>
    obtain ⟨hstep, hsteps⟩ := List.forall_mem_cons.1 h
    rw [run_cons_of_eq_some hstep, ih hsteps]

/-! ## Making directories -/

/-- What stands at a place once those on some ways are directories. -/
def wayAt? (ways : List Place) (before : Option Entry) (q : Place) : Option Entry :=
  if q ∈ ways then some .directory else before

theorem wayAt?_of_mem {ways : List Place} {before : Option Entry} (h : q ∈ ways) :
    wayAt? ways before q = some .directory :=
  if_pos h

theorem wayAt?_of_not_mem {ways : List Place} {before : Option Entry} (h : q ∉ ways) :
    wayAt? ways before q = before :=
  if_neg h

theorem wayAt?_congr {ways ways' : List Place} {before : Option Entry}
    (h : q ∈ ways ↔ q ∈ ways') : wayAt? ways before q = wayAt? ways' before q := by
  simp only [wayAt?, h]

/-- Making directories along names puts them at all places that the names lead through. The first
name leads to `enter here name`, and the others lead on from there. -/
theorem get?_of_makeDirsFrom? {here place : Place} {names : List String}
    (hhere : ∀ q, q <+: here → t.isDirectory q = true)
    (h : t.makeDirsFrom? here names = some (t', place)) :
    (∀ q ∈ names.inits.map (Path.collapseOnto here.reverse), t.isFile q = false) ∧
    ∀ q, t'.get? q = wayAt? (names.inits.map (Path.collapseOnto here.reverse)) (t.get? q) q := by
  have hdir := hhere here List.prefix_rfl
  induction names generalizing t here with
  | nil =>
    obtain ⟨rfl, rfl⟩ := Prod.mk.injEq .. ▸ Option.some.inj h
    simp only [List.inits, List.map_singleton, Path.collapseOnto, List.reverse_reverse,
      List.mem_singleton, forall_eq, wayAt?]
    refine ⟨isFile_of_isDirectory hdir, fun q => ?_⟩
    split
    · rename_i hq
      rw [hq, get?_of_isDirectory hdir]
    · rfl
  | cons name names ih =>
    obtain ⟨hnext, hname⟩ := of_makeDirsFrom?_cons hhere h
    obtain ⟨u, hmake, hput, hdirs⟩ := exists_makeDirsFrom?_cons hhere hname hnext names
    have hentered := hdirs _ List.prefix_rfl
    obtain ⟨hfiles, hget⟩ := ih hdirs (hmake.symm.trans h) hentered
    have hu : ∀ q, q ≠ enter here name → u.get? q = t.get? q :=
      fun q hq => (hput q).resolve_right fun hdirectory => hq hdirectory.2
    have hinits : (name :: names).inits.map (Path.collapseOnto here.reverse) =
        here :: names.inits.map (Path.collapseOnto (enter here name).reverse) := by
      simp only [List.inits_cons, List.map_cons, List.map_map, Path.collapseOnto,
        List.reverse_reverse, List.cons.injEq, true_and]
      exact List.map_congr_left fun part _ => (collapseOnto_enter here name part).symm
    have hfirst : enter here name ∈
        names.inits.map (Path.collapseOnto (enter here name).reverse) :=
      List.mem_map.2 ⟨[], (List.mem_inits _ _).2 List.nil_prefix, by
        rw [Path.collapseOnto, List.reverse_reverse]⟩
    rw [hinits]
    refine ⟨List.forall_mem_cons.2 ⟨isFile_of_isDirectory hdir, fun q hq => ?_⟩, fun q => ?_⟩
    · by_cases heq : q = enter here name
      · rw [heq]
        exact hnext
      · rw [← isFile_of_eq (hu q heq)]
        exact hfiles q hq
    · rw [hget q]
      by_cases hq : q ∈ names.inits.map (Path.collapseOnto (enter here name).reverse)
      · rw [wayAt?_of_mem hq, wayAt?_of_mem (List.mem_cons_of_mem _ hq)]
      · have hne : q ≠ enter here name := fun heq => hq (heq ▸ hfirst)
        rw [wayAt?_of_not_mem hq, hu q hne, wayAt?]
        split
        · rename_i hmem
          rw [(List.mem_cons.1 hmem).resolve_right hq, get?_of_isDirectory hdir]
        · rfl

/-- **Making directories.** They are made at the places that the path leads through, where no file
was, and nothing else changes. -/
theorem makeDirs_eq_some {dir : Path} (h : makeDirs cwd dir t = some t') :
    (∀ q ∈ Path.passed cwd dir, t.isFile q = false) ∧
    ∀ q, t'.get? q = wayAt? (Path.passed cwd dir) (t.get? q) q := by
  obtain ⟨⟨made, place⟩, hmade, rfl⟩ := Option.map_eq_some_iff.1 h
  rw [makeDirs?] at hmade
  split at hmade
  · exact absurd hmade (by simp)
  · exact get?_of_makeDirsFrom? (fun q => t.isDirectory_of_prefix_nil) hmade

/-- The names of a path whose directories can be made are double dots and names that entries can
have. -/
theorem isEntryName_of_makeDirsFrom? {here place : Place} {names : List String}
    (hhere : ∀ q, q <+: here → t.isDirectory q = true) (hnamed : t.Named)
    (h : t.makeDirsFrom? here names = some (t', place)) :
    ∀ name ∈ names, name = ".." ∨ isEntryName name = true := by
  intro name hname
  obtain ⟨part, rest, rfl⟩ := List.append_of_mem hname
  have hpart : part ++ [name] <+: part ++ name :: rest :=
    (List.prefix_append_right_inj part).2 ((List.prefix_cons_inj name).2 List.nil_prefix)
  cases hget : t.get? (Path.collapseOnto here.reverse (part ++ [name])) with
  | none => exact makeable_of_makeDirsFrom? hhere h part name hpart hget
  | some e =>
    refine or_iff_not_imp_left.2 fun hdots => hnamed _ (by rw [hget]; rfl) name ?_
    rw [collapseOnto_concat, enter, if_neg hdots]
    exact List.mem_append_right _ (List.mem_singleton_self name)

theorem isEntryName_of_makeDirs {dir : Path} (hnamed : t.Named) (h : makeDirs cwd dir t = some t') :
    ∀ name ∈ (cwd.join dir).names, name = ".." ∨ isEntryName name = true := by
  obtain ⟨⟨made, place⟩, hmade, rfl⟩ := Option.map_eq_some_iff.1 h
  rw [makeDirs?] at hmade
  split at hmade
  · exact absurd hmade (by simp)
  · exact isEntryName_of_makeDirsFrom? (fun q => t.isDirectory_of_prefix_nil) hnamed hmade

/-- Places that are passed by such names have such names. -/
theorem isEntryName_of_mem_passed {dir : Path}
    (h : ∀ name ∈ (cwd.join dir).names, name = ".." ∨ isEntryName name = true)
    (hq : q ∈ Path.passed cwd dir) : ∀ name ∈ q, isEntryName name = true := by
  intro name hname
  obtain ⟨part, hpart, rfl⟩ := Path.mem_passed.1 hq
  refine (h name (hpart.subset (Path.collapse_subset hname))).resolve_left ?_
  rintro rfl
  exact Path.not_mem_collapse part hname

theorem Named.makeDirs {dir : Path} (hnamed : t.Named) (h : makeDirs cwd dir t = some t') :
    t'.Named := by
  intro q hq
  rw [(makeDirs_eq_some h).2, wayAt?] at hq
  split at hq
  · exact isEntryName_of_mem_passed (isEntryName_of_makeDirs hnamed h) ‹_›
  · exact hnamed q hq

/-- Directories that are made one after another stand at the places that their paths lead through,
where no file was. -/
theorem run_makeDirs {dirs : List Path} (h : run (dirs.map (makeDirs cwd)) t = (t', true)) :
    (∀ q ∈ dirs.flatMap (Path.passed cwd), t.isFile q = false) ∧
    ∀ q, t'.get? q = wayAt? (dirs.flatMap (Path.passed cwd)) (t.get? q) q := by
  induction dirs generalizing t with
  | nil =>
    obtain ⟨rfl, -⟩ := Prod.mk.inj h
    simp [wayAt?]
  | cons dir dirs ih =>
    obtain ⟨u, hmade, -⟩ := exists_of_run_cons (congrArg Prod.snd h)
    rw [List.map_cons, run_cons_of_eq_some hmade] at h
    obtain ⟨hfiles, hput⟩ := makeDirs_eq_some hmade
    obtain ⟨hothers, hget⟩ := ih h
    rw [List.flatMap_cons]
    refine ⟨fun q hq => ?_, fun q => ?_⟩
    · by_cases hfirst : q ∈ Path.passed cwd dir
      · exact hfiles q hfirst
      · rw [← isFile_of_eq ((hput q).trans (wayAt?_of_not_mem hfirst))]
        exact hothers q ((List.mem_append.1 hq).resolve_left hfirst)
    · rw [hget, hput]
      by_cases hrest : q ∈ dirs.flatMap (Path.passed cwd)
      · rw [wayAt?_of_mem hrest, wayAt?_of_mem (List.mem_append_right _ hrest)]
      · rw [wayAt?_of_not_mem hrest]
        by_cases hfirst : q ∈ Path.passed cwd dir
        · rw [wayAt?_of_mem hfirst, wayAt?_of_mem (List.mem_append_left _ hfirst)]
        · rw [wayAt?_of_not_mem hfirst,
            wayAt?_of_not_mem fun hmem => (List.mem_append.1 hmem).elim hfirst hrest]

theorem isEntryName_of_run_makeDirs {dirs : List Path} (hnamed : t.Named)
    (h : run (dirs.map (makeDirs cwd)) t = (t', true)) {dir : Path} (hdir : dir ∈ dirs) :
    ∀ name ∈ (cwd.join dir).names, name = ".." ∨ isEntryName name = true := by
  induction dirs generalizing t with
  | nil => exact absurd hdir List.not_mem_nil
  | cons first dirs ih =>
    obtain ⟨u, hmade, -⟩ := exists_of_run_cons (congrArg Prod.snd h)
    rw [List.map_cons, run_cons_of_eq_some hmade] at h
    rcases List.mem_cons.1 hdir with rfl | hdir
    · exact isEntryName_of_makeDirs hnamed hmade
    · exact ih (hnamed.makeDirs hmade) h hdir

/-- Nothing is made where a path leads through directories already. -/
theorem makeDirs_of_passed {dir : Path} (hshort : (cwd.join dir).isLong = false)
    (h : ∀ q ∈ Path.passed cwd dir, t.isDirectory q = true) : makeDirs cwd dir t = some t := by
  have hfrom : ∀ {here : Place} {names : List String},
      (∀ part, part <+: names → t.isDirectory (Path.collapseOnto here.reverse part) = true) →
      ∃ place, t.makeDirsFrom? here names = some (t, place) := by
    intro here names
    induction names generalizing here with
    | nil => exact fun _ => ⟨here, rfl⟩
    | cons name names ih =>
      intro hparts
      have hnext : t.isDirectory (enter here name) = true := by
        rw [← collapseOnto_singleton]
        exact hparts _ ((List.prefix_cons_inj name).2 List.nil_prefix)
      obtain ⟨place, hplace⟩ := @ih (enter here name) fun part hpart => by
        rw [collapseOnto_enter]
        exact hparts _ ((List.prefix_cons_inj name).2 hpart)
      refine ⟨place, ?_⟩
      rw [makeDirsFrom?]
      rw [enter] at hnext hplace
      split
      · rwa [if_pos ‹_›] at hplace
      · rw [if_neg ‹_›] at hnext hplace
        simp only [get?_of_isDirectory hnext, hplace]
  obtain ⟨place, hplace⟩ := @hfrom [] (cwd.join dir).names fun part hpart =>
    h _ (Path.mem_passed.2 ⟨part, hpart, rfl⟩)
  rw [makeDirs, makeDirs?, if_neg (by simp [hshort]), hplace]
  rfl

/-! ## Following a path -/

/-- Names that can be followed lead through directories up to the last. -/
theorem eq_or_isDirectory_of_walk {here place : Place} {names : List String}
    (h : t.walk here names = some place) {part : List String} (hpart : part <+: names) :
    part = names ∨ t.isDirectory (Path.collapseOnto here.reverse part) = true := by
  induction names generalizing here part with
  | nil => exact .inl (List.prefix_nil.1 hpart)
  | cons name names ih =>
    have hhere := isDirectory_of_walk_cons h
    rw [walk_cons hhere] at h
    rcases List.prefix_cons_iff.1 hpart with rfl | ⟨rest, rfl, hrest⟩
    · rw [Path.collapseOnto, List.reverse_reverse]
      exact .inr hhere
    · rw [← collapseOnto_enter]
      exact (ih h hrest).imp_left (congrArg _)

/-- A path that leads to a directory leads through directories. -/
theorem isDirectory_of_locate? {p : Path} {place : Place} (h : t.locate? cwd p = some place)
    (hplace : t.isDirectory place = true) (hq : q ∈ Path.passed cwd p) :
    t.isDirectory q = true := by
  obtain ⟨part, hpart, rfl⟩ := Path.mem_passed.1 hq
  rcases eq_or_isDirectory_of_walk h hpart with rfl | hdir
  · rwa [(locate?_eq_some h).1] at hplace
  · exact hdir

/-- A path leads to a directory exactly if it leads through directories. -/
theorem locate?_of_passed {p : Path} (h : ∀ q ∈ Path.passed cwd p, t.isDirectory q = true) :
    t.locate? cwd p = some (Path.resolve cwd p).names := by
  have hwalk : ∃ place, t.locate? cwd p = some place ∧ t.isDirectory place = true :=
    exists_walk fun part hpart => h _ (Path.mem_passed.2 ⟨part, hpart, rfl⟩)
  obtain ⟨place, hlocate, -⟩ := hwalk
  rw [← (locate?_eq_some hlocate).1]
  exact hlocate

/-- A path is followed alike in two trees with the same directories on the way and the same at its
end. -/
theorem walk_congr {here : Place} {names : List String}
    (hdirs : ∀ part, part <+: names → t.isDirectory (Path.collapseOnto here.reverse part) =
      u.isDirectory (Path.collapseOnto here.reverse part))
    (hlast : t.get? (Path.collapseOnto here.reverse names) =
      u.get? (Path.collapseOnto here.reverse names)) :
    t.walk here names = u.walk here names ∧
      t.meetsLongName here names = u.meetsLongName here names := by
  induction names generalizing here with
  | nil =>
    rw [Path.collapseOnto, List.reverse_reverse] at hlast
    rw [walk, walk, hlast]
    exact ⟨rfl, rfl⟩
  | cons name names ih =>
    have hhere := hdirs [] List.nil_prefix
    rw [Path.collapseOnto, List.reverse_reverse] at hhere
    have hrest := @ih (enter here name) (fun part hpart => by
      rw [collapseOnto_enter]
      exact hdirs _ ((List.prefix_cons_inj name).2 hpart)) (by rwa [collapseOnto_enter])
    rw [walk, walk, meetsLongName, meetsLongName, hhere]
    rw [enter] at hrest
    split
    · exact ⟨rfl, rfl⟩
    · split
      · rwa [if_pos ‹_›] at hrest
      · rw [if_neg ‹_›] at hrest
        rw [hrest.1, hrest.2]
        exact ⟨rfl, rfl⟩

theorem locate?_congr {p : Path}
    (hdirs : ∀ q ∈ Path.passed cwd p, t.isDirectory q = u.isDirectory q)
    (hlast : t.get? (Path.resolve cwd p).names = u.get? (Path.resolve cwd p).names) :
    t.locate? cwd p = u.locate? cwd p ∧ t.isUnanswerable cwd p = u.isUnanswerable cwd p := by
  obtain ⟨hwalk, hlong⟩ := @walk_congr t u [] (cwd.join p).names
    (fun part hpart => hdirs _ (Path.mem_passed.2 ⟨part, hpart, rfl⟩)) hlast
  refine ⟨hwalk, ?_⟩
  simp only [isUnanswerable, hlong]

/-- A path that can be followed has double dots and names that entries can have. -/
theorem Named.of_walk (hnamed : t.Named) {here place : Place} {names : List String}
    (h : t.walk here names = some place) :
    ∀ name ∈ names, name = ".." ∨ isEntryName name = true := by
  induction names generalizing here with
  | nil => exact List.forall_mem_nil _
  | cons name names ih =>
    rw [walk_cons (isDirectory_of_walk_cons h)] at h
    refine List.forall_mem_cons.2 ⟨or_iff_not_imp_left.2 fun hdots => ?_, ih h⟩
    have hsome := isSome_of_walk h
    rw [enter, if_neg hdots] at hsome
    exact hnamed _ hsome name (by simp)

/-! ## Storing a file -/

/-- The file with the given content is stored: directories are made on the way to it, where no file
was, and it stands at its place, where no directory was. -/
structure Stores (cwd file : Path) (content : ByteArray) (t t' : FileTree) : Prop where
  storable : Storable cwd file
  passable : ∀ q ∈ Path.wayTo cwd file, t.isFile q = false
  free : t.isDirectory (Path.resolve cwd file).names = false
  apart : (Path.resolve cwd file).names ∉ Path.wayTo cwd file
  get?_eq : ∀ q, t'.get? q = if q = (Path.resolve cwd file).names then some (.file content)
    else wayAt? (Path.wayTo cwd file) (t.get? q) q

/-- A file is written where no directory stands, into a directory that its path leads to. -/
theorem exists_of_write (h : write cwd file content t = some t') :
    ∃ dir, t.locate? cwd file.parent = some dir ∧ t.isDirectory dir = true ∧
      (isEntryName file.name = true ∧ (cwd.join file).isLong = false) ∧
      (Path.resolve cwd file).names = dir ++ [file.name] ∧
      t.isDirectory (dir ++ [file.name]) = false := by
  simp only [write, Option.bind_eq_bind, Option.bind_eq_some_iff] at h
  obtain ⟨dir, hlocate, h⟩ := h
  split at h
  · rename_i hname
    rw [Bool.and_eq_true, Bool.not_eq_true'] at hname
    rw [writeFile?] at h
    split at h
    · exact absurd h (by simp)
    · rename_i hfree
      simp only [Bool.or_eq_true, Bool.not_eq_true', not_or, Bool.not_eq_false,
        Bool.not_eq_true, List.dropLast_concat] at hfree
      refine ⟨dir, hlocate, hfree.1.2, hname, ?_, hfree.2⟩
      rw [names_resolve_of_isEntryName hname.1, (locate?_eq_some hlocate).1]
  · exact absurd h (by simp)

/-- Writing a file whose directory is there stores it. -/
theorem stores_of_write (hnamed : t.Named) (h : write cwd file content t = some t') :
    Stores cwd file content t t' := by
  obtain ⟨hne, hput⟩ := write_eq_some h
  obtain ⟨dir, hlocate, hdir, ⟨hname, hshort⟩, hplace, hfree⟩ := exists_of_write h
  rw [← hplace] at hfree
  have hway : ∀ q ∈ Path.wayTo cwd file, t.isDirectory q = true :=
    fun q => isDirectory_of_locate? hlocate hdir
  refine ⟨⟨hname, hnamed.of_walk hlocate, hshort⟩, fun q hq => isFile_of_isDirectory (hway q hq),
    hfree, fun hmem => ?_, fun q => ?_⟩
  · exact absurd (hway _ hmem) (by simp [hfree])
  · rw [hput, get?_put t hne]
    by_cases hq : q ∈ Path.wayTo cwd file
    · rw [wayAt?_of_mem hq, get?_of_isDirectory (hway q hq)]
    · rw [wayAt?_of_not_mem hq]

/-- A file can be written under a name that it can have, if the directories on the way are there and
none is at its place. -/
theorem exists_write_of_way (hname : isEntryName file.name = true)
    (hshort : (cwd.join file).isLong = false)
    (hway : ∀ q ∈ Path.wayTo cwd file, u.isDirectory q = true)
    (hfree : u.isDirectory (Path.resolve cwd file).names = false) :
    ∃ u', write cwd file content u = some u' := by
  have hdir := hway _ (Path.resolve_mem_passed cwd file.parent)
  rw [names_resolve_of_isEntryName hname] at hfree
  refine ⟨u.put ((Path.resolve cwd file.parent).names ++ [file.name]) (.file content), ?_⟩
  simp [write, locate?_of_passed hway, hname, hshort, writeFile?, hdir, hfree]

/-- A file that was written to one tree can be written to another, if the directories on the way are
there and none is at its place. -/
theorem exists_write (h : write cwd file content t = some t')
    (hway : ∀ q ∈ Path.wayTo cwd file, u.isDirectory q = true)
    (hfree : u.isDirectory (Path.resolve cwd file).names = false) :
    ∃ u', write cwd file content u = some u' := by
  obtain ⟨-, -, -, ⟨hname, hshort⟩, -, -⟩ := exists_of_write h
  exact exists_write_of_way hname hshort hway hfree

/-- Making the directory of a file and writing it stores it. -/
theorem stores_of_makeDirs (hnamed : t.Named) (hmade : makeDirs cwd file.parent t = some u)
    (h : write cwd file content u = some t') : Stores cwd file content t t' := by
  obtain ⟨hfiles, hget⟩ := makeDirs_eq_some hmade
  have hstores := stores_of_write (hnamed.makeDirs hmade) h
  refine ⟨hstores.storable, hfiles, ?_, hstores.apart, fun q => ?_⟩
  · rw [← isDirectory_of_eq ((hget _).trans (wayAt?_of_not_mem hstores.apart))]
    exact hstores.free
  · rw [hstores.get?_eq, hget]
    by_cases hq : q ∈ Path.wayTo cwd file
    · rw [wayAt?_of_mem hq, wayAt?_of_mem hq]
    · have hpassed : q ∉ Path.passed cwd file.parent := hq
      rw [wayAt?_of_not_mem hq, wayAt?_of_not_mem hpassed, wayAt?_of_not_mem hq]

namespace Stores

variable (h : Stores cwd file content t t')

include h

/-- A directory remains a directory. -/
theorem isDirectory (hq : t.isDirectory q = true) : t'.isDirectory q = true := by
  rw [FileTree.isDirectory, h.get?_eq, wayAt?]
  split
  · rename_i heq
    rw [heq, h.free] at hq
    exact absurd hq (by simp)
  · split
    · rfl
    · exact hq

/-- A file remains a file. -/
theorem isFile (hq : t.isFile q = true) : t'.isFile q = true := by
  rw [FileTree.isFile, h.get?_eq, wayAt?]
  split
  · rfl
  · split
    · rw [h.passable q ‹_›] at hq
      exact absurd hq (by simp)
    · exact hq

theorem isFile_place : t'.isFile (Path.resolve cwd file).names = true :=
  isFile_of_get?_file (by rw [h.get?_eq, if_pos rfl])

theorem isDirectory_way (hq : q ∈ Path.wayTo cwd file) : t'.isDirectory q = true := by
  have hne : q ≠ (Path.resolve cwd file).names := fun heq => h.apart (heq ▸ hq)
  exact isDirectory_of_get? (by rw [h.get?_eq, if_neg hne, wayAt?_of_mem hq])

theorem named (hnamed : t.Named) : t'.Named := by
  have hway : ∀ q ∈ Path.wayTo cwd file, ∀ name ∈ q, isEntryName name = true :=
    fun q => isEntryName_of_mem_passed h.storable.way
  intro q hq name hname
  rw [h.get?_eq, wayAt?] at hq
  split at hq
  · rename_i heq
    rw [heq, h.storable.names_resolve, List.mem_append, List.mem_singleton] at hname
    rcases hname with hname | rfl
    · exact hway _ (Path.resolve_mem_passed cwd file.parent) name hname
    · exact h.storable.named
  · split at hq
    · exact hway q ‹_› name hname
    · exact hnamed q hq name hname

end Stores

/-! ## Storing files one after another -/

/-- The files are stored one after another, each with its content. -/
inductive StoresAll (cwd : Path) : List (Path × ByteArray) → FileTree → FileTree → Prop
  | nil (t : FileTree) : StoresAll cwd [] t t
  | cons {file : Path} {content : ByteArray} {rest : List (Path × ByteArray)} {t u t' : FileTree}
      (first : Stores cwd file content t u) (others : StoresAll cwd rest u t') :
      StoresAll cwd ((file, content) :: rest) t t'

/-- The content that is written last to a place, if there is one. -/
def lastWritten (cwd : Path) : List (Path × ByteArray) → Place → Option ByteArray
  | [], _ => none
  | x :: rest, q =>
    (lastWritten cwd rest q).or (if (Path.resolve cwd x.1).names = q then some x.2 else none)

theorem exists_of_lastWritten {files : List (Path × ByteArray)}
    (h : lastWritten cwd files q = some content) :
    ∃ x ∈ files, (Path.resolve cwd x.1).names = q := by
  induction files with
  | nil => exact absurd h (by simp [lastWritten])
  | cons x files ih =>
    rw [lastWritten, Option.or_eq_some_iff] at h
    rcases h with hrest | ⟨-, hfirst⟩
    · obtain ⟨y, hy, hq⟩ := ih hrest
      exact ⟨y, List.mem_cons_of_mem _ hy, hq⟩
    · exact ⟨x, List.mem_cons_self, (Option.ite_none_right_eq_some.1 hfirst).1⟩

/-- The places on the way to some of the files. -/
def waysTo (cwd : Path) (files : List (Path × ByteArray)) : List Place :=
  files.flatMap fun x => Path.wayTo cwd x.1

/-- What stands at a place after files were stored: what was written there last, a directory on the
way to one of the files, or what was there before. -/
def storedAt? (cwd : Path) (files : List (Path × ByteArray)) (before : Option Entry) (q : Place) :
    Option Entry :=
  match lastWritten cwd files q with
  | some content => some (.file content)
  | none => wayAt? (waysTo cwd files) before q

namespace StoresAll

variable {files files' : List (Path × ByteArray)}

theorem append (h : StoresAll cwd files t u) (h' : StoresAll cwd files' u t') :
    StoresAll cwd (files ++ files') t t' := by
  induction h with
  | nil => exact h'
  | cons first _ ih => exact .cons first (ih h')

theorem isDirectory (h : StoresAll cwd files t t') (hq : t.isDirectory q = true) :
    t'.isDirectory q = true := by
  induction h with
  | nil => exact hq
  | cons first _ ih => exact ih (first.isDirectory hq)

theorem isFile (h : StoresAll cwd files t t') (hq : t.isFile q = true) : t'.isFile q = true := by
  induction h with
  | nil => exact hq
  | cons first _ ih => exact ih (first.isFile hq)

theorem named (h : StoresAll cwd files t t') (hnamed : t.Named) : t'.Named := by
  induction h with
  | nil => exact hnamed
  | cons first _ ih => exact ih (first.named hnamed)

theorem isFile_place (h : StoresAll cwd files t t') {x : Path × ByteArray} (hx : x ∈ files) :
    t'.isFile (Path.resolve cwd x.1).names = true := by
  induction h with
  | nil => exact absurd hx List.not_mem_nil
  | cons first others ih =>
    rcases List.mem_cons.1 hx with rfl | hx
    · exact others.isFile first.isFile_place
    · exact ih hx

theorem isDirectory_way (h : StoresAll cwd files t t') (hq : q ∈ waysTo cwd files) :
    t'.isDirectory q = true := by
  induction h with
  | nil => exact absurd hq List.not_mem_nil
  | cons first others ih =>
    rw [waysTo, List.flatMap_cons, List.mem_append] at hq
    rcases hq with hq | hq
    · exact others.isDirectory (first.isDirectory_way hq)
    · exact ih hq

/-- **Storing files.** At each place stands what was written there last; the places on the way to
one of the files are directories, and nothing else changes. A file stays where it was stored, so no
later file has it on its way. -/
theorem get?_eq (h : StoresAll cwd files t t') (q : Place) :
    t'.get? q = storedAt? cwd files (t.get? q) q := by
  induction h with
  | nil => simp [storedAt?, wayAt?, lastWritten, waysTo]
  | @cons file content rest t u t' first others ih =>
    have hways : ∀ q, q ∈ waysTo cwd ((file, content) :: rest) ↔
        q ∈ Path.wayTo cwd file ∨ q ∈ waysTo cwd rest := by
      intro q
      rw [waysTo, List.flatMap_cons, List.mem_append]
      rfl
    rw [storedAt?] at ih ⊢
    rw [lastWritten]
    cases hrest : lastWritten cwd rest q with
    | some later =>
      rw [hrest] at ih
      exact ih
    | none =>
      rw [hrest] at ih
      rw [Option.none_or, ih, first.get?_eq]
      by_cases hplace : q = (Path.resolve cwd file).names
      · have hway : q ∉ waysTo cwd rest := by
          intro hway
          have hfile := others.isFile (q := q) (hplace ▸ first.isFile_place)
          rw [isFile_of_isDirectory (others.isDirectory_way hway)] at hfile
          exact absurd hfile (by simp)
        rw [wayAt?_of_not_mem hway, if_pos hplace, if_pos hplace.symm]
      · rw [if_neg hplace, if_neg (Ne.symm hplace)]
        by_cases hlater : q ∈ waysTo cwd rest
        · simp only [wayAt?_of_mem hlater, wayAt?_of_mem ((hways q).2 (.inr hlater))]
        · rw [wayAt?_of_not_mem hlater]
          by_cases hfirst : q ∈ Path.wayTo cwd file
          · simp only [wayAt?_of_mem hfirst, wayAt?_of_mem ((hways q).2 (.inl hfirst))]
          · have hneither : q ∉ waysTo cwd ((file, content) :: rest) :=
              fun hmem => ((hways q).1 hmem).elim hfirst hlater
            simp only [wayAt?_of_not_mem hfirst, wayAt?_of_not_mem hneither]

/-- There was room for files that were stored. Otherwise there would be a file and a directory at
the same place afterwards. -/
theorem hasRoom (h : StoresAll cwd files t t') : t.HasRoom cwd (files.map (·.1)) := by
  have hstores : ∀ x ∈ files, Storable cwd x.1 ∧
      (∀ q ∈ Path.wayTo cwd x.1, t.isFile q = false) ∧
      t.isDirectory (Path.resolve cwd x.1).names = false := by
    induction h with
    | nil => exact List.forall_mem_nil _
    | cons first _ ih =>
      refine List.forall_mem_cons.2 ⟨⟨first.storable, first.passable, first.free⟩, fun x hx => ?_⟩
      obtain ⟨hstorable, hpassable, hfree⟩ := ih x hx
      refine ⟨hstorable, fun q hq => ?_, ?_⟩
      · refine Bool.eq_false_iff.2 fun hfile => ?_
        exact absurd (first.isFile hfile) (by simp [hpassable q hq])
      · exact Bool.eq_false_iff.2 fun hdir => absurd (first.isDirectory hdir) (by simp [hfree])
  refine ⟨?_, ?_, ?_, ?_⟩
  · simp only [List.forall_mem_map]
    exact fun x hx => (hstores x hx).1
  · simp only [List.forall_mem_map]
    intro x hx y hy hmem
    have hdir := h.isDirectory_way (List.mem_flatMap.2 ⟨y, hy, hmem⟩)
    exact absurd (h.isFile_place hx) (by simp [isFile_of_isDirectory hdir])
  · simp only [List.forall_mem_map]
    exact fun x hx => (hstores x hx).2.1
  · simp only [List.forall_mem_map]
    exact fun x hx => (hstores x hx).2.2

end StoresAll

end FileTree

end WorkflowDocs
