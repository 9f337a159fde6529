import WorkflowDocs.Proofs.FileTree.Writing
import Mathlib.Data.List.Infix

/-!
# Room for files

Files can be written to a tree when no file stands on the way to one of them, no directory stands
at the place of one of them, and none of them is on the way to another. Making the directory of one
of the files, or writing it, keeps this so for all of them, and takes no directory away.

## Main definitions

* `Path.wayTo`: the places that lead to the directory of a path
* `FileTree.Storable`, `FileTree.HasRoom`: paths that files can have, and trees that take them
* `FileTree.Keeps`: changes that take no directory away

## Main results

* `FileTree.walk_of_keeps`: a directory is found again after such a change
* `FileTree.HasRoom.makeDirs`: the directory of a file can be made
* `FileTree.HasRoom.write`: a file can be written once its directory is there
* `FileTree.run_flatMap`: what each part of a change keeps, and that it succeeds, the whole does
-/

namespace WorkflowDocs

/-! ## Lengths of paths -/

namespace Text

theorem utf8ByteSize_joinWith_le_append (sep : String) (xs ys : List String) :
    (joinWith sep xs).utf8ByteSize ≤ (joinWith sep (xs ++ ys)).utf8ByteSize := by
  induction xs with
  | nil => simp [joinWith]
  | cons x xs ih =>
    cases xs with
    | nil => cases ys <;> simp [joinWith, Nat.add_assoc]
    | cons x' xs => simpa [joinWith] using ih

theorem utf8ByteSize_joinWith_append_le (sep : String) (xs ys : List String) :
    (joinWith sep ys).utf8ByteSize ≤ (joinWith sep (xs ++ ys)).utf8ByteSize := by
  induction xs with
  | nil => exact Nat.le_refl _
  | cons x xs ih =>
    refine Nat.le_trans ih ?_
    rw [List.cons_append]
    cases hrest : xs ++ ys with
    | nil => simp [joinWith]
    | cons y rest => simp [joinWith]

theorem utf8ByteSize_joinWith_of_infix (sep : String) {xs ys : List String} (h : xs <:+: ys) :
    (joinWith sep xs).utf8ByteSize ≤ (joinWith sep ys).utf8ByteSize := by
  obtain ⟨first, last, rfl⟩ := h
  exact Nat.le_trans (utf8ByteSize_joinWith_append_le sep first xs)
    (utf8ByteSize_joinWith_le_append sep (first ++ xs) last)

end Text

namespace Path

theorem utf8ByteSize_le_text (p : Path) :
    p.root.text.utf8ByteSize + (Text.joinWith "/" p.names).utf8ByteSize ≤ p.text.utf8ByteSize := by
  rw [text]
  split
  · rename_i hempty
    simp only [Bool.and_eq_true, decide_eq_true_eq, List.isEmpty_iff] at hempty
    simp [hempty.1, hempty.2, Root.text, Text.joinWith]
  · rw [String.utf8ByteSize_append]

/-- A path with part of the names of another, and no longer a root, is too long only if the other
is. -/
theorem isLong_eq_false_of_infix {p q : Path} (hnames : q.names <:+: p.names)
    (hroot : q.root.text.utf8ByteSize ≤ p.root.text.utf8ByteSize) (h : p.isLong = false) :
    q.isLong = false := by
  have hsize := Text.utf8ByteSize_joinWith_of_infix "/" hnames
  have hp := utf8ByteSize_le_text p
  rw [isLong, decide_eq_false_iff_not] at h ⊢
  rw [text]
  split
  · decide
  · rw [String.utf8ByteSize_append]
    omega

theorem utf8ByteSize_root_join (base p : Path) :
    p.root.text.utf8ByteSize ≤ (base.join p).root.text.utf8ByteSize := by
  rw [join]
  split
  · exact Nat.le_refl _
  · rename_i hrelative
    have hroot : p.root = .relative := by simpa [isAbsolute] using hrelative
    rw [hroot]
    exact Nat.zero_le _

theorem isLong_parent {p : Path} (h : p.isLong = false) : p.parent.isLong = false :=
  isLong_eq_false_of_infix (List.dropLast_prefix p.names).isInfix (Nat.le_refl _) h

end Path

/-- The places that are passed on the way to the directory of a path, from the root on. -/
def Path.wayTo (cwd p : Path) : List Place :=
  (cwd.join p.parent).names.inits.map Path.collapse

namespace FileTree

/-- A path that a file can have: each name is one that entries can have, and the path is not too
long. -/
structure Storable (cwd file : Path) : Prop where
  named : isEntryName file.name = true
  way : ∀ name ∈ (cwd.join file.parent).names, name = ".." ∨ isEntryName name = true
  short : (cwd.join file).isLong = false

/-- The tree takes the given files: none is in the way of another, and nothing that is there is in
the way of one of them. -/
structure HasRoom (t : FileTree) (cwd : Path) (files : List Path) : Prop where
  storable : ∀ file ∈ files, Storable cwd file
  apart : ∀ file ∈ files, ∀ other ∈ files, (Path.resolve cwd file).names ∉ Path.wayTo cwd other
  passable : ∀ file ∈ files, ∀ q ∈ Path.wayTo cwd file, t.isFile q = false
  free : ∀ file ∈ files, t.isDirectory (Path.resolve cwd file).names = false

/-- A change that takes no directory away. -/
def Keeps (t t' : FileTree) : Prop :=
  ∀ q, t.isDirectory q = true → t'.isDirectory q = true

theorem Keeps.trans {t t' t'' : FileTree} (h : Keeps t t') (h' : Keeps t' t'') : Keeps t t'' :=
  fun q hq => h' q (h q hq)

theorem isDirectory_of_get? {t : FileTree} {q : Place} (h : t.get? q = some .directory) :
    t.isDirectory q = true := by
  rw [isDirectory, h]
  rfl

theorem isFile_of_isDirectory {t : FileTree} {q : Place} (h : t.isDirectory q = true) :
    t.isFile q = false := by
  obtain ⟨e, he, hdir⟩ := (Option.any_eq_true ..).1 h
  rw [isFile, he, Option.any_some, hdir]
  rfl

theorem isFile_of_get? {t : FileTree} {q : Place} (h : t.get? q = some .directory) :
    t.isFile q = false :=
  isFile_of_isDirectory (isDirectory_of_get? h)

/-- The root is a directory. -/
theorem isDirectory_of_prefix_nil (t : FileTree) {q : Place} (h : q <+: []) :
    t.isDirectory q = true := by
  rw [List.prefix_nil.1 h]
  rfl

theorem isDirectory_of_isFile {t : FileTree} {q : Place} (h : (t.get? q).isSome = true)
    (hfile : t.isFile q = false) : t.isDirectory q = true := by
  obtain ⟨e, he⟩ := Option.isSome_iff_exists.1 h
  rw [isFile, he, Option.any_some] at hfile
  rw [isDirectory, he, Option.any_some]
  simpa using hfile

/-! ## Following names -/

/-- Where a name leads from a place. -/
def enter (here : Place) (name : String) : Place :=
  if name = ".." then here.dropLast else here ++ [name]

theorem collapseOnto_enter (here : Place) (name : String) (names : List String) :
    Path.collapseOnto (enter here name).reverse names =
      Path.collapseOnto here.reverse (name :: names) := by
  rw [Path.collapseOnto, enter]
  split
  · rw [List.tail_reverse]
  · rw [List.reverse_concat]

theorem collapseOnto_singleton (here : Place) (name : String) :
    Path.collapseOnto here.reverse [name] = enter here name := by
  rw [← collapseOnto_enter, Path.collapseOnto, List.reverse_reverse]

theorem walk_cons {t : FileTree} {here : Place} (h : t.isDirectory here = true) (name : String)
    (names : List String) : t.walk here (name :: names) = t.walk (enter here name) names := by
  rw [walk, h, enter]
  simp only [Bool.not_true, Bool.false_eq_true, if_false]
  split <;> rfl

theorem walk_nil {t : FileTree} {here : Place} (h : t.isDirectory here = true) :
    t.walk here [] = some here := by
  obtain ⟨e, he, -⟩ := (Option.any_eq_true ..).1 h
  rw [walk, he]
  rfl

theorem isDirectory_of_walk_cons {t : FileTree} {here place : Place} {name : String}
    {names : List String} (h : t.walk here (name :: names) = some place) :
    t.isDirectory here = true := by
  rw [walk] at h
  split at h
  · exact absurd h (by simp)
  · rename_i hhere
    simpa using hhere

/-- A directory that a path leads to is found again when none is taken away. -/
theorem walk_of_keeps {t t' : FileTree} (hkeep : Keeps t t') {here place : Place}
    {names : List String} (h : t.walk here names = some place)
    (hplace : t.isDirectory place = true) : t'.walk here names = some place := by
  induction names generalizing here with
  | nil =>
    obtain ⟨rfl, -⟩ := walk_eq_some h
    rw [Path.collapseOnto, List.reverse_reverse] at hplace ⊢
    exact walk_nil (hkeep _ hplace)
  | cons name names ih =>
    have hhere := isDirectory_of_walk_cons h
    rw [walk_cons hhere] at h
    rw [walk_cons (hkeep _ hhere)]
    exact ih h

/-- Names that lead through directories lead to one. -/
theorem exists_walk {t : FileTree} {here : Place} {names : List String}
    (h : ∀ part, part <+: names → t.isDirectory (Path.collapseOnto here.reverse part) = true) :
    ∃ place, t.walk here names = some place ∧ t.isDirectory place = true := by
  have hhere : t.isDirectory here = true := by
    have hempty := h [] List.nil_prefix
    rwa [Path.collapseOnto, List.reverse_reverse] at hempty
  induction names generalizing here with
  | nil => exact ⟨here, walk_nil hhere, hhere⟩
  | cons name names ih =>
    rw [walk_cons hhere]
    refine ih (fun part hpart => ?_) ?_
    · rw [collapseOnto_enter]
      exact h _ ((List.prefix_cons_inj name).2 hpart)
    · rw [← collapseOnto_singleton]
      exact h _ ((List.prefix_cons_inj name).2 List.nil_prefix)

/-! ## Making directories -/

/-- Making directories along names starts with the directory that the first name leads to: it is
there, or it is put there. A double dot leads to a directory that was passed before, and another
name into a directory below those. -/
theorem exists_makeDirsFrom?_cons {t : FileTree} {here : Place} {name : String}
    (hhere : ∀ q, q <+: here → t.isDirectory q = true)
    (hname : t.get? (enter here name) = none → name = ".." ∨ isEntryName name = true)
    (hnext : t.isFile (enter here name) = false) (names : List String) :
    ∃ u : FileTree, t.makeDirsFrom? here (name :: names) = u.makeDirsFrom? (enter here name) names ∧
      (∀ q, u.get? q = t.get? q ∨ u.get? q = some .directory ∧ q = enter here name) ∧
      ∀ q, q <+: enter here name → u.isDirectory q = true := by
  by_cases hdots : name = ".."
  · have hprefix : here.dropLast <+: here := List.dropLast_prefix here
    rw [enter, if_pos hdots]
    exact ⟨t, by rw [makeDirsFrom?, if_pos hdots], fun q => .inl rfl,
      fun q hq => hhere q (hq.trans hprefix)⟩
  · rw [enter, if_neg hdots] at hname hnext ⊢
    have hbelow : ∀ u : FileTree, u.get? (here ++ [name]) = some .directory → Keeps t u →
        ∀ q, q <+: here ++ [name] → u.isDirectory q = true := by
      intro u hu hkeep q hq
      rcases List.prefix_concat_iff.1 hq with rfl | hq
      · exact isDirectory_of_get? hu
      · exact hkeep q (hhere q hq)
    cases hget : t.get? (here ++ [name]) with
    | none =>
      have hput := get?_put t (List.append_ne_nil_of_right_ne_nil here (List.cons_ne_nil name []))
      refine ⟨t.put (here ++ [name]) .directory, ?_, fun q => ?_, hbelow _ ?_ fun q hq => ?_⟩
      · rw [makeDirsFrom?, if_neg hdots]
        simp only [hget, if_pos ((hname hget).resolve_left hdots)]
      · rw [hput]
        split
        · exact .inr ⟨rfl, ‹_›⟩
        · exact .inl rfl
      · rw [hput, if_pos rfl]
      · rw [isDirectory, hput]
        split
        · rfl
        · exact hq
    | some e =>
      cases e with
      | directory =>
        refine ⟨t, ?_, fun q => .inl rfl, hbelow t hget fun q hq => hq⟩
        rw [makeDirsFrom?, if_neg hdots]
        simp only [hget]
      | file content =>
        rw [isFile, hget] at hnext
        exact absurd hnext (by simp [Entry.isDirectory])

/-- Directories are made along names only if the first leads to no file, and to a place that a
directory can have. -/
theorem of_makeDirsFrom?_cons {t : FileTree} {here : Place} {name : String} {names : List String}
    {made : FileTree × Place} (hhere : ∀ q, q <+: here → t.isDirectory q = true)
    (h : t.makeDirsFrom? here (name :: names) = some made) :
    t.isFile (enter here name) = false ∧
      (t.get? (enter here name) = none → name = ".." ∨ isEntryName name = true) := by
  rw [makeDirsFrom?] at h
  rw [enter]
  by_cases hdots : name = ".."
  · rw [if_pos hdots]
    exact ⟨isFile_of_isDirectory (hhere _ (List.dropLast_prefix here)), fun _ => .inl hdots⟩
  · rw [if_neg hdots] at h ⊢
    cases hget : t.get? (here ++ [name]) with
    | none =>
      refine ⟨by rw [isFile, hget]; rfl, fun _ => .inr ?_⟩
      by_contra hentry
      simp [hget, hentry] at h
    | some e =>
      cases e with
      | directory => exact ⟨isFile_of_get? hget, fun hnone => absurd hnone (by simp)⟩
      | file content => simp [hget] at h

/-- Each name that leads to nothing, on the way from `here` along the names, is one that a directory
can have. -/
def Makeable (t : FileTree) (here : Place) (names : List String) : Prop :=
  ∀ part name, part ++ [name] <+: names →
    t.get? (Path.collapseOnto here.reverse (part ++ [name])) = none →
    name = ".." ∨ isEntryName name = true

theorem makeable_of_forall {t : FileTree} {here : Place} {names : List String}
    (h : ∀ name ∈ names, name = ".." ∨ isEntryName name = true) : t.Makeable here names := by
  intro part name hpart _
  exact h name (hpart.subset List.mem_concat_self)

theorem collapseOnto_concat (here : Place) (names : List String) (name : String) :
    Path.collapseOnto here.reverse (names ++ [name]) =
      enter (Path.collapseOnto here.reverse names) name := by
  rw [Path.collapseOnto_append, collapseOnto_singleton]

/-- The names along which directories were made could be made. A name that leads back to the first
directory is the first name again. -/
theorem makeable_of_makeDirsFrom? {t : FileTree} {here : Place} {names : List String}
    {made : FileTree × Place} (hhere : ∀ q, q <+: here → t.isDirectory q = true)
    (h : t.makeDirsFrom? here names = some made) : t.Makeable here names := by
  induction names generalizing t here with
  | nil => exact fun part name hpart => absurd (List.prefix_nil.1 hpart) (by simp)
  | cons first names ih =>
    obtain ⟨hnext, hfirst⟩ := of_makeDirsFrom?_cons hhere h
    obtain ⟨u, hmake, hput, hdirs⟩ := exists_makeDirsFrom?_cons hhere hfirst hnext names
    intro part name hpart hnone
    cases part with
    | nil =>
      obtain rfl : name = first := (List.cons_prefix_cons.1 hpart).1
      rw [List.nil_append, collapseOnto_singleton] at hnone
      exact hfirst hnone
    | cons other part =>
      obtain ⟨rfl, hrest⟩ := List.cons_prefix_cons.1 hpart
      rw [List.cons_append, ← collapseOnto_enter] at hnone
      rcases hput (Path.collapseOnto (enter here other).reverse (part ++ [name])) with
        hsame | ⟨-, hplace⟩
      · exact ih hdirs (hmake.symm.trans h) part name hrest (hsame.trans hnone)
      · rw [hplace] at hnone
        refine or_iff_not_imp_left.2 fun hdots => ?_
        have hother : other ≠ ".." := by
          rintro rfl
          rw [enter, if_pos rfl] at hnone
          have hdir := hhere _ (List.dropLast_prefix here)
          rw [isDirectory, hnone] at hdir
          exact absurd hdir (by simp)
        rw [collapseOnto_concat, enter, if_neg hdots, enter, if_neg hother] at hplace
        obtain ⟨-, rfl⟩ := List.append_singleton_inj.1 hplace
        exact (hfirst hnone).resolve_left hother

/-- Directories can be made along names when no file is at a place that they lead through. Nothing
else changes, and afterwards the names lead to a directory. The rest is made from the first
directory on, in the tree that has it. -/
theorem exists_makeDirsFrom? {t : FileTree} {here : Place} {names : List String}
    (hhere : ∀ q, q <+: here → t.isDirectory q = true) (hnames : t.Makeable here names)
    (hway : ∀ part, part <+: names → t.isFile (Path.collapseOnto here.reverse part) = false) :
    ∃ t' place, t.makeDirsFrom? here names = some (t', place) ∧
      (∀ q, t'.get? q = t.get? q ∨ t'.get? q = some .directory ∧
        ∃ part, part <+: names ∧ q = Path.collapseOnto here.reverse part) ∧
      t'.walk here names = some place ∧ t'.isDirectory place = true := by
  induction names generalizing t here with
  | nil =>
    have hdir := hhere here List.prefix_rfl
    exact ⟨t, here, rfl, fun q => .inl rfl, walk_nil hdir, hdir⟩
  | cons name names ih =>
    have hfirst : [name] <+: name :: names := (List.prefix_cons_inj name).2 List.nil_prefix
    have hnext := hway [name] hfirst
    have hname := hnames [] name hfirst
    rw [List.nil_append] at hname
    rw [collapseOnto_singleton] at hnext hname
    obtain ⟨u, hmake, hput, hdirs⟩ := exists_makeDirsFrom?_cons hhere hname hnext names
    have hrest : ∀ part, part <+: names →
        u.isFile (Path.collapseOnto (enter here name).reverse part) = false := by
      intro part hpart
      rcases hput (Path.collapseOnto (enter here name).reverse part) with h | ⟨h, -⟩
      · rw [isFile, h, collapseOnto_enter]
        exact hway _ ((List.prefix_cons_inj name).2 hpart)
      · exact isFile_of_get? h
    have hmakeable : u.Makeable (enter here name) names := by
      intro part other hpart hnone
      refine hnames (name :: part) other ((List.prefix_cons_inj name).2 hpart) ?_
      rcases hput (Path.collapseOnto (enter here name).reverse (part ++ [other])) with h | ⟨h, -⟩
      · rw [List.cons_append, ← collapseOnto_enter, ← h, hnone]
      · exact absurd (hnone.symm.trans h) (by simp)
    obtain ⟨t', place, hmade, hchange, hwalk, hdir⟩ :=
      ih hdirs hmakeable hrest
    have hall : ∀ q, t'.get? q = t.get? q ∨ t'.get? q = some .directory ∧
        ∃ part, part <+: name :: names ∧ q = Path.collapseOnto here.reverse part := by
      intro q
      rcases hchange q with h | ⟨h, part, hpart, rfl⟩
      · rw [h]
        refine (hput q).imp_right (And.imp_right fun hq => ⟨[name], hfirst, ?_⟩)
        rw [hq, collapseOnto_singleton]
      · exact .inr ⟨h, name :: part, (List.prefix_cons_inj name).2 hpart, collapseOnto_enter ..⟩
    have hhere' : t'.isDirectory here = true := by
      rcases hall here with h | ⟨h, -⟩
      · rw [isDirectory, h]
        exact hhere here List.prefix_rfl
      · exact isDirectory_of_get? h
    exact ⟨t', place, by rw [hmake, hmade], hall, by rw [walk_cons hhere', hwalk], hdir⟩

/-! ## Files that a tree has room for -/

section Room

variable {t t' : FileTree} {cwd : Path} {files : List Path}

/-- A change that makes directories on the way to some files, and puts files at their places. -/
def Built (cwd : Path) (files : List Path) (t t' : FileTree) : Prop :=
  ∀ q, t'.get? q = t.get? q ∨
    (t'.get? q = some .directory ∧ ∃ file ∈ files, q ∈ Path.wayTo cwd file) ∨
    ∃ content, t'.get? q = some (.file content) ∧ ∃ file ∈ files, q = (Path.resolve cwd file).names

/-- What is built leaves room for the files: no file of the list is put on the way to another, and
no directory is made where one of them goes. -/
theorem HasRoom.of_built (h : t.HasRoom cwd files) (hbuilt : Built cwd files t t') :
    t'.HasRoom cwd files where
  storable := h.storable
  apart := h.apart
  passable file hfile q hq := by
    rcases hbuilt q with hsame | ⟨hdir, -⟩ | ⟨content, -, other, hother, rfl⟩
    · rw [isFile, hsame]
      exact h.passable file hfile q hq
    · exact isFile_of_get? hdir
    · exact absurd hq (h.apart other hother file hfile)
  free file hfile := by
    rcases hbuilt (Path.resolve cwd file).names with hsame | ⟨-, other, hother, hq⟩ |
        ⟨content, hcontent, -⟩
    · rw [isDirectory, hsame]
      exact h.free file hfile
    · exact absurd hq (h.apart file hfile other hother)
    · rw [isDirectory, hcontent]
      rfl

theorem HasRoom.keeps_of_built (h : t.HasRoom cwd files) (hbuilt : Built cwd files t t') :
    Keeps t t' := by
  intro q hq
  rcases hbuilt q with hsame | ⟨hdir, -⟩ | ⟨content, -, file, hfile, rfl⟩
  · rwa [isDirectory, hsame]
  · exact isDirectory_of_get? hdir
  · rw [h.free file hfile] at hq
    exact absurd hq (by simp)

theorem join_parent {file : Path} (h : file.names ≠ []) :
    cwd.join file = (cwd.join file.parent).child file.name := by
  rw [← Path.join_child, Path.child_parent_name h]

theorem names_ne_nil_of_isEntryName {file : Path} (h : isEntryName file.name = true) :
    file.names ≠ [] := by
  intro hnil
  rw [Path.name, hnil] at h
  exact absurd h (by decide)

/-- The place of a file is the one of its name in the place of its directory. -/
theorem names_resolve_of_isEntryName {file : Path} (h : isEntryName file.name = true) :
    (Path.resolve cwd file).names = (Path.resolve cwd file.parent).names ++ [file.name] := by
  have hdots : file.name ≠ ".." := by
    intro hname
    rw [hname] at h
    exact absurd h (by decide)
  have hchild := Path.resolve_child hdots cwd file.parent
  rw [Path.child_parent_name (names_ne_nil_of_isEntryName h)] at hchild
  rw [hchild]
  rfl

theorem isLong_join_parent {file : Path} (hnames : file.names ≠ [])
    (h : (cwd.join file).isLong = false) : (cwd.join file.parent).isLong = false := by
  have hparent : (cwd.join file).parent = cwd.join file.parent := by
    rw [join_parent hnames, Path.parent, Path.child, List.dropLast_concat]
  rw [← hparent]
  exact Path.isLong_parent h

theorem Storable.names_ne_nil {file : Path} (h : Storable cwd file) : file.names ≠ [] :=
  names_ne_nil_of_isEntryName h.named

theorem Storable.names_resolve {file : Path} (h : Storable cwd file) :
    (Path.resolve cwd file).names = (Path.resolve cwd file.parent).names ++ [file.name] :=
  names_resolve_of_isEntryName h.named

theorem Storable.short_parent {file : Path} (h : Storable cwd file) :
    (cwd.join file.parent).isLong = false :=
  isLong_join_parent h.names_ne_nil h.short

/-- A path with part of the names of a path that a file can have, and no longer a root, is one that
something can stand at. -/
theorem Storable.fault?_of_infix {file p : Path} (h : Storable cwd file)
    (hnames : p.names <:+: (cwd.join file).names)
    (hroot : p.root.text.utf8ByteSize ≤ (cwd.join file).root.text.utf8ByteSize) :
    p.fault? = none := by
  have hfault : ∀ name ∈ p.names, Path.nameFault? name = none := by
    intro name hname
    have hmem := hnames.subset hname
    rw [join_parent h.names_ne_nil, Path.child, List.mem_append, List.mem_singleton] at hmem
    have hentry : name = ".." ∨ isEntryName name = true := by
      rcases hmem with hway | rfl
      · exact h.way name hway
      · exact .inr h.named
    rcases hentry with rfl | hentry
    · decide
    · rw [isEntryName, Bool.and_eq_true, Option.isNone_iff_eq_none] at hentry
      exact hentry.2
  have hname : ∀ name ∈ p.names, Path.hasZero name = false ∧ Path.isLongName name = false := by
    intro name hmem
    have h := hfault name hmem
    rw [Path.nameFault?] at h
    split at h
    · exact absurd h (by simp)
    · split at h
      · exact absurd h (by simp)
      · simp_all
  have hzero : p.names.any Path.hasZero = false :=
    List.any_eq_false.2 fun name hmem => by simp [(hname name hmem).1]
  have hlong : p.names.any Path.isLongName = false :=
    List.any_eq_false.2 fun name hmem => by simp [(hname name hmem).2]
  rw [Path.fault?, Path.isFollowable, hzero, hlong,
    Path.isLong_eq_false_of_infix hnames hroot h.short]
  rfl

/-- The directory of one of the files can be made, and there is room for the files as before. The
directories are put on the way to the file, and nowhere else. -/
theorem HasRoom.makeDirs (h : t.HasRoom cwd files) {file : Path} (hfile : file ∈ files) :
    ∃ t' dir, FileTree.makeDirs cwd file.parent t = some t' ∧ t'.HasRoom cwd files ∧ Keeps t t' ∧
      t'.locate? cwd file.parent = some dir ∧ t'.isDirectory dir = true := by
  have hstorable := h.storable file hfile
  have hway : ∀ part, part <+: (cwd.join file.parent).names →
      Path.collapse part ∈ Path.wayTo cwd file :=
    fun part hpart => List.mem_map_of_mem ((List.mem_inits _ _).2 hpart)
  obtain ⟨t', dir, hmade, hchange, hwalk, hdir⟩ :=
    exists_makeDirsFrom? (fun q => t.isDirectory_of_prefix_nil) (makeable_of_forall hstorable.way)
      (fun part hpart => h.passable file hfile _ (hway part hpart))
  have hbuilt : Built cwd files t t' := by
    intro q
    rcases hchange q with hsame | ⟨hq, part, hpart, rfl⟩
    · exact .inl hsame
    · exact .inr (.inl ⟨hq, file, hfile, hway part hpart⟩)
  refine ⟨t', dir, ?_, h.of_built hbuilt, h.keeps_of_built hbuilt, hwalk, hdir⟩
  rw [FileTree.makeDirs, makeDirs?, if_neg (by simp [hstorable.short_parent]), hmade]
  rfl

/-- One of the files can be written when its directory is there, and there is room for the files as
before. -/
theorem HasRoom.write (h : t.HasRoom cwd files) {file : Path} (hfile : file ∈ files) {dir : Place}
    (hlocate : t.locate? cwd file.parent = some dir) (hdir : t.isDirectory dir = true)
    (content : ByteArray) :
    ∃ t', FileTree.write cwd file content t = some t' ∧ t'.HasRoom cwd files ∧ Keeps t t' := by
  have hstorable := h.storable file hfile
  have hplace : (Path.resolve cwd file).names = dir ++ [file.name] := by
    rw [hstorable.names_resolve, (locate?_eq_some hlocate).1]
  have hfree : t.isDirectory (dir ++ [file.name]) = false := hplace ▸ h.free file hfile
  have hbuilt : Built cwd files t (t.put (dir ++ [file.name]) (.file content)) := by
    intro q
    rw [get?_put t (by simp)]
    split
    · rename_i hq
      exact .inr (.inr ⟨content, rfl, file, hfile, by rw [hq, hplace]⟩)
    · exact .inl rfl
  refine ⟨_, ?_, h.of_built hbuilt, h.keeps_of_built hbuilt⟩
  rw [FileTree.write, hlocate]
  simp [hstorable.named, hstorable.short, writeFile?, hdir, hfree]

end Room

/-! ## Whole changes -/

theorem run_cons_of_eq_some {step : Step} {t u : FileTree} (h : step t = some u)
    (steps : List Step) : run (step :: steps) t = run steps u := by
  rw [run, h]

theorem exists_of_run_cons {step : Step} {steps : List Step} {t : FileTree}
    (h : (run (step :: steps) t).2 = true) : ∃ u, step t = some u ∧ (run steps u).2 = true := by
  cases hstep : step t with
  | none => simp [run, hstep] at h
  | some u => exact ⟨u, rfl, by simpa [run, hstep] using h⟩

/-- A change that is complete was so up to each of its parts. -/
theorem run_append_eq_true {first second : List Step} {t : FileTree}
    (h : (run (first ++ second) t).2 = true) :
    (run first t).2 = true ∧ (run second (run first t).1).2 = true := by
  rw [run_append] at h
  split at h
  · exact ⟨‹_›, h⟩
  · exact absurd h ‹_›

/-- Each part of a change that is complete was so by itself. -/
theorem exists_run_of_flatMap {α : Type} {steps : α → List Step} {xs : List α} {t : FileTree}
    (h : (run (xs.flatMap steps) t).2 = true) {x : α} (hx : x ∈ xs) :
    ∃ u, (run (steps x) u).2 = true := by
  obtain ⟨before, after, rfl⟩ := List.append_of_mem hx
  rw [List.flatMap_append, List.flatMap_cons] at h
  exact ⟨_, (run_append_eq_true (run_append_eq_true h).2).1⟩

/-- A change is complete when each of its parts is, from any tree with a property that each part
keeps. -/
theorem run_flatMap {α : Type} {steps : α → List Step} {P : FileTree → Prop} {xs : List α}
    (hpart : ∀ x ∈ xs, ∀ t, P t → (run (steps x) t).2 = true ∧ P (run (steps x) t).1)
    {t : FileTree} (h : P t) :
    (run (xs.flatMap steps) t).2 = true ∧ P (run (xs.flatMap steps) t).1 := by
  induction xs generalizing t with
  | nil => exact ⟨rfl, h⟩
  | cons x xs ih =>
    obtain ⟨hfirst, hP⟩ := hpart x List.mem_cons_self t h
    rw [List.flatMap_cons, run_append, if_pos hfirst]
    exact ih (fun y hy => hpart y (List.mem_cons_of_mem _ hy)) hP

end FileTree

end WorkflowDocs
