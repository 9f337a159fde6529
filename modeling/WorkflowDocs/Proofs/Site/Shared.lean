import WorkflowDocs.Site.Generate
import WorkflowDocs.Proofs.FileTree.Effect

/-!
# The files that all pages use

Before the pages of a site are made, the directory of the files that all pages use is replaced. What
was in it is gone then, whether the path of the site led there before or not: if it did not, the
directory must not be there at all when it is made. So afterwards it holds these files and nothing
else, with the logo beside them if there is one. Outside of it, only the directories on the way to
the site are new.

## Main definitions

* `SiteJob.staticPlace`: the place of the directory
* `SiteJob.sharedEntries`: what is in it
* `SiteJob.sharedAt?`: what stands at a place when the files and the logo were copied
* `SiteJob.Copied`: the tree after the files were copied
* `SiteJob.logoFile?`: the file that is copied as the logo

## Main results

* `SiteJob.copied_of_copyAssets`: what replacing the directory does
* `SiteJob.exists_copyAssets`: a directory that is there can be replaced
* `SiteJob.Copied.get?_of_copyLogo`: what copying the logo does
* `SiteJob.exists_copyLogo`: a logo that was copied can be copied again
-/

namespace WorkflowDocs.SiteJob

open FileTree (run isEntryName)

variable {job : SiteJob} {cwd : Path} {assets : List (Place × Entry)} {t t' : FileTree} {q : Place}

/-- The place of the directory of the files that all pages use. -/
def staticPlace (job : SiteJob) (cwd : Path) : Place :=
  (Path.resolve cwd job.output).names ++ [staticName]

theorem parent_child (p : Path) (name : String) : (p.child name).parent = p := by
  rw [Path.parent, Path.child, List.dropLast_concat]

theorem names_resolve_staticDir :
    (Path.resolve cwd job.staticDir).names = job.staticPlace cwd := by
  rw [staticDir, Path.resolve_child (by decide)]
  rfl

theorem staticPlace_ne_nil : job.staticPlace cwd ≠ [] :=
  List.append_ne_nil_of_right_ne_nil _ (List.cons_ne_nil _ _)

/-- What is in the directory of the files that all pages use, by names that lead there from it: the
logo, the given files, and the directory itself. -/
def sharedEntries (assets : List (Place × Entry)) (logo : Option (String × ByteArray)) :
    List (Place × Entry) :=
  (logo.map fun l => ([l.1], Entry.file l.2)).toList ++ (assets ++ [([], .directory)])

/-- What stands at a place when the files that all pages use and the logo were copied: in their
directory there is nothing else, the places on the way to the site are directories, and the others
are as before. -/
def sharedAt? (job : SiteJob) (cwd : Path) (assets : List (Place × Entry))
    (logo : Option (String × ByteArray)) (t : FileTree) (q : Place) : Option Entry :=
  if job.staticPlace cwd <+: q then
    (sharedEntries assets logo).lookup (q.drop (job.staticPlace cwd).length)
  else FileTree.wayAt? (Path.passed cwd job.output) (t.get? q) q

/-- Entries that a directory can hold: none stands twice or in place of the directory, and all have
names that entries can have. -/
structure Stock (assets : List (Place × Entry)) : Prop where
  nodup : (assets.map (·.1)).Nodup
  proper : [] ∉ assets.map (·.1)
  entryNames : ∀ names ∈ assets.map (·.1), ∀ name ∈ names, isEntryName name = true

theorem stock_assetsOf (content : Place → ByteArray) : Stock (assetsOf content) := by
  have hnames : (assetsOf content).map (·.1) = scriptDir :: assetNames := by
    rw [assetsOf, List.map_cons, List.map_map]
    exact congrArg _ (List.map_id _)
  refine ⟨?_, ?_, ?_⟩ <;> rw [hnames] <;> decide

/-- The tree with the files that all pages use in their directory, and with the directory of the
site. -/
structure Copied (job : SiteJob) (cwd : Path) (assets : List (Place × Entry)) (t t' : FileTree) :
    Prop where
  answerable : t.isUnanswerable cwd job.staticDir = false
  fits : assets.all (job.takesAsset cwd) = true
  apart : job.staticPlace cwd ∉ Path.passed cwd job.output
  passable : ∀ q ∈ Path.passed cwd job.output, t.isFile q = false
  way : ∀ name ∈ (cwd.join job.output).names, name = ".." ∨ isEntryName name = true
  get?_eq : ∀ q, t'.get? q = job.sharedAt? cwd assets none t q

/-! ## Replacing the directory -/

/-- After the directory was taken away, nothing is left at and below its place, or the path did not
lead there. -/
theorem get?_of_clearSteps (h : run (clearSteps cwd job.staticDir t) t = (t', true)) :
    (t.locate? cwd job.staticDir = none ∧ t' = t) ∨
      ∀ q, t'.get? q = if job.staticPlace cwd <+: q then none else t.get? q := by
  rw [clearSteps] at h
  split at h
  · exact .inl ⟨‹_›, (Prod.mk.inj h).1.symm⟩
  · rename_i place hplace
    obtain rfl := (FileTree.locate?_eq_some hplace).1.trans names_resolve_staticDir
    obtain ⟨u, hclear, -⟩ := FileTree.exists_of_run_cons (congrArg Prod.snd h)
    rw [FileTree.run_cons_of_eq_some hclear] at h
    obtain ⟨v, hremove, -⟩ := FileTree.exists_of_run_cons (congrArg Prod.snd h)
    rw [FileTree.run_cons_of_eq_some hremove] at h
    obtain ⟨rfl, -⟩ := Prod.mk.inj h
    obtain ⟨-, hclear⟩ := Option.ite_none_right_eq_some.1 hclear
    obtain ⟨-, hremove⟩ := Option.ite_none_right_eq_some.1 hremove
    obtain rfl := Option.some.inj hclear
    obtain rfl := Option.some.inj hremove
    refine .inr fun q => ?_
    rw [FileTree.get?_remove _ staticPlace_ne_nil, FileTree.get?_clear]
    split
    · rfl
    · rw [if_neg fun hbelow => ‹¬ _› hbelow.1]

theorem run_of_copyAssets (h : job.copyAssets cwd t = some t') :
    run (job.assetSteps cwd t) t = (t', true) := by
  rw [copyAssets] at h
  split at h
  · rename_i heq
    rw [heq, Option.some.inj h]
  · exact absurd h (by simp)

/-- The parts of a complete run of `assetSteps`. -/
theorem exists_of_copyAssets (h : job.copyAssets cwd t = some t') :
    ∃ assets u v w, job.assets = some assets ∧
      t.isUnanswerable cwd job.staticDir = false ∧
      run (clearSteps cwd job.staticDir t) t = (u, true) ∧
      run (job.output.lineage.map (FileTree.makeDirs cwd)) u = (v, true) ∧
      job.makeStatic cwd v = some w ∧ job.putAssets cwd assets w = some t' ∧
      assets.all (job.takesAsset cwd) = true := by
  have hrun := run_of_copyAssets h
  rw [assetSteps] at hrun
  split at hrun
  · exact absurd (congrArg Prod.snd hrun) (by simp [run])
  · rename_i assets hassets
    rw [List.append_assoc, List.append_assoc, List.singleton_append] at hrun
    obtain ⟨t₀, hanswer, -⟩ := FileTree.exists_of_run_cons (congrArg Prod.snd hrun)
    rw [FileTree.run_cons_of_eq_some hanswer] at hrun
    obtain ⟨hanswered, rfl⟩ : t.isUnanswerable cwd job.staticDir = false ∧ t = t₀ := by
      simpa using hanswer
    have hfirst := FileTree.run_append_eq_true (congrArg Prod.snd hrun)
    rw [FileTree.run_append, if_pos hfirst.1] at hrun
    have hsecond := FileTree.run_append_eq_true hfirst.2
    rw [FileTree.run_append, if_pos hsecond.1] at hrun
    obtain ⟨w, hstatic, -⟩ := FileTree.exists_of_run_cons (congrArg Prod.snd hrun)
    rw [FileTree.run_cons_of_eq_some hstatic] at hrun
    obtain ⟨x, hput, -⟩ := FileTree.exists_of_run_cons (congrArg Prod.snd hrun)
    rw [FileTree.run_cons_of_eq_some hput] at hrun
    obtain ⟨y, hfits, -⟩ := FileTree.exists_of_run_cons (congrArg Prod.snd hrun)
    rw [FileTree.run_cons_of_eq_some hfits] at hrun
    obtain ⟨rfl, -⟩ := Prod.mk.inj hrun
    obtain ⟨hall, hsame⟩ := Option.ite_none_right_eq_some.1 hfits
    obtain rfl := Option.some.inj hsame
    exact ⟨assets, _, _, w, hassets, hanswered, Prod.ext rfl hfirst.1, Prod.ext rfl hsecond.1,
      hstatic, hput, hall⟩

/-- The directory is made where nothing stood before. -/
theorem makeStatic_eq_some (h : job.makeStatic cwd t = some t') :
    t.get? (job.staticPlace cwd) = none ∧ t' = t.put (job.staticPlace cwd) .directory := by
  obtain ⟨site, hsite, h⟩ := Option.bind_eq_some_iff.1 h
  obtain ⟨hfree, hput⟩ := Option.ite_none_right_eq_some.1 h
  obtain rfl := (FileTree.locate?_eq_some hsite).1
  rw [Bool.and_eq_true, Option.isNone_iff_eq_none] at hfree
  exact ⟨hfree.2, (Option.some.inj hput).symm⟩

theorem putAssets_eq_some (hfits : assets.all (job.takesAsset cwd) = true)
    (h : job.putAssets cwd assets t = some t') :
    t' = assets.foldl (fun t a => t.put (job.staticPlace cwd ++ a.1) a.2) t := by
  obtain ⟨dir, hdir, h⟩ := Option.bind_eq_some_iff.1 h
  obtain rfl := Option.some.inj h
  rw [(FileTree.locate?_eq_some hdir).1, names_resolve_staticDir,
    List.filter_eq_self.2 (List.all_eq_true.1 hfits)]

/-- **Copying the files that all pages use.** Their directory holds these files and nothing else,
the places on the way to the site are directories, and nothing else changes. Nothing stands at the
place of the directory when it is made, so nothing is below it either. -/
theorem copied_of_copyAssets (hclosed : t.ClosedAt (job.staticPlace cwd)) (hnamed : t.Named)
    (hassets : job.assets = some assets) (hstock : Stock assets)
    (h : job.copyAssets cwd t = some t') : Copied job cwd assets t t' := by
  obtain ⟨assets', u, v, w, hassets', hanswer, hclear, hmade, hstatic, hput, hfits⟩ :=
    exists_of_copyAssets h
  obtain rfl : assets' = assets := Option.some.inj (hassets'.symm.trans hassets)
  obtain ⟨hfree, rfl⟩ := makeStatic_eq_some hstatic
  obtain rfl := putAssets_eq_some hfits hput
  have hcleared := get?_of_clearSteps hclear
  have hu : ∀ q, ¬ job.staticPlace cwd <+: q → u.get? q = t.get? q := by
    intro q hq
    rcases hcleared with ⟨-, rfl⟩ | hremoved
    · rfl
    · rw [hremoved, if_neg hq]
  have hnamed' : u.Named := by
    intro q hq
    rcases hcleared with ⟨-, rfl⟩ | hremoved
    · exact hnamed q hq
    · rw [hremoved] at hq
      split at hq
      · exact absurd hq (by simp)
      · exact hnamed q hq
  obtain ⟨hfiles, hmakes⟩ := FileTree.run_makeDirs hmade
  simp only [Path.mem_flatMap_passed_lineage] at hfiles
  have hv : ∀ q, v.get? q = FileTree.wayAt? (Path.passed cwd job.output) (u.get? q) q :=
    fun q => (hmakes q).trans (FileTree.wayAt?_congr Path.mem_flatMap_passed_lineage)
  have hapart : job.staticPlace cwd ∉ Path.passed cwd job.output := by
    intro hmem
    rw [hv, FileTree.wayAt?_of_mem hmem] at hfree
    exact absurd hfree (by simp)
  have hempty : ∀ q, job.staticPlace cwd <+: q → v.get? q = none := by
    intro q hq
    have hpassed : q ∉ Path.passed cwd job.output :=
      fun hmem => hapart (Path.mem_passed_of_begins hmem hq)
    rw [hv, FileTree.wayAt?_of_not_mem hpassed]
    rcases hcleared with ⟨-, rfl⟩ | hremoved
    · rw [hv, FileTree.wayAt?_of_not_mem hapart] at hfree
      exact hclosed hfree q hq
    · rw [hremoved, if_pos hq]
  have hnil : job.staticPlace cwd ≠ [] := staticPlace_ne_nil
  obtain ⟨hbelow, houtside⟩ := FileTree.get?_foldl_put hnil hstock.nodup
    (v.put (job.staticPlace cwd) .directory)
  have hstaticPut := FileTree.get?_put v hnil
  refine ⟨hanswer, hfits, hapart, fun q hq => ?_, ?_, fun q => ?_⟩
  · rw [← FileTree.isFile_of_eq (hu q fun hbelow => hapart (Path.mem_passed_of_begins hq hbelow))]
    exact hfiles q hq
  · refine FileTree.isEntryName_of_run_makeDirs hnamed' hmade ?_
    refine List.mem_map.2 ⟨_, List.mem_range.2 (Nat.lt_succ_self _), ?_⟩
    rw [List.take_length]
  · rw [sharedAt?]
    split
    · rename_i hq
      have hnone := hempty q hq
      obtain ⟨r, rfl⟩ := hq
      rw [hbelow, List.drop_left, sharedEntries, Option.map_none, Option.toList_none,
        List.nil_append, List.lookup_append, hstaticPut, hnone]
      by_cases hr : r = []
      · rw [hr, List.append_nil, if_pos rfl]
        rfl
      · have hlookup : List.lookup r [([], Entry.directory)] = none := by
          rw [List.lookup_eq_none_iff]
          simpa using hr
        rw [if_neg fun heq => hr (List.append_right_eq_self.1 heq), hlookup]
    · rename_i hq
      have hne : q ≠ job.staticPlace cwd := by
        rintro rfl
        exact hq List.prefix_rfl
      rw [houtside q hq, hstaticPut, if_neg hne, hv, hu q hq]

/-! ## Replacing it again -/

theorem nameFault?_of_isEntryName {name : String} (h : name = ".." ∨ isEntryName name = true) :
    Path.hasZero name = false ∧ Path.isLongName name = false := by
  rcases h with rfl | h
  · decide
  · rw [isEntryName, Bool.and_eq_true, Option.isNone_iff_eq_none, Path.nameFault?] at h
    have hfault := h.2
    split at hfault
    · exact absurd hfault (by simp)
    · split at hfault
      · exact absurd hfault (by simp)
      · exact ⟨by simpa using ‹¬ Path.hasZero name = true›,
          by simpa using ‹¬ Path.isLongName name = true›⟩

theorem meetsLongName_of_names {here : Place} {names : List String}
    (h : ∀ name ∈ names, name = ".." ∨ isEntryName name = true) :
    t.meetsLongName here names = false := by
  induction names generalizing here with
  | nil => rfl
  | cons name names ih =>
    obtain ⟨hname, hnames⟩ := List.forall_mem_cons.1 h
    rw [FileTree.meetsLongName]
    split
    · rfl
    · split
      · exact ih hnames
      · rw [ih hnames, (nameFault?_of_isEntryName hname).2]
        rfl

/-- Names that entries can have leave only the length of the path to ask about. -/
theorem isUnanswerable_of_names {p : Path}
    (h : ∀ name ∈ (cwd.join p).names, name = ".." ∨ isEntryName name = true) :
    t.isUnanswerable cwd p = (cwd.join p).isLong := by
  have hfollow : (cwd.join p).isFollowable = true := by
    rw [Path.isFollowable, Bool.not_eq_true', List.any_eq_false]
    intro name hname
    rw [(nameFault?_of_isEntryName (h name hname)).1]
    exact Bool.false_ne_true
  rw [FileTree.isUnanswerable, hfollow, meetsLongName_of_names h, Bool.or_false]
  rfl

/-- The path of the directory is not too long, so that it can be asked about in every tree. -/
theorem Copied.isUnanswerable_staticDir (h : Copied job cwd assets t t') (u : FileTree) :
    u.isUnanswerable cwd job.staticDir = false ∧ (cwd.join job.output).isLong = false := by
  have hnames : (cwd.join job.staticDir).names = (cwd.join job.output).names ++ [staticName] := by
    rw [staticDir, Path.join_child]
    rfl
  have hway : ∀ name ∈ (cwd.join job.staticDir).names, name = ".." ∨ isEntryName name = true := by
    rw [hnames, List.forall_mem_append]
    exact ⟨h.way, by simpa using by decide⟩
  have hshort := h.answerable
  rw [isUnanswerable_of_names hway] at hshort ⊢
  refine ⟨hshort, Path.isLong_eq_false_of_infix ?_ (Nat.le_of_eq ?_) hshort⟩
  · rw [hnames]
    exact (List.prefix_append _ _).isInfix
  · rw [staticDir, Path.join_child]
    rfl

/-- The places that are passed on the way into a directory are those on the way to it, and its
own. -/
theorem mem_passed_child {p : Path} {name : String} (hname : name ≠ "..") :
    q ∈ Path.passed cwd (p.child name) ↔
      q ∈ Path.passed cwd p ∨ q = (Path.resolve cwd (p.child name)).names := by
  have hnames : (cwd.join (p.child name)).names = (cwd.join p).names ++ [name] := by
    rw [Path.join_child]
    rfl
  rw [Path.mem_passed, Path.mem_passed, Path.resolve_child hname, hnames]
  constructor
  · rintro ⟨part, hpart, rfl⟩
    rcases List.prefix_concat_iff.1 hpart with rfl | hpart
    · exact .inr (Path.collapse_append_of_not_mem _ (by simpa using hname.symm))
    · exact .inl ⟨part, hpart, rfl⟩
  · rintro (⟨part, hpart, rfl⟩ | rfl)
    · exact ⟨part, hpart.trans (List.prefix_append _ _), rfl⟩
    · exact ⟨_, List.prefix_rfl, Path.collapse_append_of_not_mem _ (by simpa using hname.symm)⟩

theorem mem_passed_staticDir :
    q ∈ Path.passed cwd job.staticDir ↔
      q ∈ Path.passed cwd job.output ∨ q = job.staticPlace cwd := by
  rw [← names_resolve_staticDir]
  exact mem_passed_child (by decide)

/-- The directory of the site and those on the way to it are there, and so is the directory of the
files that all pages use. -/
def HasStatic (job : SiteJob) (cwd : Path) (t : FileTree) : Prop :=
  ∀ q ∈ Path.passed cwd job.staticDir, t.isDirectory q = true

theorem HasStatic.locate? (h : job.HasStatic cwd t) :
    t.locate? cwd job.staticDir = some (job.staticPlace cwd) := by
  rw [FileTree.locate?_of_passed h, names_resolve_staticDir]

/-- **Replacing the directory.** One that is there can be replaced, if the path of the site does not
lead through it and the paths of the files are not too long. The way to the site stays there when
the directory is emptied and taken away. -/
theorem exists_copyAssets (hassets : job.assets = some assets)
    (hfits : assets.all (job.takesAsset cwd) = true)
    (hanswer : t.isUnanswerable cwd job.staticDir = false)
    (hshort : (cwd.join job.output).isLong = false)
    (hapart : job.staticPlace cwd ∉ Path.passed cwd job.output) (h : job.HasStatic cwd t) :
    ∃ t', job.copyAssets cwd t = some t' := by
  have hbelow : ∀ q ∈ Path.passed cwd job.output, ¬ job.staticPlace cwd <+: q :=
    fun q hq hprefix => hapart (Path.mem_passed_of_begins hq hprefix)
  have hstatic := h _ (mem_passed_staticDir.2 (.inr rfl))
  have hcleared : job.HasStatic cwd (t.clear (job.staticPlace cwd)) := by
    intro q hq
    rw [FileTree.isDirectory_of_eq (t := t)]
    · exact h q hq
    · rw [FileTree.get?_clear, if_neg]
      rintro ⟨hbegins, hne⟩
      exact hbelow q ((mem_passed_staticDir.1 hq).resolve_right hne) hbegins
  let u := (t.clear (job.staticPlace cwd)).remove (job.staticPlace cwd)
  have hu : ∀ q, u.get? q =
      if job.staticPlace cwd <+: q then none else (t.clear (job.staticPlace cwd)).get? q :=
    FileTree.get?_remove _ staticPlace_ne_nil
  have hway : ∀ q ∈ Path.passed cwd job.output, u.isDirectory q = true := by
    intro q hq
    rw [FileTree.isDirectory_of_eq ((hu q).trans (if_neg (hbelow q hq)))]
    exact hcleared q (mem_passed_staticDir.2 (.inl hq))
  have hclear : run (clearSteps cwd job.staticDir t) t = (u, true) := by
    rw [clearSteps, h.locate?]
    simp only [run, if_pos hstatic, hcleared.locate?, if_true]
    rfl
  have hmade : run (job.output.lineage.map (FileTree.makeDirs cwd)) u = (u, true) := by
    refine FileTree.run_eq_of_forall fun step hstep => ?_
    obtain ⟨dir, hdir, rfl⟩ := List.mem_map.1 hstep
    refine FileTree.makeDirs_of_passed (Path.isLong_of_mem_lineage hdir hshort) fun q hq => ?_
    exact hway q (Path.mem_flatMap_passed_lineage.1 (List.mem_flatMap.2 ⟨dir, hdir, hq⟩))
  have hmake : job.makeStatic cwd u = some (u.put (job.staticPlace cwd) .directory) := by
    have hfree : u.get? (job.staticPlace cwd) = none := by rw [hu, if_pos List.prefix_rfl]
    have hsite := hway _ (Path.resolve_mem_passed cwd job.output)
    rw [staticPlace] at hfree
    rw [makeStatic, FileTree.locate?_of_passed hway]
    simp [hsite, hfree, staticPlace]
  have hthere : job.HasStatic cwd (u.put (job.staticPlace cwd) .directory) := by
    intro q hq
    rw [FileTree.isDirectory, FileTree.get?_put _ staticPlace_ne_nil]
    split
    · rfl
    · exact hway q ((mem_passed_staticDir.1 hq).resolve_right ‹_›)
  obtain ⟨v, hput⟩ : ∃ v, job.putAssets cwd assets (u.put (job.staticPlace cwd) .directory) =
      some v := by
    rw [putAssets, hthere.locate?]
    exact ⟨_, rfl⟩
  refine ⟨v, ?_⟩
  have hrun : run (job.assetSteps cwd t) t = (v, true) := by
    simp only [assetSteps, hassets, List.append_assoc]
    rw [List.singleton_append, FileTree.run_cons_of_eq_some (u := t) (by simp [hanswer]),
      FileTree.run_append_of_eq hclear, FileTree.run_append_of_eq hmade,
      FileTree.run_cons_of_eq_some hmake, FileTree.run_cons_of_eq_some hput,
      FileTree.run_cons_of_eq_some (u := v) (if_pos hfits)]
    rfl
  rw [copyAssets, hrun]

/-! ## The logo -/

/-- The name and the content of the file that is copied as the logo, if the path of the logo leads
to a file. -/
def logoFile? (job : SiteJob) (cwd : Path) (t : FileTree) : Option (String × ByteArray) := do
  let logo ← job.logo
  let place ← t.locate? cwd logo
  let content ← t.read? place
  return ("custom-logo" ++ logo.suffix, content)

/-- The logo is copied if it is there, and otherwise nothing happens. -/
theorem copyLogo_cases (h : job.copyLogo cwd t = some t') :
    job.logo.any (t.isUnanswerable cwd) = false ∧
    ((job.logoName cwd t = none ∧ job.logoFile? cwd t = none ∧ t' = t) ∨
      ∃ name content, job.logoName cwd t = some name ∧
        job.logoFile? cwd t = some (name, content) ∧
        FileTree.write cwd (job.staticDir.child name) content t = some t') := by
  rw [copyLogo] at h
  split at h
  · exact absurd h (by simp)
  · rename_i hanswer
    refine ⟨by simpa using hanswer, ?_⟩
    split at h
    · rename_i logo name hlogo hname
      simp only [Option.bind_eq_bind, Option.bind_eq_some_iff] at h
      obtain ⟨place, hplace, content, hcontent, hwrite⟩ := h
      have hfound : t.pathExists cwd logo = true := by rw [FileTree.pathExists, hplace]; rfl
      obtain rfl : "custom-logo" ++ logo.suffix = name := by
        simpa [logoName, hlogo, Option.filter, hfound] using hname
      exact .inr ⟨_, content, hname, by simp [logoFile?, hlogo, hplace, hcontent], hwrite⟩
    · rename_i hnone
      obtain rfl := Option.some.inj h
      refine .inl ?_
      cases hlogo : job.logo with
      | none => simp [logoName, logoFile?, hlogo]
      | some logo =>
        have hname : job.logoName cwd t = none :=
          Option.eq_none_iff_forall_not_mem.2 fun name hname => hnone logo name hlogo hname
        have hlost : t.locate? cwd logo = none := by
          cases hplace : t.locate? cwd logo with
          | none => rfl
          | some place =>
            simp [logoName, hlogo, Option.filter, FileTree.pathExists, hplace] at hname
        exact ⟨hname, by simp [logoFile?, hlogo, hlost], rfl⟩

theorem exists_of_logoFile? {name : String} {content : ByteArray}
    (h : job.logoFile? cwd t = some (name, content)) :
    ∃ logo place, job.logo = some logo ∧ t.locate? cwd logo = some place ∧
      t.read? place = some content ∧ name = "custom-logo" ++ logo.suffix := by
  simp only [logoFile?, Option.bind_eq_bind, Option.bind_eq_some_iff] at h
  obtain ⟨logo, hlogo, place, hplace, found, hread, heq⟩ := h
  obtain ⟨rfl, rfl⟩ := Prod.mk.inj (Option.some.inj heq)
  exact ⟨logo, place, hlogo, hplace, hread, rfl⟩

/-- The copy of the logo stands in the directory of the files that all pages use. -/
theorem names_resolve_logo {name : String} {content : ByteArray}
    (h : job.logoFile? cwd t = some (name, content)) :
    (Path.resolve cwd (job.staticDir.child name)).names = job.staticPlace cwd ++ [name] := by
  have hdots : name ≠ ".." := by
    obtain ⟨logo, -, -, -, -, rfl⟩ := exists_of_logoFile? h
    intro hdots
    have hfirst : ("custom-logo" ++ logo.suffix).toList.head? = some 'c' := by simp
    rw [hdots] at hfirst
    exact absurd hfirst (by decide)
  rw [Path.resolve_child hdots, ← names_resolve_staticDir]
  rfl

namespace Copied

variable {shared base : FileTree} (h : Copied job cwd assets t shared)

include h

/-- The directories on the way to the files that all pages use are there. -/
theorem hasStatic (hstock : Stock assets) : job.HasStatic cwd shared := by
  intro q hq
  rw [FileTree.isDirectory, h.get?_eq, sharedAt?]
  rcases mem_passed_staticDir.1 hq with hpassed | rfl
  · rw [if_neg fun hbelow => h.apart (Path.mem_passed_of_begins hpassed hbelow),
      FileTree.wayAt?_of_mem hpassed]
    rfl
  · have hnone : assets.lookup [] = none := by
      rw [List.lookup_eq_none_iff]
      intro x hx
      have hne : [] ≠ x.1 := fun heq => hstock.proper (heq ▸ List.mem_map_of_mem hx)
      simpa using hne
    rw [if_pos List.prefix_rfl, List.drop_length, sharedEntries, Option.map_none,
      Option.toList_none, List.nil_append, List.lookup_append, hnone]
    rfl

theorem named (hstock : Stock assets) (hnamed : t.Named) : shared.Named := by
  intro q hq name hname
  rw [h.get?_eq, sharedAt?] at hq
  split at hq
  · rename_i hbelow
    obtain ⟨r, rfl⟩ := hbelow
    rw [List.drop_left] at hq
    rcases List.mem_append.1 hname with hname | hname
    · rcases List.mem_append.1 hname with hname | hname
      · exact FileTree.isEntryName_of_mem_passed h.way (Path.resolve_mem_passed cwd _) name hname
      · rw [List.mem_singleton.1 hname]
        decide
    · obtain ⟨x, hx, heq⟩ := List.lookup_isSome_iff.1 hq
      obtain rfl : r = x.1 := by simpa using heq
      rcases List.mem_append.1 hx with hx | hx
      · exact absurd hx (by simp)
      · rcases List.mem_append.1 hx with hx | hx
        · exact hstock.entryNames x.1 (List.mem_map_of_mem hx) name hname
        · rw [List.mem_singleton.1 hx] at hname
          exact absurd hname List.not_mem_nil
  · rw [FileTree.wayAt?] at hq
    split at hq
    · exact FileTree.isEntryName_of_mem_passed h.way ‹_› name hname
    · exact hnamed q hq name hname

/-- **Copying the logo.** Its copy stands with the files that all pages use, and nothing else
changes. -/
theorem get?_of_copyLogo (hlogo : job.copyLogo cwd shared = some base) (q : Place) :
    base.get? q = job.sharedAt? cwd assets (job.logoFile? cwd shared) t q := by
  obtain ⟨-, ⟨-, hfile, rfl⟩ | ⟨name, content, -, hfile, hwrite⟩⟩ := copyLogo_cases hlogo
  · rw [hfile, h.get?_eq]
  · obtain ⟨hne, rfl⟩ := FileTree.write_eq_some hwrite
    rw [names_resolve_logo hfile] at hne ⊢
    rw [FileTree.get?_put _ hne, h.get?_eq, hfile, sharedAt?, sharedAt?]
    by_cases hbelow : job.staticPlace cwd <+: q
    · obtain ⟨r, rfl⟩ := hbelow
      have hprefix := List.prefix_append (job.staticPlace cwd) r
      rw [if_pos hprefix, if_pos hprefix, List.drop_left]
      simp only [sharedEntries, Option.map_some, Option.toList_some, Option.map_none,
        Option.toList_none, List.nil_append, List.singleton_append, List.lookup_cons]
      by_cases hr : r = [name]
      · simp [hr]
      · have hbeq : (r == [name]) = false := by simpa using hr
        rw [hbeq, if_neg fun heq => hr (List.append_cancel_left heq)]
    · have hother : q ≠ job.staticPlace cwd ++ [name] := by
        rintro rfl
        exact hbelow (List.prefix_append _ _)
      rw [if_neg hother, if_neg hbelow, if_neg hbelow]

/-- Copying the logo leaves files files and directories directories. -/
theorem kinds_of_copyLogo (hstock : Stock assets) (hnamed : t.Named)
    (hlogo : job.copyLogo cwd shared = some base) :
    (shared.isDirectory q = true → base.isDirectory q = true) ∧
      (shared.isFile q = true → base.isFile q = true) := by
  obtain ⟨-, ⟨-, -, rfl⟩ | ⟨name, content, -, -, hwrite⟩⟩ := copyLogo_cases hlogo
  · exact ⟨id, id⟩
  · have hstores := FileTree.stores_of_write (h.named hstock hnamed) hwrite
    exact ⟨hstores.isDirectory, hstores.isFile⟩

theorem named_of_copyLogo (hstock : Stock assets) (hnamed : t.Named)
    (hlogo : job.copyLogo cwd shared = some base) : base.Named := by
  have hshared := h.named hstock hnamed
  obtain ⟨-, ⟨-, -, rfl⟩ | ⟨name, content, -, -, hwrite⟩⟩ := copyLogo_cases hlogo
  · exact hshared
  · exact (FileTree.stores_of_write hshared hwrite).named hshared

end Copied

/-- A logo that was copied to one tree can be copied to another in which its path leads to the same
file, if the directory of the files that all pages use holds the same. -/
theorem exists_copyLogo {u : FileTree} (h : job.copyLogo cwd t = some t')
    (hanswer : job.logo.any (u.isUnanswerable cwd) = false)
    (hname : job.logoName cwd u = job.logoName cwd t)
    (hfile : job.logoFile? cwd u = job.logoFile? cwd t) (hstatic : job.HasStatic cwd u)
    (hsame : ∀ r, u.get? (job.staticPlace cwd ++ r) = t.get? (job.staticPlace cwd ++ r)) :
    ∃ u', job.copyLogo cwd u = some u' := by
  obtain ⟨-, ⟨hnone, -, rfl⟩ | ⟨name, content, hsome, hcontent, hwrite⟩⟩ := copyLogo_cases h
  · refine ⟨u, ?_⟩
    rw [copyLogo, hanswer, hname, hnone]
    simp
  · rw [hcontent] at hfile
    have hplace := names_resolve_logo hcontent
    have hfree : u.isDirectory (Path.resolve cwd (job.staticDir.child name)).names = false := by
      obtain ⟨dir, -, -, -, hdir, hfree⟩ := FileTree.exists_of_write hwrite
      rw [hplace, FileTree.isDirectory_of_eq (hsame [name]), ← hplace, hdir]
      exact hfree
    have hway : ∀ q ∈ Path.wayTo cwd (job.staticDir.child name), u.isDirectory q = true := by
      intro q hq
      refine hstatic q ?_
      rwa [Path.wayTo, parent_child] at hq
    obtain ⟨u', hu'⟩ := FileTree.exists_write hwrite hway hfree
    obtain ⟨logo, place, hlogo, hlocate, hread, -⟩ := exists_of_logoFile? hfile
    refine ⟨u', ?_⟩
    rw [copyLogo, hanswer, hname, hsome, hlogo]
    simp [hlocate, hread, hu']

end WorkflowDocs.SiteJob
