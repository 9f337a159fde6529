import WorkflowDocs.Proofs.Site.Pages

/-!
# Two notions of third-party sources

A project takes a file as third-party when it lies outside the root or in a directory that is
configured as external; this decides which imports are followed. A document is shown as third-party
when its place has a directory `external`; this decides where it is listed. The place is found in
five ways, but whether it has such a directory depends on the path of the source alone: below the
root on the names there, and elsewhere on all names.

Of the two notions the second is the narrower one. They differ on sources outside the root that are
not below a directory `external`, and on sources in configured directories of another name.

## Main results

* `Path.mem_parts_of_placed_iff`: places with a directory `external`
* `DocumentInfo.isExternal_iff_of_mem`, `Project.isExternal_iff`: the two notions
* `Workspace.isExternal_agree_iff`: when they agree
* `Workspace.import_beside_root_internal`: an import that is followed as third-party and shown as a
  source of the project
-/

namespace WorkflowDocs

/-- The place of a source has a directory `external` if its names below the root have one, or all
its names for a source outside the root. -/
theorem Path.mem_parts_of_placed_iff {root file place : Path} (hfile : IsSourceOf root file)
    (h : Placed root file place) :
    externalName ∈ place.parts ↔ externalName ∈ ((file.relativeTo? root).getD file).names := by
  cases h with
  | inside hplace hexternal =>
    rw [hplace, Option.getD_some]
    exact Iff.rfl
  | insideExternal hplace _ =>
    rw [hplace, Option.getD_some]
    exact iff_of_true List.mem_cons_self (by simp)
  | outsideExternal houtside hnames _ =>
    rw [houtside, Option.getD_none, hnames]
    exact iff_of_true List.mem_cons_self (by simp)
  | shared houtside hexternal hplace =>
    obtain ⟨-, hrelative, hnames⟩ := relativeTo?_eq_some_iff.1 hplace
    rw [houtside, Option.getD_none, parts, if_pos hrelative]
    refine iff_of_false (fun hmem => hexternal ?_) hexternal
    rw [hnames]
    exact List.mem_append_right _ hmem
  | lastTwo houtside hexternal _ =>
    rw [houtside, Option.getD_none, parts_ofParts]
    have hroot := (hfile.of_outside houtside).1
    exact iff_of_false (fun hmem => not_mem_parts hroot (by decide) hexternal
      (mem_of_mem_lastParts hmem)) hexternal

namespace Project

/-- A file is written like its place below the root if it lies outside, or if the root is the empty
path. Where nothing was taken away, there are no names in the root. -/
theorem placeOf_eq_self_iff {p : Project} {file : Path} :
    p.placeOf file = file ↔ file.relativeTo? p.root = none ∨ p.root = .here := by
  rw [placeOf]
  cases hplace : file.relativeTo? p.root with
  | none => simp
  | some place =>
    obtain ⟨hroot, hrelative, hnames⟩ := Path.relativeTo?_eq_some_iff.1 hplace
    simp only [Option.getD_some, reduceCtorEq, false_or]
    constructor
    · rintro rfl
      have hempty : p.root.names = [] := by simpa using hnames
      exact Path.mk.injEq .. ▸ ⟨hroot.symm.trans hrelative, hempty⟩
    · intro hhere
      rw [hhere] at hroot hnames
      exact Path.mk.injEq .. ▸ ⟨hrelative.trans hroot.symm, hnames.symm⟩

/-- What the project takes as third-party. A place below the root is relative, so that its parts are
its names. -/
theorem isExternal_iff {p : Project} {file : Path} :
    p.isExternal file = true ↔
      file.relativeTo? p.root = none ∨ p.root = .here ∨
        ∃ dir ∈ p.externalDirs, dir ∈ (p.placeOf file).names := by
  rw [isExternal, Bool.or_eq_true, beq_iff_eq, placeOf_eq_self_iff, or_assoc, List.any_eq_true]
  cases hplace : file.relativeTo? p.root with
  | none => simp
  | some place =>
    obtain ⟨-, hrelative, -⟩ := Path.relativeTo?_eq_some_iff.1 hplace
    have hparts : (p.placeOf file).parts = (p.placeOf file).names := by
      rw [placeOf, hplace, Option.getD_some, Path.parts, if_pos hrelative]
    simp only [hparts, List.contains_iff_mem]

end Project

/-- What is shown as third-party. -/
theorem DocumentInfo.isExternal_iff_of_mem {w : Workspace} {p : Project} {d : DocumentInfo}
    (htree : w.tree.WellFormed) (hd : d ∈ (w.collect p).1) :
    d.isExternal = true ↔ Path.externalName ∈ (p.placeOf d.filePath).names := by
  obtain ⟨hsource, hplace⟩ := SiteJob.isSourceOf_of_mem htree hd
  rw [isExternal, List.contains_iff_mem, hplace,
    Path.mem_parts_of_placed_iff hsource (Path.placed_relativeToRoot hsource)]
  rfl

namespace Workspace

variable {w : Workspace} {p : Project} {d : DocumentInfo}

/-- The sources of a project have no directory `external` below the root. -/
theorem not_mem_placeOf_of_internal {file : Path} (h : file ∈ p.internalFiles w.tree w.cwd) :
    Path.externalName ∉ (p.placeOf file).names := by
  obtain ⟨-, names, -, -, -, hexternal, rfl⟩ := Project.exists_of_mem_internalFiles h
  rw [Project.placeOf_append]
  exact hexternal

/-- What is shown as third-party was followed as third-party. -/
theorem isExternal_of_shown (htree : w.tree.WellFormed) (hd : d ∈ (w.collect p).1)
    (hshown : d.isExternal = true) : p.isExternal d.filePath = true := by
  have hmem := (DocumentInfo.isExternal_iff_of_mem htree hd).1 hshown
  rcases List.mem_append.1 (mem_documents.1 hd).1 with hinternal | hthird
  · exact absurd hmem (not_mem_placeOf_of_internal hinternal)
  · exact isExternal_of_mem_thirdParty hthird

/-- **When the two notions of third-party sources agree.** Whatever is shown as third-party is
followed as third-party. The converse fails for the documents that lie outside the root, or in a
configured directory, without a directory `external` in their place; the notions agree on all
others. In a project with standard settings below an absolute root, these are the documents outside
the root with no directory `external` in their path. -/
theorem isExternal_agree_iff (w : Workspace) (p : Project) (htree : w.tree.WellFormed)
    (d : DocumentInfo) (hd : d ∈ (w.collect p).1) :
    (d.isExternal = true → p.isExternal d.filePath = true) ∧
    (d.isExternal = p.isExternal d.filePath ↔
      ((d.filePath.relativeTo? p.root = none ∨ p.root = .here ∨
          ∃ dir ∈ p.externalDirs, dir ∈ (p.placeOf d.filePath).names) →
        Path.externalName ∈ (p.placeOf d.filePath).names)) ∧
    (p.root.isAbsolute = true → p.externalDirs = [Path.externalName] →
      (d.isExternal = p.isExternal d.filePath ↔
        (d.filePath.relativeTo? p.root = none → Path.externalName ∈ d.filePath.names))) := by
  have hforward := isExternal_of_shown htree hd
  have hagree : d.isExternal = p.isExternal d.filePath ↔
      ((d.filePath.relativeTo? p.root = none ∨ p.root = .here ∨
          ∃ dir ∈ p.externalDirs, dir ∈ (p.placeOf d.filePath).names) →
        Path.externalName ∈ (p.placeOf d.filePath).names) := by
    rw [← DocumentInfo.isExternal_iff_of_mem htree hd, ← Project.isExternal_iff, Bool.eq_iff_iff]
    exact ⟨Iff.mpr, fun hback => ⟨hforward, hback⟩⟩
  refine ⟨hforward, hagree, fun habs hdirs => hagree.trans ?_⟩
  have hhere : p.root ≠ .here := by
    intro hhere
    rw [hhere] at habs
    exact absurd habs (by decide)
  simp only [hdirs, hhere, false_or, List.mem_singleton, exists_eq_left]
  cases hplace : d.filePath.relativeTo? p.root with
  | none => simp [Project.placeOf, hplace]
  | some place => simp

theorem isExternal_agree_iff_libraries :
    SiteJob.librariesWorkspace.tree.WellFormed ∧
    ∃ d ∈ (SiteJob.librariesWorkspace.collect SiteJob.librariesProject).1,
      d.filePath = ⟨.slash, ["p", "lib", "external", "t.wdl"]⟩ ∧
      d.isExternal = SiteJob.librariesProject.isExternal d.filePath := by
  obtain ⟨d, hd, hfile⟩ := SiteJob.exists_document_libraries ["p", "lib", "external", "t.wdl"]
    ⟨⟨_, rfl⟩, _, rfl, _, List.mem_cons_of_mem _ List.mem_cons_self, by decide, by decide⟩
    (by decide) (by decide) ⟨_, rfl⟩
  obtain ⟨-, hagree, -⟩ := isExternal_agree_iff SiteJob.librariesWorkspace SiteJob.librariesProject
    SiteJob.wellFormed_libraries d hd
  refine ⟨SiteJob.wellFormed_libraries, d, hd, hfile, hagree.2 fun _ => ?_⟩
  rw [hfile]
  decide

/-- A project whose only source imports a source beside the project. -/
def besideWorkspace : Workspace where
  tree := ⟨[(["p"], .directory), (["p", "a.wdl"], .file .empty), (["lib"], .directory),
    (["lib", "t.wdl"], .file .empty)]⟩
  sources :=
    [(["p", "a.wdl"], .ok { imports := [⟨"../lib/t.wdl", none, none⟩] }),
      (["lib", "t.wdl"], .ok {})]

/-- An import from beside the project is followed as third-party, and its document is shown as one
of the project. -/
theorem import_beside_root_internal :
    ∃ d ∈ (besideWorkspace.collect SiteJob.librariesProject).1,
      d.isExternal = false ∧ SiteJob.librariesProject.isExternal d.filePath = true := by
  have hsource : ⟨.slash, ["p", "a.wdl"]⟩ ∈
      SiteJob.librariesProject.internalFiles besideWorkspace.tree besideWorkspace.cwd :=
    Project.mem_internalFiles.2 ⟨by decide, by decide⟩
  have htree : besideWorkspace.tree.WellFormed := ⟨by decide, by decide⟩
  have himports : besideWorkspace.Imports SiteJob.librariesProject ⟨.slash, ["p", "a.wdl"]⟩
      ⟨.slash, ["p", "..", "lib", "t.wdl"]⟩ :=
    ⟨⟨_, rfl⟩, _, rfl, _, List.mem_cons_self, by decide, by decide⟩
  obtain ⟨d, hd, hfile⟩ := exists_imported_document rfl htree rfl (by decide) hsource himports
    (by decide) ⟨_, rfl⟩
  have hshown := DocumentInfo.isExternal_iff_of_mem htree hd
  rw [hfile] at hshown
  refine ⟨d, hd, Bool.eq_false_iff.2 fun hexternal => absurd (hshown.1 hexternal) (by decide), ?_⟩
  rw [hfile]
  decide

end Workspace

end WorkflowDocs
