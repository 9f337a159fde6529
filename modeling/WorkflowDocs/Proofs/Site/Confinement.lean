import WorkflowDocs.Proofs.FileTree.Effect
import WorkflowDocs.Proofs.Path.Written
import WorkflowDocs.Proofs.Site.Pages

/-!
# Pages stay below the directory of the site

A source is placed by names of its own path, in whichever of the five ways: they are all that is
left of the path below some directory, or its last two parts. A root among these parts would make
the place absolute, and the page would be written there; with two names below the root there are
always enough without it. Double dots do not come up where the path had none, so what is joined to
the directory of the site leads down from it, and the page is the one file that is written.

## Main results

* `Path.place_leads_down`: the place of a source is relative and has no double dots
* `Path.page_leads_down`: so has the page
* `SiteJob.pages_stay_below`: the file of a page is below the directory of the site
* `Path.zero_character_unplaced`: a path that has no place
-/

namespace WorkflowDocs

namespace Path

/-- Paths that lead down from the directory they are applied to. -/
structure LeadsDown (p : Path) : Prop where
  relative : p.root = .relative
  down : ".." ∉ p.names

theorem LeadsDown.resolve_join {p : Path} (h : LeadsDown p) (cwd dir : Path) :
    (resolve cwd (dir.join p)).names = (resolve cwd dir).names ++ p.names := by
  obtain ⟨root, names⟩ := p
  obtain rfl : root = .relative := h.relative
  have hjoin : cwd.join (dir.join ⟨.relative, names⟩) =
      ⟨(cwd.join dir).root, (cwd.join dir).names ++ names⟩ :=
    join_append cwd dir.root dir.names names
  rw [resolve, hjoin, collapse_append_of_not_mem _ h.down]
  rfl

/-- The place of a source with two names below its root leads down, and is in normal form. -/
theorem place_leads_down {file : Path} (cwd root : Path) (habs : file.isAbsolute = true)
    (hspelled : Spelled file.names) (hdots : ".." ∉ file.names) (htwo : 2 ≤ file.names.length) :
    LeadsDown (relativeToRoot cwd file root) ∧
      (relativeToRoot cwd file root).normalize = relativeToRoot cwd file root := by
  have hslash : ∀ name ∈ file.names, '/' ∉ name.toList := fun name hname => (hspelled name hname).2
  obtain ⟨names, hsub, hplace⟩ :=
    (relativeToRoot_cases cwd root habs hslash).resolve_right fun h => by omega
  refine ⟨?_, normalize_normalize _⟩
  rw [hplace, normalize_relative fun name hname => hslash name (hsub name hname)]
  exact ⟨rfl, fun hmem => hdots (hsub _ (normalNames_subset hmem))⟩

section Page

variable {place page : Path}

/-- With another extension a path keeps its directory, and the stem of its name. -/
theorem withSuffix?_eq_some {suffix : String} (h : place.withSuffix? suffix = some page) :
    place.names ≠ [] ∧ page = ⟨place.root, place.names.dropLast ++ [place.stem ++ suffix]⟩ := by
  rw [withSuffix?] at h
  split at h
  · exact absurd h (by simp)
  · rename_i hname
    refine ⟨fun hnil => hname ?_, (Option.some.inj h).symm⟩
    rw [name, hnil]
    rfl

theorem down_page (hdown : ".." ∉ place.names) (h : place.withSuffix? pageSuffix = some page) :
    ".." ∉ page.names := by
  obtain ⟨-, rfl⟩ := withSuffix?_eq_some h
  intro hmem
  rcases List.mem_append.1 hmem with hdir | hlast
  · exact hdown (List.mem_of_mem_dropLast hdir)
  · exact SiteJob.pageName_ne_dots _ (List.mem_singleton.1 hlast).symm

/-- The page of a source at a place that leads down leads down, to a file. -/
theorem page_leads_down (h : LeadsDown place) (hnormal : place.normalize = place)
    (hpage : page? place = some page) : LeadsDown page ∧ page.names ≠ [] := by
  rw [page?, hnormal] at hpage
  have hdown := down_page h.down hpage
  obtain ⟨-, rfl⟩ := withSuffix?_eq_some hpage
  exact ⟨⟨h.relative, hdown⟩, by simp⟩

end Page

end Path

namespace SiteJob

/-- What the steps for the page of a document write: one file, and directories on the way to it. -/
theorem exists_of_run_pageSteps {job : SiteJob} {cwd : Path} {look : Appearance}
    {all : List DocumentInfo} {d : DocumentInfo} {t t' : FileTree}
    (h : FileTree.run (job.pageSteps cwd look all d) t = (t', true)) :
    ∃ page content, Path.page? d.relativePath = some page ∧
      t'.get? (Path.resolve cwd (job.output.join page)).names = some (.file content) ∧
      ∀ q, q ≠ (Path.resolve cwd (job.output.join page)).names → t'.isFile q = true →
        t'.get? q = t.get? q := by
  obtain ⟨u, hmade, -⟩ := FileTree.exists_of_run_cons (congrArg Prod.snd h)
  rw [pageSteps, FileTree.run_cons_of_eq_some hmade] at h
  obtain ⟨v, hwrite, -⟩ := FileTree.exists_of_run_cons (congrArg Prod.snd h)
  rw [FileTree.run_cons_of_eq_some hwrite] at h
  obtain ⟨w, hhalf, -⟩ := FileTree.exists_of_run_cons (congrArg Prod.snd h)
  rw [FileTree.run_cons_of_eq_some hhalf] at h
  obtain ⟨rfl, -⟩ := Prod.mk.inj h
  obtain ⟨-, rfl⟩ : d.showsHalf = false ∧ v = w := by simpa using hhalf
  obtain ⟨page, hpage, hmade⟩ := Option.bind_eq_some_iff.1 hmade
  obtain ⟨file, hfile, ⟨content, hcontent⟩, hother⟩ := writePage_eq_some hwrite
  obtain rfl : Path.resolve cwd (job.output.join page) = file := by
    rw [pageFile?, hpage] at hfile
    exact Option.some.inj hfile
  refine ⟨page, content, hpage, hcontent, fun q hq hisFile => ?_⟩
  rw [hother q hq]
  have hway := (FileTree.makeDirs_eq_some hmade).2 q
  by_cases hpassed : q ∈ Path.passed cwd (job.output.join page).parent
  · rw [FileTree.wayAt?_of_mem hpassed] at hway
    rw [FileTree.isFile, hother q hq, hway] at hisFile
    exact absurd hisFile (by decide)
  · rw [hway, FileTree.wayAt?_of_not_mem hpassed]

/-- **Pages stay below the directory of the site.** A source with two names below its root and no
double dots, inside a project or outside, has a place in it, which is relative and has no double
dots; outside of the project its path must be one that can be followed, which a path that no file
can have is not. If the steps for the page of a document at this place are complete, then the one
file that they write has a path of at least one name, relative and without double dots, below the
directory of the site. -/
theorem pages_stay_below (cwd root file : Path) (habs : file.isAbsolute = true)
    (hspelled : Path.Spelled file.names) (hdots : ".." ∉ file.names) (htwo : 2 ≤ file.names.length)
    (hfollow : (file.relativeTo? root).isSome = true ∨ file.isFollowable = true) :
    ∃ place, Path.relativeToRoot? cwd file root = some place ∧ place.root = .relative ∧
      ".." ∉ place.names ∧
      ∀ (job : SiteJob) (look : Appearance) (all : List DocumentInfo) (d : DocumentInfo)
        (t t' : FileTree), d.relativePath = place →
        FileTree.run (job.pageSteps cwd look all d) t = (t', true) →
        ∃ below content, below.root = .relative ∧ below.names ≠ [] ∧ ".." ∉ below.names ∧
          (Path.resolve cwd (job.output.join below)).names =
            (Path.resolve cwd job.output).names ++ below.names ∧
          t'.get? (Path.resolve cwd (job.output.join below)).names = some (.file content) ∧
          ∀ q, q ≠ (Path.resolve cwd (job.output.join below)).names → t'.isFile q = true →
            t'.get? q = t.get? q := by
  obtain ⟨hdown, hnormal⟩ := Path.place_leads_down cwd root habs hspelled hdots htwo
  refine ⟨Path.relativeToRoot cwd file root, ?_, hdown.relative, hdown.down, ?_⟩
  · rw [Path.relativeToRoot?, if_pos (by simpa using hfollow)]
  · intro job look all d t t' hplace hrun
    obtain ⟨page, content, hpage, hwritten, hother⟩ := exists_of_run_pageSteps hrun
    obtain ⟨hbelow, hne⟩ := Path.page_leads_down hdown hnormal (hplace ▸ hpage)
    exact ⟨page, content, hbelow.relative, hne, hbelow.down, hbelow.resolve_join cwd job.output,
      hwritten, hother⟩

/-- A document at the place of a source outside of its project: the directory `proj` that both have
in their paths is not one that they share. -/
def besideDocument : DocumentInfo where
  filePath := ⟨.slash, ["srv", "proj", "lib", "t.wdl"]⟩
  relativePath := ⟨.relative, ["lib", "t.wdl"]⟩

/-- A site in a directory that is not there yet. -/
def freshSite : SiteJob where
  output := ⟨.slash, ["home", "..", "out"]⟩

theorem pages_stay_below_beside :
    ∃ t', ∃ below : Path, ∃ content,
      FileTree.run (freshSite.pageSteps ⟨.slash, []⟩ ⟨"", none⟩ [besideDocument] besideDocument)
        ⟨[(["home"], .directory)]⟩ = (t', true) ∧
      below.root = .relative ∧ below.names ≠ [] ∧ ".." ∉ below.names ∧
      t'.get? (["out"] ++ below.names) = some (.file content) := by
  obtain ⟨place, hplace, -, -, hpages⟩ := pages_stay_below ⟨.slash, []⟩ ⟨.slash, ["home", "proj"]⟩
    besideDocument.filePath (by decide) (by decide) (by decide) (by decide) (.inr (by decide))
  have hshown : Path.relativeToRoot? ⟨.slash, []⟩ besideDocument.filePath
      ⟨.slash, ["home", "proj"]⟩ = some besideDocument.relativePath := by decide
  have hcomplete : (FileTree.run (freshSite.pageSteps ⟨.slash, []⟩ ⟨"", none⟩ [besideDocument]
      besideDocument) ⟨[(["home"], .directory)]⟩).2 = true := by decide +kernel
  obtain ⟨below, content, hrelative, hne, hdown, hresolve, hwritten, -⟩ :=
    hpages freshSite ⟨"", none⟩ [besideDocument] besideDocument _ _
      (Option.some.inj (hshown.symm.trans hplace)) (Prod.ext rfl hcomplete)
  rw [hresolve] at hwritten
  exact ⟨_, below, content, Prod.ext rfl hcomplete, hrelative, hne, hdown, hwritten⟩

end SiteJob

/-- A source outside of its project has no place if a name of its path has a zero character in it,
although the path is absolute, has two names below its root, and no double dots. -/
theorem Path.zero_character_unplaced :
    (Path.mk .slash ["x", "a\x00b.wdl"]).isAbsolute = true ∧
    Path.Spelled ["x", "a\x00b.wdl"] ∧ ".." ∉ ["x", "a\x00b.wdl"] ∧
    2 ≤ ["x", "a\x00b.wdl"].length ∧
    Path.relativeToRoot? ⟨.slash, []⟩ ⟨.slash, ["x", "a\x00b.wdl"]⟩ ⟨.slash, ["proj"]⟩ = none := by
  decide

end WorkflowDocs
