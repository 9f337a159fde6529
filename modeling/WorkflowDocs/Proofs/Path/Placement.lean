import WorkflowDocs.Proofs.Path.Resolve
import Mathlib.Data.List.Infix
import Mathlib.Data.List.TakeWhile

/-!
# Where a source is placed

The place of a source relative to the root of a project is found in five ways: a source below the
root keeps the names below it; a source below a directory `external`, inside the root or outside,
starts with that directory; any other source outside the root is placed below the directory that it
shares with the root, if there is one, and otherwise keeps its last two parts.

`Placed` states these ways as a relation on the paths of root and source. It is a function of them,
and it is the one that is computed for the sources that a project can have.

## Main definitions

* `Path.Placed`: the places of sources
* `Path.IsSourceOf`: paths with names that entries can have, as the sources of a project have them

## Main results

* `Path.normalize_normalize`: a normal form is its own
* `Path.relativeToRoot_eq_of_placed`, `Path.placed_relativeToRoot`: the computed place is the one
  that `Placed` names
* `Path.Placed.suffix`: a place ends a source path
-/

namespace WorkflowDocs.Path

/-! ## Parts -/

theorem name_concat (root : Root) (dir : List String) (name : String) :
    Path.name ⟨root, dir ++ [name]⟩ = name := by
  rw [Path.name, List.getLast?_concat, Option.getD_some]

theorem parent_concat (root : Root) (dir : List String) (name : String) :
    Path.parent ⟨root, dir ++ [name]⟩ = ⟨root, dir⟩ := by
  rw [Path.parent, List.dropLast_concat]

theorem parts_ofParts (parts : List String) : (ofParts parts).parts = parts := by
  cases parts with
  | nil => rfl
  | cons part rest =>
    rw [ofParts]
    split
    · rename_i h
      rw [h]
      rfl
    · split
      · rename_i h
        rw [h]
        rfl
      · rfl

theorem ofParts_of_no_slash {names : List String} (h : ∀ name ∈ names, '/' ∉ name.toList) :
    ofParts names = ⟨.relative, names⟩ := by
  cases names with
  | nil => rfl
  | cons name names =>
    have hslash : '/' ∉ name.toList := h name List.mem_cons_self
    have hone : name ≠ "/" := by
      rintro rfl
      exact hslash (by decide)
    have htwo : name ≠ "//" := by
      rintro rfl
      exact hslash (by decide)
    rw [ofParts, if_neg hone, if_neg htwo]

theorem ofParts_of_plain {names : List String} (h : Plain names) :
    ofParts names = ⟨.relative, names⟩ :=
  ofParts_of_no_slash fun name hname => (h name hname).2.2

/-! ## Normal forms -/

theorem dropWhile_external {before after : List String} (h : externalName ∉ before) :
    (before ++ externalName :: after).dropWhile (· != externalName) = externalName :: after := by
  rw [List.dropWhile_append_of_pos fun name hmem => by simpa using ne_of_mem_of_not_mem hmem h,
    List.dropWhile_cons_of_neg (by simp)]

theorem collapseOnto_subset {kept names : List String} {name : String}
    (h : name ∈ collapseOnto kept names) : name ∈ kept ∨ name ∈ names := by
  induction names generalizing kept with
  | nil => exact .inl (List.mem_reverse.1 h)
  | cons first names ih =>
    rw [collapseOnto] at h
    split at h
    · rcases ih h with hkept | hnames
      · exact .inl (List.mem_of_mem_tail hkept)
      · exact .inr (List.mem_cons_of_mem _ hnames)
    · rcases ih h with hkept | hnames
      · rcases List.mem_cons.1 hkept with rfl | hkept
        · exact .inr List.mem_cons_self
        · exact .inl hkept
      · exact .inr (List.mem_cons_of_mem _ hnames)

theorem collapse_subset {names : List String} {name : String} (h : name ∈ collapse names) :
    name ∈ names :=
  (collapseOnto_subset h).resolve_left List.not_mem_nil

theorem normalize_of_external {p : Path} {before after : List String}
    (hparts : p.parts = before ++ externalName :: after) (hfirst : externalName ∉ before) :
    normalize p = ofParts (externalName :: after) := by
  rw [normalize, hparts, if_pos (by simp), dropWhile_external hfirst]

/-- Parts without `external` and double dots are normal. -/
theorem normalize_ofParts {parts : List String} (hexternal : externalName ∉ parts)
    (hdots : ".." ∉ parts) : normalize (ofParts parts) = ofParts parts := by
  rw [normalize, parts_ofParts, if_neg (by simpa using hexternal), collapse_of_not_mem hdots]
  split <;> rfl

/-- A normal form is its own. A path with no parts left is kept as it is, double dots included. -/
theorem normalize_normalize (p : Path) : normalize (normalize p) = normalize p := by
  by_cases hexternal : externalName ∈ p.parts
  · obtain ⟨before, after, hparts, hfirst⟩ := List.eq_append_cons_of_mem hexternal
    rw [normalize_of_external hparts hfirst]
    exact normalize_of_external (parts_ofParts _) List.not_mem_nil
  · have hsame : normalize p =
        if (collapse p.parts).isEmpty then p else ofParts (collapse p.parts) := by
      rw [normalize, if_neg (by simpa using hexternal)]
    by_cases hempty : (collapse p.parts).isEmpty = true
    · have hfixed : normalize p = p := by rw [hsame, if_pos hempty]
      rw [hfixed, hfixed]
    · rw [hsame, if_neg hempty]
      exact normalize_ofParts (fun hmem => hexternal (collapse_subset hmem)) (not_mem_collapse _)

/-- A relative path with plain names and no directory `external` is normal. -/
theorem normalize_of_plain {names : List String} (h : Plain names)
    (hexternal : externalName ∉ names) : normalize ⟨.relative, names⟩ = ⟨.relative, names⟩ := by
  rw [← ofParts_of_plain h]
  exact normalize_ofParts hexternal h.not_mem

/-- A relative path with a directory `external` starts with it in its normal form. -/
theorem normalize_of_plain_external {before after : List String}
    (h : Plain (before ++ externalName :: after)) (hfirst : externalName ∉ before) :
    normalize ⟨.relative, before ++ externalName :: after⟩ =
      ⟨.relative, externalName :: after⟩ := by
  rw [normalize_of_external rfl hfirst]
  exact ofParts_of_plain (h.of_suffix (List.suffix_append _ _))

/-! ## Places -/

/-- The directory made of the parts of the root that occur in the path of a source. -/
def sharedDir (root file : Path) : Path :=
  ofParts (root.parts.filter fun part => file.parts.contains part)

/-- The places of sources relative to a root. -/
inductive Placed (root file : Path) : Path → Prop
  /-- Below the root, a source keeps the names below it. -/
  | inside {names : List String} (hplace : file.relativeTo? root = some ⟨.relative, names⟩)
      (hexternal : externalName ∉ names) : Placed root file ⟨.relative, names⟩
  /-- Below the root, the first directory `external` cuts off what is before it. -/
  | insideExternal {before after : List String}
      (hplace : file.relativeTo? root = some ⟨.relative, before ++ externalName :: after⟩)
      (hfirst : externalName ∉ before) : Placed root file ⟨.relative, externalName :: after⟩
  /-- Outside the root, the first directory `external` cuts off what is before it. -/
  | outsideExternal {before after : List String} (houtside : file.relativeTo? root = none)
      (hnames : file.names = before ++ externalName :: after) (hfirst : externalName ∉ before) :
      Placed root file ⟨.relative, externalName :: after⟩
  /-- Outside the root, a source is placed below the directory shared with the root. -/
  | shared {place : Path} (houtside : file.relativeTo? root = none)
      (hexternal : externalName ∉ file.names)
      (hplace : file.relativeTo? (sharedDir root file) = some place) : Placed root file place
  /-- Outside the root and that directory, a source keeps its last two parts. -/
  | lastTwo (houtside : file.relativeTo? root = none) (hexternal : externalName ∉ file.names)
      (hplace : file.relativeTo? (sharedDir root file) = none) :
      Placed root file (ofParts (lastParts 2 file.parts))

theorem exists_placed (root file : Path) : ∃ place, Placed root file place := by
  cases hplace : file.relativeTo? root with
  | some place =>
    obtain ⟨placeRoot, names⟩ := place
    obtain ⟨-, hrelative, -⟩ := relativeTo?_eq_some_iff.1 hplace
    obtain rfl : placeRoot = .relative := hrelative
    by_cases hexternal : externalName ∈ names
    · obtain ⟨before, after, rfl, hfirst⟩ := List.eq_append_cons_of_mem hexternal
      exact ⟨_, .insideExternal hplace hfirst⟩
    · exact ⟨_, .inside hplace hexternal⟩
  | none =>
    by_cases hexternal : externalName ∈ file.names
    · obtain ⟨before, after, hnames, hfirst⟩ := List.eq_append_cons_of_mem hexternal
      exact ⟨_, .outsideExternal hplace hnames hfirst⟩
    · cases hshared : file.relativeTo? (sharedDir root file) with
      | some place => exact ⟨_, .shared hplace hexternal hshared⟩
      | none => exact ⟨_, .lastTwo hplace hexternal hshared⟩

/-- The paths of sources of a project: below the root, or resolved, with names that entries can
have. -/
inductive IsSourceOf (root : Path) : Path → Prop
  | below {names : List String} (h : Plain names) : IsSourceOf root ⟨root.root, root.names ++ names⟩
  | resolved {names : List String} (h : Plain names) : IsSourceOf root ⟨.slash, names⟩

theorem IsSourceOf.plain_of_inside {root file place : Path} (h : IsSourceOf root file)
    (hplace : file.relativeTo? root = some place) : Plain place.names := by
  obtain ⟨-, -, hnames⟩ := relativeTo?_eq_some_iff.1 hplace
  cases h with
  | below h => exact List.append_cancel_left hnames ▸ h
  | resolved h => exact h.of_suffix ⟨_, hnames.symm⟩

theorem IsSourceOf.of_outside {root file : Path} (h : IsSourceOf root file)
    (houtside : file.relativeTo? root = none) : file.root = .slash ∧ Plain file.names := by
  cases h with
  | below h => exact absurd (relativeTo?_append _ _ _) (by rw [houtside]; simp)
  | resolved h => exact ⟨rfl, h⟩

theorem parts_of_slash {file : Path} (h : file.root = .slash) : file.parts = "/" :: file.names := by
  rw [parts, h]
  rfl

theorem not_mem_parts {file : Path} (hroot : file.root = .slash) {part : String}
    (hpart : part ≠ "/") (h : part ∉ file.names) : part ∉ file.parts := by
  rw [parts_of_slash hroot]
  exact List.not_mem_cons_of_ne_of_not_mem hpart h

theorem mem_of_mem_lastParts {n : Nat} {parts : List String} {part : String}
    (h : part ∈ lastParts n parts) : part ∈ parts :=
  List.mem_of_mem_drop h

/-- The place of a source outside the root, before it is brought to its normal form. -/
theorem outsideRoot_of_not_external {cwd root file : Path} (hroot : file.root = .slash)
    (hplain : Plain file.names) (hexternal : externalName ∉ file.names) :
    outsideRoot cwd file root =
      (file.relativeTo? (sharedDir root file)).getD (ofParts (lastParts 2 file.parts)) := by
  have hparts : externalName ∉ file.parts := not_mem_parts hroot (by decide) hexternal
  rw [outsideRoot, resolve_of_not_mem hroot hplain.not_mem, if_neg (by simpa using hparts)]
  rfl

/-- The computed place of a source is the one that the relation names. The root itself is a part
too, and is not named `external`. -/
theorem relativeToRoot_eq_of_placed {cwd root file place : Path} (hfile : IsSourceOf root file)
    (h : Placed root file place) : relativeToRoot cwd file root = place := by
  rw [relativeToRoot]
  cases h with
  | inside hplace hexternal =>
    rw [hplace, Option.getD_some]
    exact normalize_of_plain (hfile.plain_of_inside hplace) hexternal
  | insideExternal hplace hfirst =>
    rw [hplace, Option.getD_some]
    exact normalize_of_plain_external (hfile.plain_of_inside hplace) hfirst
  | outsideExternal houtside hnames hfirst =>
    obtain ⟨hroot, hplain⟩ := hfile.of_outside houtside
    rename_i before after
    have hparts : file.parts = ("/" :: before) ++ externalName :: after := by
      rw [parts_of_slash hroot, hnames, List.cons_append]
    have hfirst' : externalName ∉ "/" :: before :=
      List.not_mem_cons_of_ne_of_not_mem (by decide) hfirst
    have hafter : Plain (externalName :: after) :=
      hplain.of_suffix (hnames ▸ List.suffix_append _ _)
    rw [houtside, Option.getD_none, outsideRoot, resolve_of_not_mem hroot hplain.not_mem, hparts,
      if_pos (by simp), dropWhile_external hfirst', ofParts_of_plain hafter]
    exact @normalize_of_plain_external [] after hafter List.not_mem_nil
  | shared houtside hexternal hplace =>
    obtain ⟨hroot, hplain⟩ := hfile.of_outside houtside
    obtain ⟨placeRoot, names⟩ := place
    obtain ⟨-, hrelative, hnames⟩ := relativeTo?_eq_some_iff.1 hplace
    obtain rfl : placeRoot = .relative := hrelative
    have hsuffix : names <:+ file.names := hnames ▸ List.suffix_append _ _
    rw [houtside, Option.getD_none, outsideRoot_of_not_external hroot hplain hexternal, hplace,
      Option.getD_some]
    exact normalize_of_plain (hplain.of_suffix hsuffix) fun hmem => hexternal (hsuffix.subset hmem)
  | lastTwo houtside hexternal hplace =>
    obtain ⟨hroot, hplain⟩ := hfile.of_outside houtside
    rw [houtside, Option.getD_none, outsideRoot_of_not_external hroot hplain hexternal, hplace,
      Option.getD_none]
    exact normalize_ofParts
      (fun hmem => not_mem_parts hroot (by decide) hexternal (mem_of_mem_lastParts hmem))
      (fun hmem => not_mem_parts hroot (by decide) hplain.not_mem (mem_of_mem_lastParts hmem))

theorem placed_relativeToRoot {cwd root file : Path} (hfile : IsSourceOf root file) :
    Placed root file (relativeToRoot cwd file root) := by
  obtain ⟨place, hplace⟩ := exists_placed root file
  rw [relativeToRoot_eq_of_placed hfile hplace]
  exact hplace

theorem placed_iff {cwd root file place : Path} (hfile : IsSourceOf root file) :
    Placed root file place ↔ relativeToRoot cwd file root = place :=
  ⟨relativeToRoot_eq_of_placed hfile, fun h => h ▸ placed_relativeToRoot hfile⟩

/-- The names of the last two parts of a path from the root end its names. With fewer than two names
the root is one of the last two parts. -/
theorem names_lastTwo_suffix {file : Path} (hroot : file.root = .slash)
    (hplain : Plain file.names) :
    (ofParts (lastParts 2 file.parts)).names <:+ file.names := by
  rw [parts_of_slash hroot]
  rcases hnames : file.names with _ | ⟨first, _ | ⟨second, rest⟩⟩
  · exact List.nil_suffix
  · exact List.suffix_refl _
  · have hlast : lastParts 2 ("/" :: first :: second :: rest) =
        (first :: second :: rest).drop rest.length := by
      simp [lastParts]
    have hsuffix : (first :: second :: rest).drop rest.length <:+ file.names :=
      hnames ▸ List.drop_suffix _ _
    rw [hlast, ofParts_of_plain (hplain.of_suffix hsuffix)]
    exact List.drop_suffix _ _

/-- The place of a source ends its path. -/
theorem Placed.suffix {root file place : Path} (hfile : IsSourceOf root file)
    (h : Placed root file place) : place.names <:+ file.names := by
  cases h with
  | inside hplace _ =>
    obtain ⟨-, -, hnames⟩ := relativeTo?_eq_some_iff.1 hplace
    exact ⟨_, hnames.symm⟩
  | insideExternal hplace _ =>
    obtain ⟨-, -, hnames⟩ := relativeTo?_eq_some_iff.1 hplace
    exact (List.suffix_append _ _).trans ⟨_, hnames.symm⟩
  | outsideExternal _ hnames _ => exact ⟨_, hnames.symm⟩
  | shared _ _ hplace =>
    obtain ⟨-, -, hnames⟩ := relativeTo?_eq_some_iff.1 hplace
    exact ⟨_, hnames.symm⟩
  | lastTwo houtside _ _ =>
    obtain ⟨hroot, hplain⟩ := hfile.of_outside houtside
    exact names_lastTwo_suffix hroot hplain

/-- The names of the place of a source are such that entries can have. -/
theorem Placed.plain {root file place : Path} (hfile : IsSourceOf root file)
    (h : Placed root file place) : Plain place.names := by
  cases h with
  | inside hplace _ => exact hfile.plain_of_inside hplace
  | insideExternal hplace _ =>
    exact (hfile.plain_of_inside hplace).of_suffix (List.suffix_append _ _)
  | outsideExternal houtside hnames hfirst =>
    exact (hfile.of_outside houtside).2.of_suffix ⟨_, hnames.symm⟩
  | shared houtside hexternal hplace =>
    exact (hfile.of_outside houtside).2.of_suffix
      (Placed.suffix hfile (.shared houtside hexternal hplace))
  | lastTwo houtside hexternal hplace =>
    exact (hfile.of_outside houtside).2.of_suffix
      (Placed.suffix hfile (.lastTwo houtside hexternal hplace))

end WorkflowDocs.Path
