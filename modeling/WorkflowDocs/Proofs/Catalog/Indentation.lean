import WorkflowDocs.Catalog.Survey
import WorkflowDocs.Proofs.Path.Text
import WorkflowDocs.Proofs.Workspace.Entries
import Mathlib.Data.List.TakeWhile
import Mathlib.Order.Bounds.Defs

/-!
# Commands and their indentation

What the formatted command keeps of a command as written. The lines with something on them come out
in order, each without as many characters as the least indented of them is indented by, and all of
these are blank. Blank lines stay blank; the first and the last line are left out if they are blank.

## Main definitions

* `Command.writtenLines`: the lines with something on them
* `Command.Dedents`: a text without the indentation that its lines share

## Main results

* `Command.append_dropBlankEnds`: the lines that are left out
* `Command.lines_dedent`: the lines that are shown, and the indentation that is taken off
* `Command.dedent_faithful`: what the formatted command of a task keeps
-/

namespace WorkflowDocs

namespace Text

/-! ## Lines -/

theorem cutCharsAt_ne_nil (sep : Char) (cs : List Char) : cutCharsAt sep cs ≠ [] := by
  cases cs with
  | nil => exact List.cons_ne_nil _ _
  | cons c cs =>
    rw [cutCharsAt]
    split
    · exact List.cons_ne_nil _ _
    · split <;> exact List.cons_ne_nil _ _

/-- No piece has the separator in it. -/
theorem not_mem_of_mem_cutCharsAt {sep : Char} {cs piece : List Char}
    (h : piece ∈ cutCharsAt sep cs) : sep ∉ piece := by
  induction cs generalizing piece with
  | nil =>
    rw [List.mem_singleton.1 h]
    exact List.not_mem_nil
  | cons c cs ih =>
    rw [cutCharsAt] at h
    split at h
    · rcases List.mem_cons.1 h with rfl | h
      · exact List.not_mem_nil
      · exact ih h
    · rename_i hc
      obtain ⟨first, rest, hpieces⟩ := List.exists_cons_of_ne_nil (cutCharsAt_ne_nil sep cs)
      simp only [hpieces, List.mem_cons] at h ih
      rcases h with rfl | h
      · exact List.not_mem_cons_of_ne_of_not_mem (Ne.symm hc) (ih (.inl rfl))
      · exact ih (.inr h)

theorem not_mem_of_mem_lines {s line : String} (h : line ∈ lines s) : '\n' ∉ line.toList := by
  obtain ⟨piece, hpiece, rfl⟩ := List.mem_map.1 h
  rw [String.toList_ofList]
  exact not_mem_of_mem_cutCharsAt hpiece

/-! ## Blank lines and indented ones -/

theorem isBlankText_eq_false_iff {s : String} :
    isBlankText s = false ↔ ∃ c ∈ s.toList, isBlank c = false := by
  rw [isBlankText, List.all_eq_false]
  simp only [Bool.not_eq_true]

theorem toList_dropChars (n : Nat) (s : String) : (dropChars n s).toList = s.toList.drop n :=
  String.toList_ofList

section Indentation

variable {line : String} {m : Nat}

/-- The first characters of a line are blank as far as it is indented. -/
theorem isBlank_of_mem_take (h : m ≤ indentation line) {c : Char}
    (hc : c ∈ line.toList.take m) : isBlank c = true := by
  have hbegins : line.toList.take m <+: line.toList.takeWhile isBlank :=
    List.prefix_of_prefix_length_le (List.take_prefix _ _) (List.takeWhile_prefix _)
      (Nat.le_trans (List.length_take_le _ _) h)
  exact List.mem_takeWhile_imp (hbegins.subset hc)

/-- A line with something on it is longer than it is indented. -/
theorem indentation_lt (h : isBlankText line = false) : indentation line < line.length := by
  obtain ⟨c, hc, hblank⟩ := isBlankText_eq_false_iff.1 h
  refine Nat.lt_of_le_of_ne (List.takeWhile_prefix isBlank).length_le fun hlength => ?_
  have hall : line.toList.takeWhile isBlank = line.toList :=
    (List.takeWhile_prefix isBlank).eq_of_length hlength
  rw [List.takeWhile_eq_self_iff.1 hall c hc] at hblank
  exact absurd hblank (by simp)

/-- What stands behind the indentation of a line is not blank. -/
theorem exists_head?_drop_indentation (h : isBlankText line = false) :
    ∃ c, (line.toList.drop (indentation line)).head? = some c ∧ isBlank c = false := by
  have hdrop : line.toList.drop (indentation line) = line.toList.dropWhile isBlank := by
    conv_lhs => rw [← List.takeWhile_append_dropWhile (p := isBlank) (l := line.toList)]
    exact List.drop_left
  have hne : line.toList.dropWhile isBlank ≠ [] := by
    rw [← hdrop, Ne, List.drop_eq_nil_iff]
    exact Nat.not_le.2 (indentation_lt h)
  rw [hdrop]
  exact ⟨_, List.head?_eq_some_head hne, by simpa using List.head_dropWhile_not isBlank hne⟩

end Indentation

end Text

namespace Command

/-- The lines with something on them. -/
def writtenLines (s : String) : List String :=
  (Text.lines s).filter fun l => !Text.isBlankText l

/-- The text is shown without the indentation `m` that its lines share. -/
structure Dedents (m : Nat) (raw shown : String) : Prop where
  /-- The least indentation of the lines with something on them. -/
  least : IsLeast {n | ∃ l ∈ writtenLines raw, Text.indentation l = n} m
  /-- Each of these lines is shown without its first `m` characters. -/
  written : writtenLines shown = (writtenLines raw).map (Text.dropChars m)
  /-- Each of these lines has `m` first characters, and they are blank. -/
  margin : ∀ l ∈ writtenLines raw, m ≤ l.length ∧ ∀ c ∈ l.toList.take m, Text.isBlank c = true
  /-- One of the lines that are shown is not indented. -/
  flush : ∃ l ∈ writtenLines shown, ∃ c, l.toList.head? = some c ∧ Text.isBlank c = false
  /-- No lines are left out but the first and the last one, if they are blank, and of the others the
  blank ones are shown as blank lines. -/
  kept : ∃ kept, Text.lines raw = (Text.lines raw).head?.toList.filter Text.isBlankText ++ kept ++
      (Text.lines raw).getLast?.toList.filter Text.isBlankText ∧
    (Text.lines shown).map Text.isBlankText = kept.map Text.isBlankText

/-! ## The lines that are left out -/

theorem append_dropBlankFirst (ls : List String) :
    ls.head?.toList.filter Text.isBlankText ++ dropBlankFirst ls = ls := by
  cases ls with
  | nil => rfl
  | cons l ls =>
    rw [dropBlankFirst, List.head?_cons, Option.toList_some, List.filter_singleton]
    cases Text.isBlankText l <;> rfl

/-- A list of lines with something on one of them is left with all but its blank ends. The line with
something on it is not dropped, so the last line is still the last one. -/
theorem append_dropBlankEnds {ls : List String} (h : ∃ l ∈ ls, Text.isBlankText l = false) :
    ls = ls.head?.toList.filter Text.isBlankText ++ dropBlankEnds ls ++
      ls.getLast?.toList.filter Text.isBlankText := by
  have hfirst := append_dropBlankFirst ls
  have hlast := congrArg List.reverse (append_dropBlankFirst (dropBlankFirst ls).reverse)
  rw [List.reverse_append, List.reverse_reverse, List.head?_reverse] at hlast
  have hgetLast : ls.getLast? = (dropBlankFirst ls).getLast? := by
    obtain ⟨l, hl, hwritten⟩ := h
    have hmem : l ∈ dropBlankFirst ls := by
      rw [← hfirst, List.mem_append, List.mem_filter, hwritten] at hl
      exact hl.resolve_left (by simp)
    conv_lhs => rw [← hfirst]
    exact List.getLast?_append_of_ne_nil _ (List.ne_nil_of_mem hmem)
  have hreverse : (ls.getLast?.toList.filter Text.isBlankText).reverse =
      ls.getLast?.toList.filter Text.isBlankText := by
    rw [← List.filter_reverse]
    cases ls.getLast? <;> rfl
  rw [← hgetLast, hreverse] at hlast
  rw [List.append_assoc, dropBlankEnds, hlast, hfirst]

/-- The lines that are left out have nothing on them. -/
theorem writtenLines_eq_filter {raw : String}
    (h : ∃ l ∈ Text.lines raw, Text.isBlankText l = false) :
    writtenLines raw = (dropBlankEnds (Text.lines raw)).filter fun l => !Text.isBlankText l := by
  have hblank : ∀ xs : List String,
      (xs.filter Text.isBlankText).filter (fun l => !Text.isBlankText l) = [] := by
    intro xs
    rw [List.filter_eq_nil_iff]
    intro l hl
    simp [(List.mem_filter.1 hl).2]
  conv_lhs => rw [writtenLines, append_dropBlankEnds h]
  rw [List.filter_append, List.filter_append, hblank, hblank, List.nil_append, List.append_nil]

/-! ## The indentation that is taken off -/

section Cut

variable {m : Nat} {line : String}

theorem cutLine_of_written (hline : Text.isBlankText line = false)
    (hm : m ≤ Text.indentation line) : cutLine m line = Text.dropChars m line :=
  if_pos (Nat.lt_of_le_of_lt hm (Text.indentation_lt hline))

/-- A line is blank after the cut exactly if it was before. A character that is not blank is not
among those that are cut off. -/
theorem isBlankText_cutLine (h : Text.isBlankText line = false → m ≤ Text.indentation line) :
    Text.isBlankText (cutLine m line) = Text.isBlankText line := by
  cases hline : Text.isBlankText line with
  | true =>
    rw [cutLine]
    split
    · rw [Text.isBlankText, Text.toList_dropChars, List.all_eq_true]
      intro c hc
      exact List.all_eq_true.1 hline c (List.mem_of_mem_drop hc)
    · exact hline
  | false =>
    obtain ⟨c, hc, hblank⟩ := Text.isBlankText_eq_false_iff.1 hline
    rw [cutLine_of_written hline (h hline), Text.isBlankText_eq_false_iff, Text.toList_dropChars]
    rw [← List.take_append_drop m line.toList, List.mem_append] at hc
    refine ⟨c, hc.resolve_left fun hmem => ?_, hblank⟩
    rw [Text.isBlank_of_mem_take (h hline) hmem] at hblank
    exact absurd hblank (by simp)

end Cut

theorem mem_writtenLines {s line : String} :
    line ∈ writtenLines s ↔ line ∈ Text.lines s ∧ Text.isBlankText line = false := by
  rw [writtenLines, List.mem_filter, Bool.not_eq_true']

theorem not_mem_cutLine {m : Nat} {line : String} {c : Char} (h : c ∉ line.toList) :
    c ∉ (cutLine m line).toList := by
  rw [cutLine]
  split
  · rw [Text.toList_dropChars]
    exact fun hc => h (List.mem_of_mem_drop hc)
  · exact h

/-- A text with something on one of its lines is shown without blank ends and without the least
indentation of the lines with something on them. -/
theorem lines_dedent {raw : String} (h : ∃ l ∈ Text.lines raw, Text.isBlankText l = false) :
    ∃ m, IsLeast {n | ∃ l ∈ writtenLines raw, Text.indentation l = n} m ∧
      Text.lines (dedent raw) = (dropBlankEnds (Text.lines raw)).map (cutLine m) := by
  have hfilter := writtenLines_eq_filter h
  have hindent : commonIndent? (dropBlankEnds (Text.lines raw)) =
      ((writtenLines raw).map Text.indentation).min? := by
    rw [commonIndent?, hfilter]
  obtain ⟨written, hwritten, hsome⟩ := h
  have hmem : written ∈ writtenLines raw := mem_writtenLines.2 ⟨hwritten, hsome⟩
  obtain ⟨m, hm⟩ := Option.isSome_iff_exists.1
    (List.isSome_min?_of_mem (List.mem_map_of_mem (f := Text.indentation) hmem))
  obtain ⟨hleast, hle⟩ := List.min?_eq_some_iff.1 hm
  refine ⟨m, ⟨List.mem_map.1 hleast, ?_⟩, ?_⟩
  · rintro n ⟨l, hl, rfl⟩
    exact hle _ (List.mem_map_of_mem hl)
  · rw [dedent]
    simp only [hindent, hm]
    refine Text.cutAt_joinWith ?_ fun line hline => ?_
    · rw [hfilter] at hmem
      have hkept : written ∈ dropBlankEnds (Text.lines raw) := List.mem_of_mem_filter hmem
      exact List.ne_nil_of_mem (List.mem_map_of_mem hkept)
    · obtain ⟨l, hl, rfl⟩ := List.mem_map.1 hline
      refine not_mem_cutLine (Text.not_mem_of_mem_lines (s := raw) ?_)
      rw [append_dropBlankEnds ⟨written, hwritten, hsome⟩]
      exact List.mem_append_left _ (List.mem_append_right _ hl)

/-! ## Formatted commands -/

/-- The formatted command has the lines of the command without the indentation that they share. The
least indented line then begins with its first character that is not blank. -/
theorem dedents_dedent {raw : String} (h : ∃ l ∈ Text.lines raw, Text.isBlankText l = false) :
    ∃ m, Dedents m raw (dedent raw) := by
  obtain ⟨m, hleast, hlines⟩ := lines_dedent h
  have hle : ∀ l ∈ writtenLines raw, m ≤ Text.indentation l := fun l hl => hleast.2 ⟨l, hl, rfl⟩
  have hkept : ∀ l ∈ dropBlankEnds (Text.lines raw), Text.isBlankText l = false →
      l ∈ writtenLines raw := by
    intro l hl hwritten
    rw [writtenLines_eq_filter h]
    exact List.mem_filter.2 ⟨hl, by rw [hwritten]; rfl⟩
  have hblank : ∀ l ∈ dropBlankEnds (Text.lines raw),
      Text.isBlankText (cutLine m l) = Text.isBlankText l :=
    fun l hl => isBlankText_cutLine fun hwritten => hle l (hkept l hl hwritten)
  have hwritten : writtenLines (dedent raw) = (writtenLines raw).map (Text.dropChars m) := by
    rw [writtenLines_eq_filter h, writtenLines, hlines, List.filter_map]
    have hfilter : (dropBlankEnds (Text.lines raw)).filter
          ((fun l => !Text.isBlankText l) ∘ cutLine m) =
        (dropBlankEnds (Text.lines raw)).filter fun l => !Text.isBlankText l :=
      List.filter_congr fun l hl => by rw [Function.comp_apply, hblank l hl]
    rw [hfilter]
    refine List.map_congr_left fun l hl => ?_
    obtain ⟨hmem, hline⟩ := List.mem_filter.1 hl
    rw [Bool.not_eq_true'] at hline
    exact cutLine_of_written hline (hle l (hkept l hmem hline))
  refine ⟨m, hleast, hwritten, fun l hl => ⟨?_, fun c => Text.isBlank_of_mem_take (hle l hl)⟩, ?_,
    dropBlankEnds (Text.lines raw), append_dropBlankEnds h, ?_⟩
  · exact Nat.le_trans (hle l hl) (Nat.le_of_lt (Text.indentation_lt (mem_writtenLines.1 hl).2))
  · obtain ⟨l, hl, rfl⟩ := hleast.1
    rw [hwritten]
    refine ⟨_, List.mem_map_of_mem hl, ?_⟩
    rw [Text.toList_dropChars]
    exact Text.exists_head?_drop_indentation (mem_writtenLines.1 hl).2
  · rw [hlines, List.map_map]
    exact List.map_congr_left hblank

/-- The documentation of a task has the text of its command, as written and formatted. -/
theorem command_of_ofSource {dialect : Literal.Dialect} {t : TaskSource} {info : TaskInfo}
    {raw : String} (hinfo : TaskInfo.ofSource dialect t = .ok info)
    (hraw : t.command.bind Expr.text? = some raw) :
    info.command = some (CommandInfo.ofText raw) := by
  obtain ⟨inputs, -, hinfo⟩ := exists_of_bind_eq_ok hinfo
  obtain ⟨outputs, -, hinfo⟩ := exists_of_bind_eq_ok hinfo
  obtain ⟨command, hcommand, hinfo⟩ := exists_of_bind_eq_ok hinfo
  obtain rfl := Except.ok.inj hinfo
  obtain ⟨e, he, htext⟩ := Option.bind_eq_some_iff.1 hraw
  rw [he, Option.mapM_some, printed, htext] at hcommand
  obtain rfl := Except.ok.inj hcommand
  rfl

/-- **Formatting a command is faithful.** Of a command with something on one of its lines, the
formatted command has all the lines with something on them, in order, without the least indentation
that one of them has; one of them is then not indented. Blank lines stay blank, and only a blank
first and a blank last line are left out. This is what the documentation of a task shows. -/
theorem dedent_faithful (raw : String)
    (h : ∃ l ∈ Text.lines raw, Text.isBlankText l = false) :
    (∃ m, Dedents m (CommandInfo.ofText raw).raw (CommandInfo.ofText raw).formatted) ∧
    (CommandInfo.ofText raw).raw = raw ∧
    ∀ (dialect : Literal.Dialect) (t : TaskSource) (info : TaskInfo),
      TaskInfo.ofSource dialect t = .ok info → t.command.bind Expr.text? = some raw →
      info.command = some (CommandInfo.ofText raw) :=
  ⟨dedents_dedent h, rfl, fun _ _ _ => command_of_ofSource⟩

/-- A command with blank lines, at its ends and in between, that are less indented than the
others. -/
def indentedCommand : String :=
  "\n    if x\n \n      y\n  "

theorem dedent_faithful_indented :
    (∃ l ∈ Text.lines indentedCommand, Text.isBlankText l = false) ∧
      (CommandInfo.ofText indentedCommand).formatted = "if x\n \n  y" ∧
      ∃ m, Dedents m indentedCommand (CommandInfo.ofText indentedCommand).formatted := by
  have hwritten : ∃ l ∈ Text.lines indentedCommand, Text.isBlankText l = false :=
    ⟨"    if x", by decide, by decide⟩
  exact ⟨hwritten, by decide, (dedent_faithful indentedCommand hwritten).1⟩

end Command

end WorkflowDocs
