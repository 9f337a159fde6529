import Mathlib.Data.List.Basic
import Mathlib.Data.List.Infix
import WorkflowDocs.Path.Link
import WorkflowDocs.Proofs.Lists

/-!
# Paths and their texts

Cutting a text that was joined gives the texts back, if none of them has the separator in it. So a
path can be read from its text, and a text with steps up before it is the path with as many double
dots. Replacing pieces of a joined text replaces them in each of the texts, if the separator is no
part of a piece.

## Main definitions

* `Path.Spelled`: names that the text of a path can have

## Main results

* `Text.cutAt_joinWith`, `Text.replaceAll_joinWith`: cutting and replacing in a joined text
* `Text.not_infix_replaceChars`: a piece that is replaced does not come up again
* `Path.ofText_text`, `Path.ofText_climb`: reading a path from its text
-/

namespace WorkflowDocs

namespace Text

/-! ## Cutting -/

theorem cutCharsAt_of_not_mem {sep : Char} {cs : List Char} (h : sep ∉ cs) :
    cutCharsAt sep cs = [cs] := by
  induction cs with
  | nil => rfl
  | cons c cs ih =>
    obtain ⟨hc, hcs⟩ := not_or.1 (mt List.mem_cons.2 h)
    rw [cutCharsAt, if_neg (Ne.symm hc), ih hcs]

theorem cutCharsAt_append {sep : Char} {piece : List Char} (h : sep ∉ piece) (rest : List Char) :
    cutCharsAt sep (piece ++ sep :: rest) = piece :: cutCharsAt sep rest := by
  induction piece with
  | nil => rw [List.nil_append, cutCharsAt, if_pos rfl]
  | cons c cs ih =>
    obtain ⟨hc, hcs⟩ := not_or.1 (mt List.mem_cons.2 h)
    rw [List.cons_append, cutCharsAt, if_neg (Ne.symm hc), ih hcs]

theorem toList_joinWith_cons (sep : Char) (name second : String) (rest : List String) :
    (joinWith (String.singleton sep) (name :: second :: rest)).toList =
      name.toList ++ sep :: (joinWith (String.singleton sep) (second :: rest)).toList := by
  simp [joinWith]

/-- Texts that were joined are cut apart again. -/
theorem cutAt_joinWith {sep : Char} {names : List String} (hne : names ≠ [])
    (h : ∀ name ∈ names, sep ∉ name.toList) :
    cutAt sep (joinWith (String.singleton sep) names) = names := by
  induction names with
  | nil => exact absurd rfl hne
  | cons name names ih =>
    have hname : sep ∉ name.toList := h name List.mem_cons_self
    cases names with
    | nil => rw [joinWith, cutAt, cutCharsAt_of_not_mem hname, List.map_singleton,
        String.ofList_toList]
    | cons second rest =>
      have hrest := ih (List.cons_ne_nil _ _) fun x hx => h x (List.mem_cons_of_mem _ hx)
      rw [cutAt, toList_joinWith_cons, cutCharsAt_append hname, List.map_cons,
        String.ofList_toList]
      exact congrArg (name :: ·) hrest

/-! ## Replacing -/

theorem replaceChars_skip (old new : List Char) (k : Nat) (cs : List Char) :
    replaceChars old new k cs = replaceChars old new 0 (cs.drop k) := by
  induction k generalizing cs with
  | zero => rw [List.drop_zero]
  | succ k ih =>
    cases cs with
    | nil => rfl
    | cons c cs => rw [replaceChars, ih, List.drop_succ_cons]

theorem replaceChars_of_begins {old new : List Char} {c : Char} {cs : List Char}
    (h : old <+: c :: cs) :
    replaceChars old new 0 (c :: cs) =
      new ++ replaceChars old new 0 (cs.drop (old.length - 1)) := by
  rw [replaceChars, if_pos (List.isPrefixOf_iff_prefix.2 h), replaceChars_skip]

theorem replaceChars_of_not_begins {old new : List Char} {c : Char} {cs : List Char}
    (h : ¬ old <+: c :: cs) :
    replaceChars old new 0 (c :: cs) = c :: replaceChars old new 0 cs := by
  rw [replaceChars, if_neg (mt List.isPrefixOf_iff_prefix.1 h)]

/-- Replacing is done on both sides of a place that no piece stands across. -/
theorem replaceChars_append {old rest : List Char} (new : List Char)
    (hacross : ∀ c cs, old <+: c :: (cs ++ rest) → old <+: c :: cs) (front : List Char) :
    replaceChars old new 0 (front ++ rest) =
      replaceChars old new 0 front ++ replaceChars old new 0 rest := by
  induction hn : front.length using Nat.strong_induction_on generalizing front with
  | _ n ih =>
    subst hn
    cases front with
    | nil => rfl
    | cons c cs =>
      by_cases hbegins : old <+: c :: cs
      · have hlonger : old <+: c :: (cs ++ rest) :=
          hbegins.trans (List.cons_prefix_cons.2 ⟨rfl, List.prefix_append _ _⟩)
        have hlength : old.length - 1 ≤ cs.length := by
          have hle := hbegins.length_le
          rw [List.length_cons] at hle
          omega
        have hshorter : (cs.drop (old.length - 1)).length < (c :: cs).length := by
          rw [List.length_drop, List.length_cons]
          omega
        rw [List.cons_append, replaceChars_of_begins hlonger, replaceChars_of_begins hbegins,
          List.drop_append_of_le_length hlength, ih _ hshorter _ rfl, List.append_assoc]
      · rw [List.cons_append, replaceChars_of_not_begins (mt (hacross c cs) hbegins),
          replaceChars_of_not_begins hbegins, ih _ (by simp) _ rfl, List.cons_append]

/-- A character that no piece has in it separates what is replaced. -/
theorem replaceChars_append_cons {old : List Char} {sep : Char} (hne : old ≠ [])
    (hsep : sep ∉ old) (new front rest : List Char) :
    replaceChars old new 0 (front ++ sep :: rest) =
      replaceChars old new 0 front ++ sep :: replaceChars old new 0 rest := by
  have hbegins : ¬ old <+: sep :: rest := fun h =>
    hne (List.prefix_nil.1 ((prefix_append_cons_iff [] hsep).1 h))
  rw [replaceChars_append new (fun c cs => (prefix_append_cons_iff (c :: cs) hsep).1),
    replaceChars_of_not_begins hbegins]

theorem replaceAll_joinWith {old : String} {sep : Char} (hne : old.toList ≠ [])
    (hsep : sep ∉ old.toList) (new : String) (names : List String) :
    replaceAll old new (joinWith (String.singleton sep) names) =
      joinWith (String.singleton sep) (names.map (replaceAll old new)) := by
  induction names with
  | nil => rfl
  | cons name names ih =>
    cases names with
    | nil => rfl
    | cons second rest =>
      rw [← String.toList_inj, List.map_cons, List.map_cons, toList_joinWith_cons,
        ← List.map_cons, ← ih]
      simp only [replaceAll, String.toList_ofList, toList_joinWith_cons,
        replaceChars_append_cons hne hsep]

/-- A text in which nothing was put in place of a piece is as it was. -/
theorem replaceChars_eq_self_or (old new cs : List Char) :
    replaceChars old new 0 cs = cs ∨ new <:+: replaceChars old new 0 cs := by
  induction cs with
  | nil => exact .inl rfl
  | cons c cs ih =>
    by_cases hbegins : old <+: c :: cs
    · rw [replaceChars_of_begins hbegins]
      exact .inr (List.prefix_append _ _).isInfix
    · rw [replaceChars_of_not_begins hbegins]
      exact ih.imp (congrArg (c :: ·)) fun h => h.trans (List.suffix_cons _ _).isInfix

theorem replaceChars_of_not_infix {old cs : List Char} (h : ¬ old <:+: cs) (new : List Char) :
    replaceChars old new 0 cs = cs := by
  induction cs with
  | nil => rfl
  | cons c cs ih =>
    obtain ⟨hbegins, hinfix⟩ := not_or.1 (mt List.infix_cons_iff.2 h)
    rw [replaceChars_of_not_begins hbegins, ih hinfix]

/-- A character that is replaced everywhere does not come up again. -/
theorem not_mem_replaceChars_singleton {c : Char} {new : List Char} (hnew : c ∉ new)
    (cs : List Char) : c ∉ replaceChars [c] new 0 cs := by
  induction cs with
  | nil => exact List.not_mem_nil
  | cons x cs ih =>
    by_cases hbegins : [c] <+: x :: cs
    · rw [replaceChars_of_begins hbegins, List.mem_append, not_or]
      exact ⟨hnew, ih⟩
    · have hne : c ≠ x := by simpa [List.cons_prefix_cons] using hbegins
      rw [replaceChars_of_not_begins hbegins, List.mem_cons, not_or]
      exact ⟨hne, ih⟩

section Fresh

variable {o : Char} {os ns : List Char}

/-- What is put in begins with `o`, so a piece without `o` at the front was there before. -/
theorem prefix_of_prefix_replaceChars {piece cs : List Char} (hpiece : o ∉ piece)
    (h : piece <+: replaceChars (o :: os) (o :: ns) 0 cs) : piece <+: cs := by
  induction cs generalizing piece with
  | nil => exact h
  | cons c cs ih =>
    cases piece with
    | nil => exact List.nil_prefix
    | cons x piece =>
      by_cases hbegins : o :: os <+: c :: cs
      · rw [replaceChars_of_begins hbegins, List.cons_append, List.cons_prefix_cons] at h
        exact absurd h.1 (List.ne_of_not_mem_cons hpiece).symm
      · rw [replaceChars_of_not_begins hbegins, List.cons_prefix_cons] at h
        exact List.cons_prefix_cons.2 ⟨h.1, ih (List.not_mem_of_not_mem_cons hpiece) h.2⟩

theorem infix_of_infix_append {front rest piece : List Char} (hfront : o ∉ front)
    (h : o :: piece <:+: front ++ rest) : o :: piece <:+: rest := by
  induction front with
  | nil => exact h
  | cons c front ih =>
    rw [List.cons_append, List.infix_cons_iff, List.cons_prefix_cons] at h
    rcases h with ⟨heq, -⟩ | h
    · exact absurd heq (List.ne_of_not_mem_cons hfront)
    · exact ih (List.not_mem_of_not_mem_cons hfront) h

/-- A piece that is replaced does not come up again: it begins with `o` and has no other, and what
is put in its place begins with `o`, has no other, and goes on differently. -/
theorem not_infix_replaceChars (hos : o ∉ os) (hns : o ∉ ns) (hdiffer : ∀ rest, ¬ os <+: ns ++ rest)
    (cs : List Char) : ¬ o :: os <:+: replaceChars (o :: os) (o :: ns) 0 cs := by
  induction hn : cs.length using Nat.strong_induction_on generalizing cs with
  | _ n ih =>
    subst hn
    cases cs with
    | nil => simp [replaceChars]
    | cons c cs =>
      by_cases hbegins : o :: os <+: c :: cs
      · rw [replaceChars_of_begins hbegins, List.cons_append, List.infix_cons_iff,
          List.cons_prefix_cons, not_or]
        have hshorter : (cs.drop ((o :: os).length - 1)).length < (c :: cs).length := by
          rw [List.length_drop, List.length_cons, List.length_cons]
          omega
        refine ⟨fun h => hdiffer _ h.2, fun h => ?_⟩
        exact ih _ hshorter _ rfl (infix_of_infix_append hns h)
      · rw [replaceChars_of_not_begins hbegins, List.infix_cons_iff, List.cons_prefix_cons, not_or]
        refine ⟨fun h => hbegins ?_, ih _ (by simp) _ rfl⟩
        exact List.cons_prefix_cons.2 ⟨h.1, prefix_of_prefix_replaceChars hos h.2⟩

/-- Before and behind an `o`, pieces are replaced on their own: none begins earlier and goes on
there, for it begins with its only `o`. -/
theorem replaceChars_append_start (hos : o ∉ os) (new front tail : List Char) :
    replaceChars (o :: os) new 0 (front ++ o :: tail) =
      replaceChars (o :: os) new 0 front ++ replaceChars (o :: os) new 0 (o :: tail) := by
  refine replaceChars_append new (fun c cs h => ?_) front
  rw [List.cons_prefix_cons, prefix_append_cons_iff cs hos] at h
  exact List.cons_prefix_cons.2 h

end Fresh

end Text

namespace Path

/-! ## Texts of paths -/

/-- Names that the text of a path can have: none is empty or a dot or has a slash in it. -/
def Spelled (names : List String) : Prop :=
  ∀ name ∈ names, isName name = true ∧ '/' ∉ name.toList

instance (names : List String) : Decidable (Spelled names) :=
  inferInstanceAs (Decidable (∀ name ∈ names, isName name = true ∧ '/' ∉ name.toList))

theorem slash_eq : "/" = String.singleton '/' := by decide

/-- The names of a path are read from the joined names. -/
theorem names_joinWith {names : List String} (h : Spelled names) :
    (Text.cutAt '/' (Text.joinWith "/" names)).filter isName = names := by
  by_cases hne : names = []
  · subst hne
    decide
  · rw [slash_eq, Text.cutAt_joinWith hne fun name hname => (h name hname).2]
    exact List.filter_eq_self.2 fun name hname => (h name hname).1

/-- The joined names of a path do not begin with a slash. -/
theorem head?_joinWith_ne {names : List String} (h : Spelled names) :
    (Text.joinWith "/" names).toList.head? ≠ some '/' := by
  cases names with
  | nil => decide
  | cons name names =>
    obtain ⟨hname, hslash⟩ := h name List.mem_cons_self
    have hne : name.toList ≠ [] := fun hnil => by
      rw [String.toList_eq_nil_iff.1 hnil] at hname
      exact absurd hname (by decide)
    obtain ⟨c, cs, hcs⟩ := List.exists_cons_of_ne_nil hne
    have hc : c ≠ '/' := by
      rintro rfl
      exact hslash (by rw [hcs]; exact List.mem_cons_self)
    cases names with
    | nil => simpa [Text.joinWith, hcs] using hc
    | cons second rest =>
      rw [slash_eq, Text.toList_joinWith_cons, hcs]
      simpa using hc

theorem rootOf_of_head?_ne {cs : List Char} (h : cs.head? ≠ some '/') :
    rootOf cs = .relative ∧ rootOf ('/' :: cs) = .slash ∧
      rootOf ('/' :: '/' :: cs) = .doubleSlash := by
  cases cs with
  | nil => decide
  | cons c cs =>
    have hc : c ≠ '/' := by simpa using h
    exact ⟨by simp [rootOf, hc], by simp [rootOf, hc], by simp [rootOf, hc]⟩

theorem cutAt_slash_append (s : String) : Text.cutAt '/' ("/" ++ s) = "" :: Text.cutAt '/' s := by
  simp [Text.cutAt, Text.cutCharsAt]

/-- A path is read from its text. -/
theorem ofText_text {p : Path} (h : Spelled p.names) : ofText p.text = p := by
  obtain ⟨root, names⟩ := p
  have hnames := names_joinWith h
  obtain ⟨hrelative, hslash, hdouble⟩ := rootOf_of_head?_ne (head?_joinWith_ne h)
  cases root with
  | relative =>
    by_cases hempty : names = []
    · subst hempty
      decide
    · have htext : text ⟨.relative, names⟩ = Text.joinWith "/" names := by
        simp [text, hempty, Root.text]
      rw [htext, ofText, hnames, hrelative]
  | slash =>
    have htext : text ⟨.slash, names⟩ = "/" ++ Text.joinWith "/" names := by simp [text, Root.text]
    rw [htext, ofText, cutAt_slash_append, List.filter_cons_of_neg (by decide), hnames]
    simpa using hslash
  | doubleSlash =>
    have htext : text ⟨.doubleSlash, names⟩ = "/" ++ ("/" ++ Text.joinWith "/" names) := by
      simp only [text, Root.text, ← String.append_assoc]
      rfl
    rw [htext, ofText, cutAt_slash_append, cutAt_slash_append,
      List.filter_cons_of_neg (by decide), List.filter_cons_of_neg (by decide), hnames]
    simpa using hdouble

/-- No path is written as the empty text: this is read as the empty path, which is written as a dot.
-/
theorem text_ne_empty {p : Path} (h : p.root = .relative → Spelled p.names) : p.text ≠ "" := by
  obtain ⟨root, names⟩ := p
  cases root with
  | relative =>
    intro hempty
    have hread := ofText_text (h rfl)
    rw [hempty] at hread
    rw [← hread] at hempty
    exact absurd hempty (by decide)
  | slash => simp [text, Root.text]
  | doubleSlash => simp [text, Root.text]

theorem ofText_up (s : String) : ofText ("../" ++ s) = ⟨.relative, ".." :: (ofText s).names⟩ := by
  have hcut : Text.cutAt '/' ("../" ++ s) = ".." :: Text.cutAt '/' s := by
    simp [Text.cutAt, Text.cutCharsAt]
  rw [ofText, hcut, List.filter_cons_of_pos (by decide)]
  simp [rootOf, ofText]

theorem ofText_climb {s : String} (h : (ofText s).root = .relative) (depth : Nat) :
    ofText (climb depth ++ s) = ⟨.relative, List.replicate depth ".." ++ (ofText s).names⟩ := by
  induction depth with
  | zero =>
    rw [climb, String.empty_append, List.replicate_zero, List.nil_append, ← h]
  | succ depth ih =>
    rw [climb, String.append_assoc, ofText_up, ih, List.replicate_succ, List.cons_append]

end Path

end WorkflowDocs
