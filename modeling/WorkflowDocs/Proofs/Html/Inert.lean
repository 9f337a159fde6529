import WorkflowDocs.Html.Basic
import WorkflowDocs.Proofs.Text.Occurrences

/-!
# Tags in a page

A tag begins with a sharp bracket, and text that is shown has none when it is written. So a tag can
only come from markup, and how often one is opened in a page is the sum over its parts, as long as
no chunk of markup ends within the opening of one.

## Main definitions

* `Html.Opens`: a part of a page in which a tag is opened a given number of times
* `Html.Inert`: a part of a page without the tag in any of its chunks

## Main results

* `Html.not_mem_escape`: text that is shown has no sharp bracket
* `Html.inert_append`, `Html.inert_text` and others: inert parts by the way they are made
* `Html.Inert.opens`, `Html.Opens.append`: putting parts together
-/

namespace WorkflowDocs.Html

open Text (Holds occurrences)

variable {tag : List Char} {a b h : Html} {j k : Nat}

/-! ## Rendering -/

theorem render_append (a b : Html) : render (a ++ b) = render a ++ render b := by
  rw [render, List.map_append, String.join_append]
  rfl

theorem render_singleton (c : Chunk) : render [c] = renderChunk c := by
  simp [render, String.join]

theorem not_mem_escapeChar (c : Char) : '<' ∉ escapeChar c := by
  unfold escapeChar
  split <;> simp_all [eq_comm]

/-- Text that is shown has no sharp bracket. -/
theorem not_mem_escape (s : String) : '<' ∉ (escape s).toList := by
  rw [escape, String.toList_ofList, List.mem_flatMap]
  rintro ⟨c, -, hc⟩
  exact not_mem_escapeChar c hc

/-! ## Inert parts -/

/-- No chunk has the tag in it or ends within the opening of one. -/
def Inert (tag : List Char) (h : Html) : Prop :=
  ∀ c ∈ h, Holds ('<' :: tag) 0 (renderChunk c).toList

theorem inert_nil : Inert tag [] :=
  fun _ hc => absurd hc List.not_mem_nil

theorem inert_append : Inert tag (a ++ b) ↔ Inert tag a ∧ Inert tag b :=
  List.forall_mem_append

/-- Inert markup, from its characters. -/
theorem Inert.ofList {cs : List Char} (h : Text.holdsChars ('<' :: tag) 0 cs = true) :
    Inert tag (markup (String.ofList cs)) :=
  List.forall_mem_singleton.2 (Holds.ofList h)

theorem inert_markup_of_not_mem {s : String} (h : '<' ∉ s.toList) : Inert tag (markup s) :=
  List.forall_mem_singleton.2 (.of_not_mem h)

/-- What does not have the beginning of a tag does not have the tag. -/
theorem Inert.of_begins {longer : List Char} (htag : tag <+: longer) (h : Inert tag a) :
    Inert longer a :=
  fun c hc => .of_begins (List.prefix_cons_inj '<' |>.2 htag) (h c hc)

theorem inert_text {s : String} : Inert tag (text s) :=
  List.forall_mem_singleton.2 (.of_not_mem (not_mem_escape s))

theorem inert_number {n : Nat} : Inert tag (number n) :=
  inert_text

theorem Inert.only {condition : Bool} (hpart : Inert tag h) : Inert tag (only condition h) := by
  cases condition with
  | false => exact inert_nil
  | true => exact hpart

theorem inert_each_of_mem {α : Type} {xs : List α} {part : α → Html}
    (h : ∀ x ∈ xs, Inert tag (part x)) : Inert tag (each xs part) := by
  intro c hc
  obtain ⟨x, hx, hmem⟩ := List.mem_flatMap.1 hc
  exact h x hx c hmem

theorem inert_each {α : Type} {xs : List α} {part : α → Html} (h : ∀ x, Inert tag (part x)) :
    Inert tag (each xs part) :=
  inert_each_of_mem fun x _ => h x

theorem inert_separated {separator : Html} {parts : List Html} (hseparator : Inert tag separator)
    (hparts : ∀ part ∈ parts, Inert tag part) : Inert tag (separated separator parts) := by
  fun_induction separated separator parts with
  | case1 => exact inert_nil
  | case2 part => exact hparts part List.mem_cons_self
  | case3 part parts _ ih =>
    obtain ⟨hpart, hrest⟩ := List.forall_mem_cons.1 hparts
    exact inert_append.2 ⟨inert_append.2 ⟨hpart, hseparator⟩, ih hrest⟩

theorem inert_elim {α : Type} {x : Option α} {part : α → Html} (h : ∀ y, Inert tag (part y)) :
    Inert tag (x.elim [] part) := by
  cases x with
  | none => exact inert_nil
  | some y => exact h y

theorem inert_line {indent : Nat} (hcontent : Inert tag h) : Inert tag (line indent h) := by
  have hblanks : '<' ∉ (String.ofList (List.replicate indent ' ')).toList := by
    rw [String.toList_ofList, List.mem_replicate]
    exact fun hmem => absurd hmem.2 (by decide)
  rw [line, inert_append, inert_append]
  exact ⟨⟨inert_markup_of_not_mem hblanks, hcontent⟩, inert_markup_of_not_mem (by decide)⟩

theorem inert_line_iff {indent : Nat} : Inert tag (line indent h) ↔ Inert tag h := by
  refine ⟨fun hline => ?_, inert_line⟩
  rw [line, inert_append, inert_append] at hline
  exact hline.1.2

theorem inert_ending {c : Counted} : Inert tag c.ending :=
  .only inert_text

/-! ## Counting -/

/-- The tag is opened `k` times in a part of a page, which does not end within the opening of
one. -/
def Opens (tag : List Char) (k : Nat) (h : Html) : Prop :=
  Holds ('<' :: tag) k (render h).toList

theorem Opens.append (ha : Opens tag j a) (hb : Opens tag k b) : Opens tag (j + k) (a ++ b) := by
  rw [Opens, render_append, String.toList_append]
  exact Holds.append ha hb

theorem opens_singleton {c : Chunk} :
    Opens tag k [c] ↔ Holds ('<' :: tag) k (renderChunk c).toList := by
  rw [Opens, render_singleton]

theorem Inert.opens (h : Inert tag a) : Opens tag 0 a := by
  induction a with
  | nil => exact .nil
  | cons c cs ih =>
    obtain ⟨hc, hcs⟩ := List.forall_mem_cons.1 h
    exact (opens_singleton.2 hc).append (ih hcs)

/-- Markup with a given number of tags, from its characters. -/
theorem Opens.ofList {cs : List Char} (h : Text.holdsChars ('<' :: tag) k cs = true) :
    Opens tag k (markup (String.ofList cs)) :=
  opens_singleton.2 (Holds.ofList h)

/-- Markup that is put together from two texts. -/
theorem Opens.concat {s t : String} (hs : Opens tag j (markup s)) (ht : Opens tag k (markup t)) :
    Opens tag (j + k) (markup (s ++ t)) := by
  refine opens_singleton.2 ?_
  rw [renderChunk, String.toList_append]
  exact .append (opens_singleton.1 hs) (opens_singleton.1 ht)

theorem Inert.concat {s t : String} (hs : Inert tag (markup s)) (ht : Inert tag (markup t)) :
    Inert tag (markup (s ++ t)) :=
  List.forall_mem_singleton.2 (opens_singleton.1 (Opens.concat hs.opens ht.opens))

/-- Any markup may stand before markup that begins with a tag. -/
theorem Opens.markup_append {cs : List Char} (htag : '<' ∉ tag)
    (h : Text.holdsChars ('<' :: tag) k ('<' :: cs) = true) (s : String) :
    Opens tag (occurrences ('<' :: tag) s.toList + k)
      (markup s ++ markup (String.ofList ('<' :: cs))) := by
  have hchars : (render (markup s ++ markup (String.ofList ('<' :: cs)))).toList =
      s.toList ++ '<' :: cs := by
    simp [markup, render, renderChunk, String.join]
  rw [Opens, hchars]
  exact Holds.append_left htag (Text.holdsChars_iff.1 h) s.toList

theorem Opens.append_inert (ha : Opens tag k a) (hb : Inert tag b) : Opens tag k (a ++ b) :=
  ha.append hb.opens

theorem Inert.append_opens (ha : Inert tag a) (hb : Opens tag k b) : Opens tag k (a ++ b) := by
  rw [← Nat.zero_add k]
  exact ha.opens.append hb

end WorkflowDocs.Html
