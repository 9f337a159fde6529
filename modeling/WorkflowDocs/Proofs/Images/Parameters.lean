import WorkflowDocs.Images.TaskImage
import WorkflowDocs.Proofs.Decimal.Characters
import WorkflowDocs.Proofs.Wdl.Mentions

/-!
# Which images count as parameterized

An image depends on a parameter when an identifier occurs in the expression that names it. Whether
it counts as parameterized is read off otherwise: a reference or an application always does, a
string never does, and any other expression does unless its printed form has a slash or a colon in
it. This is not the same where a string has an identifier in an interpolated expression, where an
expression of another kind with an identifier prints a slash or a colon, and where an expression
without identifiers is an application or prints neither.

## Main definitions

* `Piece.IsQuoted`, `Expr.InQuotes`: strings as they are written
* `TaskImage.Counts`: what counts as parameterized
* `TaskImage.Misread`: an expression that counts as parameterized without reason, or does not count

## Main results

* `TaskImage.quote_not_head`: only strings and references print a quotation mark in front
* `TaskImage.isParameterized_iff`: which images count as parameterized
* `TaskImage.parameterized_iff_mentions`: when that means that an identifier occurs
* `TaskImage.interpolated_counts_as_fixed`: a string with an identifier in it
-/

namespace WorkflowDocs

/-- The pieces of a string stand between two quotation marks of one kind. -/
def Piece.IsQuoted (pieces : List Piece) : Prop :=
  ∃ mark ∈ ["\"", "'"], ∃ inner, pieces = .text mark :: inner ++ [.text mark]

namespace Expr

/-- Whether an expression is a string. -/
def isString : Expr → Bool
  | .string _ => true
  | _ => false

/-- A string is written in quotation marks. -/
def InQuotes : Expr → Prop
  | .string pieces => Piece.IsQuoted pieces
  | _ => True

end Expr

namespace TaskImage

theorem head_of_not_mem {s : String} (hdouble : '"' ∉ s.toList) (hsingle : '\'' ∉ s.toList) :
    s.toList.head?.any isQuote = false := by
  cases hs : s.toList with
  | nil => rfl
  | cons c cs =>
    rw [hs, List.mem_cons, not_or] at hdouble hsingle
    simp [isQuote, Ne.symm hdouble.1, Ne.symm hsingle.1]

/-- A string is printed with a quotation mark in front. -/
theorem quote_head {pieces : List Piece} {s : String} (hquotes : Piece.IsQuoted pieces)
    (h : (Expr.string pieces).text? = some s) : s.toList.head?.any isQuote = true := by
  obtain ⟨mark, hmark, inner, rfl⟩ := hquotes
  obtain ⟨rest, -, rfl⟩ := Option.map_eq_some_iff.1 h
  simp only [List.mem_cons, List.not_mem_nil, or_false] at hmark
  rcases hmark with rfl | rfl <;> simp [isQuote]

/-- Apart from strings and references, nothing is printed with a quotation mark in front. -/
theorem quote_not_head {e : Expr} {s : String} (hstring : e.isString = false)
    (hkind : isReference e = false) (h : e.text? = some s) :
    s.toList.head?.any isQuote = false := by
  cases e with
  | boolean b =>
    obtain rfl := Option.some.inj h
    cases b <;> decide
  | int n =>
    obtain rfl := Option.some.inj h
    exact head_of_not_mem (Decimal.not_mem_intText (by decide) (by decide) n)
      (Decimal.not_mem_intText (by decide) (by decide) n)
  | float x =>
    obtain rfl := Option.some.inj h
    exact head_of_not_mem (Decimal.not_mem_write (by decide) (by decide) numberLayout x)
      (Decimal.not_mem_write (by decide) (by decide) numberLayout x)
  | null =>
    obtain rfl := Option.some.inj h
    decide
  | placeholder options value =>
    obtain ⟨v, -, rfl⟩ := Option.map_eq_some_iff.1 h
    simp [placeholderText, isQuote]
  | array items type =>
    obtain ⟨ts, -, rfl⟩ := Option.map_eq_some_iff.1 h
    simp [isQuote]
  | pair left right =>
    obtain ⟨l, -, h⟩ := Option.bind_eq_some_iff.1 h
    obtain ⟨r, -, h⟩ := Option.bind_eq_some_iff.1 h
    obtain rfl := Option.some.inj h
    simp [isQuote]
  | map entries =>
    obtain ⟨ts, -, rfl⟩ := Option.map_eq_some_iff.1 h
    simp [isQuote]
  | struct members =>
    obtain ⟨ts, -, rfl⟩ := Option.map_eq_some_iff.1 h
    simp [isQuote]
  | ifThenElse condition yes no =>
    obtain ⟨c, -, h⟩ := Option.bind_eq_some_iff.1 h
    obtain ⟨y, -, h⟩ := Option.bind_eq_some_iff.1 h
    obtain ⟨n, -, h⟩ := Option.bind_eq_some_iff.1 h
    obtain rfl := Option.some.inj h
    simp [isQuote]
  | string pieces => cases hstring
  | ident name => cases hkind
  | get value member => cases hkind
  | apply function args => cases hkind

theorem looksLikeName_iff {s : String} :
    looksLikeName s = true ↔
      s.toList.head?.any isQuote = false ∧ '/' ∉ s.toList ∧ ':' ∉ s.toList := by
  simp [looksLikeName, and_assoc]

/-- What counts as parameterized, with the printed form `s`: references and applications do, strings
do not, and other expressions do unless they print a slash or a colon. -/
def Counts (s : String) (e : Expr) : Prop :=
  isReference e = true ∨ (e.isString = false ∧ '/' ∉ s.toList ∧ ':' ∉ s.toList)

/-- What the text of an expression is taken for. The quotation mark in front tells strings from the
other expressions that are no references. -/
theorem isParameterized_iff {e : Expr} {s : String} (h : e.text? = some s)
    (hquotes : e.InQuotes) :
    ∃ i, analyze? e = some i ∧ (i.isParameterized = true ↔ Counts s e) := by
  simp only [analyze?, h, Option.bind_eq_bind, Option.bind_some]
  by_cases hkind : isReference e = true
  · rw [if_pos hkind]
    exact ⟨_, rfl, iff_of_true rfl (.inl hkind)⟩
  · have hlooks : looksLikeName s = true ↔
        e.isString = false ∧ '/' ∉ s.toList ∧ ':' ∉ s.toList := by
      rw [looksLikeName_iff]
      refine and_congr_left fun _ => ?_
      cases hstring : e.isString with
      | false => exact iff_of_true (quote_not_head hstring (Bool.eq_false_iff.2 hkind) h) rfl
      | true =>
        cases e with
        | string pieces => simp [quote_head hquotes h]
        | _ => cases hstring
    rw [if_neg hkind]
    by_cases hname : looksLikeName s = true
    · rw [if_pos hname]
      exact ⟨_, rfl, iff_of_true rfl (.inr (hlooks.1 hname))⟩
    · rw [if_neg hname]
      exact ⟨_, rfl, iff_of_false Bool.false_ne_true (not_or.2 ⟨hkind, mt hlooks.2 hname⟩)⟩

/-- An expression with the printed form `s` that counts as fixed although an identifier occurs in
it, or as parameterized although none does. -/
inductive Misread (s : String) (e : Expr) : Prop
  /-- A string with an identifier in an interpolated expression counts as fixed. -/
  | interpolated (hstring : e.isString = true) (h : ∃ x, e.Mentions x)
  /-- So does another expression with an identifier that prints a slash or a colon, such as a
  conditional between two images. -/
  | composed (hstring : e.isString = false) (hkind : isReference e = false)
      (h : ∃ x, e.Mentions x) (hmark : '/' ∈ s.toList ∨ ':' ∈ s.toList)
  /-- An application without identifiers counts as parameterized. -/
  | applied (hkind : isReference e = true) (h : ¬ ∃ x, e.Mentions x)
  /-- So does another expression without identifiers that prints no slash and no colon. -/
  | plain (hstring : e.isString = false) (hkind : isReference e = false)
      (h : ¬ ∃ x, e.Mentions x) (hmark : '/' ∉ s.toList ∧ ':' ∉ s.toList)

theorem isString_eq_false_of_isReference {e : Expr} (h : isReference e = true) :
    e.isString = false := by
  cases e with
  | string pieces => cases h
  | _ => rfl

section Misread

variable {s : String} {e : Expr}

/-- Each kind of misread expression counts as parameterized without an identifier, or has one and
does not count. -/
theorem Misread.not_iff (h : Misread s e) : ¬ (Counts s e ↔ ∃ x, e.Mentions x) := by
  intro hagree
  cases h with
  | interpolated hstring hmentions =>
    rcases hagree.2 hmentions with hkind | ⟨hother, -⟩
    · rw [isString_eq_false_of_isReference hkind] at hstring
      cases hstring
    · rw [hother] at hstring
      cases hstring
  | composed hstring hkind hmentions hmark =>
    rcases hagree.2 hmentions with hreference | ⟨-, hslash, hcolon⟩
    · rw [hkind] at hreference
      cases hreference
    · exact hmark.elim hslash hcolon
  | applied hkind hmentions => exact hmentions (hagree.1 (.inl hkind))
  | plain hstring hkind hmentions hmark => exact hmentions (hagree.1 (.inr ⟨hstring, hmark⟩))

theorem exists_mentions_of_counts (h : ¬ Misread s e) (hcounts : Counts s e) :
    ∃ x, e.Mentions x := by
  refine Classical.byContradiction fun hmentions => h ?_
  cases hkind : isReference e with
  | true => exact .applied hkind hmentions
  | false =>
    rcases hcounts with hreference | ⟨hstring, hmark⟩
    · rw [hkind] at hreference
      cases hreference
    · exact .plain hstring hkind hmentions hmark

theorem counts_of_mentions (h : ¬ Misread s e) (hmentions : ∃ x, e.Mentions x) : Counts s e := by
  cases hkind : isReference e with
  | true => exact .inl hkind
  | false =>
    cases hstring : e.isString with
    | true => exact absurd (.interpolated hstring hmentions) h
    | false =>
      refine .inr ⟨hstring, fun hslash => ?_, fun hcolon => ?_⟩
      · exact h (.composed hstring hkind hmentions (.inl hslash))
      · exact h (.composed hstring hkind hmentions (.inr hcolon))

end Misread

/-- **An image counts as parameterized where an identifier occurs, unless it is misread**: an
expression that prints, with its quotation marks if it is a string, is read as an image. It counts
as parameterized exactly if an identifier occurs in it at some depth, apart from the four kinds of
expressions that are misread, for which this fails. -/
theorem parameterized_iff_mentions {e : Expr} {s : String} (h : e.text? = some s)
    (hquotes : e.InQuotes) :
    ∃ i, analyze? e = some i ∧
      ((i.isParameterized = true ↔ ∃ x, e.Mentions x) ↔ ¬ Misread s e) := by
  obtain ⟨i, hi, hflag⟩ := isParameterized_iff h hquotes
  refine ⟨i, hi, ?_⟩
  rw [hflag]
  constructor
  · intro hagree hmisread
    exact hmisread.not_iff hagree
  · intro hread
    exact ⟨exists_mentions_of_counts hread, counts_of_mentions hread⟩

/-- A conditional between two images without tags. -/
def chosenImage : Expr :=
  .ifThenElse (.get (.ident "fast") none) (.string [.text "\"", .text "aligner", .text "\""])
    (.string [.text "\"", .text "mapper", .text "\""])

/-- An image with an identifier in it. -/
def taggedImage : Expr :=
  .string [.text "\"", .text "aligner:", .hole [] (.get (.ident "tag") none), .text "\""]

/-- An image that is put together without identifiers. -/
def joinedImage : Expr :=
  .apply "_add" [.string [.text "\"", .text "aligner", .text "\""],
    .string [.text "\"", .text ":1", .text "\""]]

theorem parameterized_iff_mentions_chosen :
    chosenImage.text? = some "if fast then \"aligner\" else \"mapper\"" ∧ chosenImage.InQuotes ∧
    ∃ i, analyze? chosenImage = some i ∧
      (i.isParameterized = true ↔ ∃ x, chosenImage.Mentions x) := by
  have htext : chosenImage.text? = some "if fast then \"aligner\" else \"mapper\"" := by decide
  have hmentions : ∃ x, chosenImage.Mentions x :=
    ⟨"fast", .part List.mem_cons_self (.part List.mem_cons_self .ident)⟩
  obtain ⟨i, hi, hread⟩ := parameterized_iff_mentions htext trivial
  refine ⟨htext, trivial, i, hi, hread.2 fun hmisread => ?_⟩
  cases hmisread with
  | interpolated hstring => cases hstring
  | composed _ _ _ hmark => exact absurd hmark (by decide)
  | applied hkind => cases hkind
  | plain _ _ hnone => exact hnone hmentions

/-- A string with an identifier in an interpolated expression counts as fixed, and an application
without identifiers as parameterized. -/
theorem interpolated_counts_as_fixed :
    (taggedImage.InQuotes ∧ taggedImage.Mentions "tag" ∧
      analyze? taggedImage = some ⟨"aligner:~\x7btag\x7d", false, none, none⟩) ∧
    (joinedImage.InQuotes ∧ (¬ ∃ x, joinedImage.Mentions x) ∧
      analyze? joinedImage = some ⟨"\"aligner\" + \":1\"", true, none, none⟩) := by
  have hquotes : taggedImage.InQuotes :=
    ⟨"\"", List.mem_cons_self, [.text "aligner:", .hole [] (.get (.ident "tag") none)], rfl⟩
  refine ⟨⟨hquotes, ?_, by decide⟩, trivial, ?_, by decide⟩
  · exact .part List.mem_cons_self (.part List.mem_cons_self .ident)
  · rintro ⟨x, h⟩
    cases h with
    | part hpart h =>
      simp only [joinedImage, Expr.parts, List.mem_cons, List.not_mem_nil, or_false] at hpart
      rcases hpart with rfl | rfl <;> cases h with
      | part hinner _ => simp [Expr.parts, Piece.value?] at hinner

end TaskImage

end WorkflowDocs
