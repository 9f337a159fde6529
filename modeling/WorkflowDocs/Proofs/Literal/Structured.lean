import WorkflowDocs.Literal.Basic
import WorkflowDocs.Proofs.Fields
import WorkflowDocs.Proofs.Literal.QuotedText
import WorkflowDocs.Proofs.Wdl.Quotes

/-!
# Structured literals and their tokens

Texts, lists of them and dictionaries with texts as their keys, nested as they like, are written
with brackets, commas and colons. The scanner finds these again, since a text is one token whatever
is in it. It gives up on brackets that are nested too deeply, and only on these.

What is scanned is said for any rest that does not begin with a mark, so that written forms can be
put one behind the other.

## Main definitions

* `Structured`: texts, lists and dictionaries with distinct keys
* `tokens`, `depth`: the tokens of the written form, and how deeply its brackets are nested
* `ScansAs`: characters that are scanned as tokens, wherever they stand

## Main results

* `scansAs_text`: what the written form of a structured literal is scanned as
* `tokenize?_text`: the tokens of the written form
-/

namespace WorkflowDocs.Literal

/-- Texts, and lists and dictionaries of structured literals; the keys of a dictionary are distinct
texts. -/
inductive Structured : Literal → Prop where
  | string (s : String) : Structured (.string s)
  | list {items : List Literal} (h : ∀ l ∈ items, Structured l) : Structured (.list items)
  | dict {fields : Fields Literal} (hnames : fields.names.Nodup)
      (h : ∀ f ∈ fields, Structured f.2) :
      Structured (.dict (fields.map fun f => (.string f.1, f.2)))

/-! ## Tokens and depth -/

/-- Tokens of items with a comma between neighbours. -/
def joinTokens : List (List Token) → List Token
  | [] => []
  | [ts] => ts
  | ts :: rest => ts ++ .comma :: joinTokens rest

/-- The greatest of some numbers. -/
def greatest (ns : List Nat) : Nat :=
  ns.foldr max 0

mutual

/-- The tokens of the written form of a structured literal. -/
def tokens : Literal → List Token
  | .string s => [.text (s.toList.map Char.toNat)]
  | .list items => .opening .square :: (joinTokens (itemTokens items) ++ [.closing .square])
  | .dict entries => .opening .curly :: (joinTokens (entryTokens entries) ++ [.closing .curly])
  | _ => []

/-- The tokens of the items of a list. -/
def itemTokens : List Literal → List (List Token)
  | [] => []
  | l :: ls => l.tokens :: itemTokens ls

/-- The tokens of the entries of a dictionary. -/
def entryTokens : List (Literal × Literal) → List (List Token)
  | [] => []
  | (k, v) :: es => (k.tokens ++ .colon :: v.tokens) :: entryTokens es

end

mutual

/-- How deeply the brackets of a literal are nested. -/
def depth : Literal → Nat
  | .list items => greatest (itemDepths items) + 1
  | .dict entries => greatest (entryDepths entries) + 1
  | _ => 0

/-- How deeply the brackets of each item are nested. -/
def itemDepths : List Literal → List Nat
  | [] => []
  | l :: ls => l.depth :: itemDepths ls

/-- How deeply the brackets of each entry are nested. -/
def entryDepths : List (Literal × Literal) → List Nat
  | [] => []
  | (k, v) :: es => max k.depth v.depth :: entryDepths es

end

@[simp] theorem depth_string (s : String) : (string s).depth = 0 := rfl

theorem texts_eq_map (items : List Literal) : texts items = items.map text := by
  induction items with
  | nil => rfl
  | cons l ls ih => rw [texts, ih, List.map_cons]

theorem itemTokens_eq_map (items : List Literal) : itemTokens items = items.map tokens := by
  induction items with
  | nil => rfl
  | cons l ls ih => rw [itemTokens, ih, List.map_cons]

theorem itemDepths_eq_map (items : List Literal) : itemDepths items = items.map depth := by
  induction items with
  | nil => rfl
  | cons l ls ih => rw [itemDepths, ih, List.map_cons]

section Entries

variable (fields : Fields Literal)

theorem entryTexts_eq_map :
    entryTexts (fields.map fun f => (.string f.1, f.2)) =
      fields.map fun f => (string f.1).text ++ ": " ++ f.2.text := by
  induction fields with
  | nil => rfl
  | cons f fields ih => rw [List.map_cons, entryTexts, ih, List.map_cons]

theorem entryTokens_eq_map :
    entryTokens (fields.map fun f => (.string f.1, f.2)) =
      fields.map fun f => (string f.1).tokens ++ .colon :: f.2.tokens := by
  induction fields with
  | nil => rfl
  | cons f fields ih => rw [List.map_cons, entryTokens, ih, List.map_cons]

theorem entryDepths_eq_map :
    entryDepths (fields.map fun f => (.string f.1, f.2)) = fields.map fun f => f.2.depth := by
  induction fields with
  | nil => rfl
  | cons f fields ih =>
    rw [List.map_cons, entryDepths, ih, List.map_cons, depth_string, Nat.zero_max]

end Entries

/-! ## Characters that are scanned as tokens -/

namespace Scan

/-- The scanner after some tokens. -/
def after (s : Scan) (ts : List Token) : Scan :=
  { s with tokens := ts.reverse ++ s.tokens }

theorem depth_after (s : Scan) (ts : List Token) : (s.after ts).depth = s.depth := rfl

theorem after_append (s : Scan) (ts ts' : List Token) :
    s.after (ts ++ ts') = (s.after ts).after ts' := by
  simp [after]

theorem emit_eq_after {s : Scan} (hs : s.mode = .gap) (t : Token) : s.emit t = s.after [t] := by
  rw [emit, ← hs]
  rfl

end Scan

/-- Characters that are scanned as tokens before any rest that does not begin with a mark, unless
they have more brackets inside each other than the scanner can still open. -/
def ScansAs (dialect : Dialect) (cs : List Char) (ts : List Token) (depth : Nat) : Prop :=
  ∀ (s : Scan) (rest : List Char), s.mode = .gap → s.depth ≤ maxDepth →
    (∀ c ∈ rest.head?, isMark c = false) →
    s.tokensFrom dialect (cs ++ rest) =
      if s.depth + depth ≤ maxDepth then (s.after ts).tokensFrom dialect rest else none

/-- Characters between two items that are scanned as one token, whatever follows. -/
structure Separates (dialect : Dialect) (sep : List Char) (t : Token) : Prop where
  head : ∀ rest, ∀ c ∈ (sep ++ rest).head?, isMark c = false
  scan : ∀ (s : Scan) (rest : List Char), s.mode = .gap →
    s.tokensFrom dialect (sep ++ rest) = (s.after [t]).tokensFrom dialect rest

variable {dialect : Dialect}

theorem separates_comma : Separates dialect [',', ' '] .comma where
  head := fun rest c hc => by
    obtain rfl := Option.some.inj hc
    decide
  scan := fun s rest hs => by
    refine Scan.tokensFrom_append ?_ rest
    rw [← Scan.emit_eq_after hs, List.foldlM_cons, Scan.step, hs]
    rfl

/-- The blank behind a colon shows that the symbol is no longer. -/
theorem separates_colon : Separates dialect [':', ' '] .colon where
  head := fun rest c hc => by
    obtain rfl := Option.some.inj hc
    decide
  scan := fun s rest hs => by
    refine Scan.tokensFrom_append ?_ rest
    have hsymbol : s.step dialect ':' = some { s with mode := .symbol [':'] } := by
      rw [Scan.step, hs]
      rfl
    rw [← Scan.emit_eq_after hs, List.foldlM_cons, hsymbol]
    rfl

theorem scansAs_nil : ScansAs dialect [] [] 0 := by
  intro s rest _ hdepth _
  rw [if_pos (by simpa using hdepth)]
  rfl

theorem scansAs_quoted (s : String) :
    ScansAs dialect (Text.quoted s).toList [.text (s.toList.map Char.toNat)] 0 := by
  intro scan rest hs hdepth hrest
  rw [if_pos (by simpa using hdepth), Text.quoted, String.toList_ofList,
    Scan.tokensFrom_quoted hs _ hrest, Scan.emit_eq_after hs]

/-- Two parts with a separator between them are nested as deeply as the deeper of them. -/
theorem ScansAs.separate {cs cs' sep : List Char} {ts ts' : List Token} {t : Token}
    {d d' : Nat} (h : ScansAs dialect cs ts d) (hsep : Separates dialect sep t)
    (h' : ScansAs dialect cs' ts' d') :
    ScansAs dialect (cs ++ (sep ++ cs')) (ts ++ t :: ts') (max d d') := by
  intro s rest hs hdepth hrest
  rw [List.append_assoc, List.append_assoc, h s _ hs hdepth (hsep.head _)]
  split
  · rw [hsep.scan (s.after ts) _ hs, h' ((s.after ts).after [t]) rest hs hdepth hrest,
      Scan.depth_after, Scan.depth_after, ← Scan.after_append, ← Scan.after_append,
      List.singleton_append]
    refine if_congr ?_ rfl rfl
    omega
  · rw [if_neg (by omega)]

/-- Items with commas between them. -/
theorem scansAs_joinWith {α : Type} {text : α → String} {tokens : α → List Token}
    {depth : α → Nat} {xs : List α}
    (h : ∀ x ∈ xs, ScansAs dialect (text x).toList (tokens x) (depth x)) :
    ScansAs dialect (Text.joinWith ", " (xs.map text)).toList (joinTokens (xs.map tokens))
      (greatest (xs.map depth)) := by
  induction xs with
  | nil => exact scansAs_nil
  | cons x xs ih =>
    have hx := h x List.mem_cons_self
    have hxs := ih fun y hy => h y (List.mem_cons_of_mem _ hy)
    cases xs with
    | nil =>
      rw [List.map_singleton, List.map_singleton, List.map_singleton, greatest, List.foldr_cons,
        List.foldr_nil, Nat.max_zero]
      exact hx
    | cons y ys =>
      have hjoin := hx.separate separates_comma hxs
      rw [← List.append_assoc] at hjoin
      simp only [List.map_cons, Text.joinWith, String.toList_append, joinTokens] at hjoin ⊢
      exact hjoin

/-- The characters of brackets. -/
def Bracket.chars : Bracket → Char × Char
  | .round => ('(', ')')
  | .square => ('[', ']')
  | .curly => ('\x7b', '\x7d')

theorem Scan.step_opening {s : Scan} (hs : s.mode = .gap) (b : Bracket) :
    s.step dialect b.chars.1 = s.openBracket b := by
  rw [step, hs]
  cases b <;> rfl

theorem Scan.step_closing {s : Scan} (hs : s.mode = .gap) (b : Bracket) :
    s.step dialect b.chars.2 = s.closeBracket b := by
  rw [step, hs]
  cases b <;> rfl

/-- What stands inside a pair of brackets is scanned one level deeper. What follows there is the
closing bracket, and that is no mark. -/
theorem ScansAs.enclose {cs : List Char} {ts : List Token} {d : Nat} (h : ScansAs dialect cs ts d)
    (b : Bracket) :
    ScansAs dialect (b.chars.1 :: (cs ++ [b.chars.2])) (.opening b :: (ts ++ [.closing b]))
      (d + 1) := by
  intro s rest hs hdepth hrest
  rw [List.cons_append, List.append_assoc, Scan.tokensFrom, List.foldlM_cons,
    Scan.step_opening hs, Scan.openBracket]
  split
  · rename_i hopen
    have hclosing : ∀ c ∈ ([b.chars.2] ++ rest).head?, isMark c = false := by
      intro c hc
      obtain rfl := Option.some.inj hc
      cases b <;> decide
    rw [Option.bind_eq_bind, Option.bind_some, ← Scan.tokensFrom,
      h { s.emit (.opening b) with depth := s.depth + 1 } _ rfl hopen hclosing]
    change (if s.depth + 1 + d ≤ maxDepth then _ else _) = _
    rw [Nat.add_assoc, Nat.add_comm 1 d]
    split
    · refine Scan.tokensFrom_cons ?_ rest
      rw [Scan.step_closing rfl, Scan.closeBracket]
      simp [Scan.emit, Scan.after, hs]
    · rfl
  · rw [if_neg (by omega)]
    rfl

/-! ## Structured literals -/

/-- **The written form of a structured literal** is scanned as its tokens. -/
theorem scansAs_text {l : Literal} (h : l.Structured) :
    ScansAs dialect l.text.toList l.tokens l.depth := by
  induction h with
  | string s =>
    rw [text, tokens, depth_string]
    exact scansAs_quoted s
  | @list items _ ih =>
    rw [text, tokens, depth, texts_eq_map, itemTokens_eq_map, itemDepths_eq_map,
      String.toList_append, String.toList_append]
    exact (scansAs_joinWith ih).enclose .square
  | @dict fields _ _ ih =>
    rw [text, tokens, depth, entryTexts_eq_map, entryTokens_eq_map, entryDepths_eq_map,
      String.toList_append, String.toList_append]
    refine (scansAs_joinWith fun f hf => ?_).enclose .curly
    have hentry := (scansAs_quoted f.1).separate separates_colon (ih f hf)
    rw [Nat.zero_max, ← List.append_assoc] at hentry
    rw [String.toList_append, String.toList_append, text, tokens]
    exact hentry

/-- A written form begins with a bracket or a mark. -/
theorem exists_text_cons {l : Literal} (h : l.Structured) :
    ∃ c cs, l.text.toList = c :: cs ∧ c ∈ ['[', '\x7b', '\'', '"'] := by
  cases h with
  | string s =>
    rw [text, Text.quoted, String.toList_ofList, Text.quotedChars]
    refine ⟨_, _, rfl, ?_⟩
    rcases isMark_cases (isMark_quoteMark s.toList) with hmark | hmark <;> rw [hmark] <;> decide
  | list =>
    rw [text, String.toList_append, String.toList_append]
    exact ⟨'[', _, rfl, by decide⟩
  | dict =>
    rw [text, String.toList_append, String.toList_append]
    exact ⟨'\x7b', _, rfl, by decide⟩

/-- The tokens of a written form; none if its brackets are nested too deeply. On an empty margin, a
bracket or a mark is scanned as if a token stood before it. -/
theorem tokenize?_text {l : Literal} (h : l.Structured) :
    tokenize? dialect l.text.toList = if l.depth ≤ maxDepth then some l.tokens else none := by
  have hscan :=
    @scansAs_text dialect l h { Scan.start with mode := .gap } [] rfl (by decide) (by simp)
  have hstart : tokenize? dialect l.text.toList =
      Scan.tokensFrom dialect { Scan.start with mode := .gap } l.text.toList := by
    obtain ⟨c, cs, htext, hc⟩ := exists_text_cons h
    rw [htext, tokenize?, Scan.tokensFrom, List.foldlM_cons, List.foldlM_cons]
    simp only [List.mem_cons, List.not_mem_nil, or_false] at hc
    rcases hc with rfl | rfl | rfl | rfl <;> rfl
  rw [List.append_nil] at hscan
  rw [hstart, hscan]
  change (if 0 + l.depth ≤ maxDepth then _ else _) = _
  rw [Nat.zero_add]
  refine if_congr Iff.rfl ?_ rfl
  simp [Scan.tokensFrom, Scan.finish, Scan.close, Scan.after, Scan.start]

/-! ## Line ends -/

theorem return_not_mem_text {l : Literal} (h : l.Structured) : '\r' ∉ l.text.toList := by
  induction h with
  | string s =>
    rw [text]
    exact return_not_mem_quoted s
  | @list items _ ih =>
    rw [text, texts_eq_map, String.toList_append, String.toList_append]
    have hitems : '\r' ∉ (Text.joinWith ", " (items.map text)).toList := by
      rw [Text.mem_joinWith (by decide)]
      rintro ⟨_, hmem, hreturn⟩
      obtain ⟨l, hl, rfl⟩ := List.mem_map.1 hmem
      exact ih l hl hreturn
    simpa using hitems
  | @dict fields _ _ ih =>
    rw [text, entryTexts_eq_map, String.toList_append, String.toList_append]
    have hentries : '\r' ∉ (Text.joinWith ", " (fields.map fun f =>
        (string f.1).text ++ ": " ++ f.2.text)).toList := by
      rw [Text.mem_joinWith (by decide)]
      rintro ⟨_, hmem, hreturn⟩
      obtain ⟨f, hf, rfl⟩ := List.mem_map.1 hmem
      have hkey := return_not_mem_quoted f.1
      have hvalue := ih f hf
      simp [text, hkey, hvalue] at hreturn
    simpa using hentries

end WorkflowDocs.Literal
