import WorkflowDocs.Literal.Standard
import WorkflowDocs.Proofs.Lists
import WorkflowDocs.Proofs.Literal.Structured

/-!
# Structured literals read back

The reader takes the tokens of a structured literal one at a time, with a layer for each open
bracket. A value takes a layer that waits for an item to the same layer holding the value, and
leaves the layers around it alone. An item inside a bracket, or a key and a value, adds to the
content of its layer, which a comma or the closing bracket then takes over.

Along with that go the measures of the reading: a value is at most one higher than its brackets are
nested, and each bracket takes the same number of levels. What the scanner lets through stays within
the limits of both.

## Main definitions

* `term`: the term of a structured literal
* `Layer.ready`, `Layer.holding`: a layer before and after an item
* `ReadsAs`, `Adds`, `Fills`: what tokens do to the innermost layer

## Main results

* `readsAs_tokens`: the tokens of a structured literal are read as its term
* `eval_term`: the value of the term is the literal
* `limit?_text`: the standard dialect gives no written form up
* `read_text`: reading undoes writing, up to the greatest depth of nested brackets
-/

namespace WorkflowDocs.Literal

mutual

/-- The term of a structured literal. -/
def term : Literal → Term
  | .string s => .text (s.toList.map Char.toNat)
  | .list items => .list (itemTerms items)
  | .dict entries => .dict (entryTerms entries)
  | _ => .null

/-- The terms of the items of a list. -/
def itemTerms : List Literal → List Term
  | [] => []
  | l :: ls => l.term :: itemTerms ls

/-- The terms of the entries of a dictionary. -/
def entryTerms : List (Literal × Literal) → List (Term × Term)
  | [] => []
  | (k, v) :: es => (k.term, v.term) :: entryTerms es

end

theorem itemTerms_eq_map (items : List Literal) : itemTerms items = items.map term := by
  induction items with
  | nil => rfl
  | cons l ls ih => rw [itemTerms, ih, List.map_cons]

theorem entryTerms_eq_map (fields : Fields Literal) :
    entryTerms (fields.map fun f => (.string f.1, f.2)) =
      fields.map fun f => ((string f.1).term, f.2.term) := by
  induction fields with
  | nil => rfl
  | cons f fields ih => rw [List.map_cons, entryTerms, ih, List.map_cons]

/-! ## What tokens do to a layer -/

/-- A layer that waits for an item. -/
def Layer.ready (b : Option Bracket) (content : Content) (floor height : Nat) : Layer :=
  ⟨b, content, .plain, .start .full floor, height⟩

/-- A layer with an operand of a height as its item. -/
def Layer.holding (b : Option Bracket) (content : Content) (floor height : Nat) (t : Term)
    (fresh : Bool) (size : Nat) : Layer :=
  ⟨b, content, .plain, ⟨.full, .operator t fresh, .nothing, ⟨[], size, floor⟩⟩, height⟩

theorem Layer.total_holding (b : Option Bracket) (content : Content) (floor height : Nat) (t : Term)
    (fresh : Bool) (size : Nat) :
    (holding b content floor height t fresh size).total = max height size := rfl

/-- The content of a bracket that has just been opened. -/
def Bracket.content : Bracket → Content
  | .curly => .entries [] none
  | _ => .items []

/-- Contents that expressions are read into. -/
def Content.TakesExpressions (c : Content) : Prop :=
  ∀ p, c ≠ .parameters p

theorem takesExpressions_items (ts : List Term) : (Content.items ts).TakesExpressions :=
  fun _ h => Content.noConfusion h

theorem takesExpressions_entries (es : List (Term × Term)) (key : Option Term) :
    (Content.entries es key).TakesExpressions :=
  fun _ h => Content.noConfusion h

theorem takesExpressions_content (b : Bracket) : b.content.TakesExpressions := by
  cases b
  · exact takesExpressions_items []
  · exact takesExpressions_items []
  · exact takesExpressions_entries [] none

theorem Reader.step_eq {r : Reader} (h : r.layer.content.TakesExpressions) (t : Token) :
    r.step t =
      (r.exprStep t).map fun r => { r with level := max r.level r.layer.run.nesting.level } := by
  rw [step, tokenStep]
  split
  · rename_i p hp
    exact absurd hp (h p)
  · rfl

/-- Tokens that are read as a term in any layer, with brackets nested to a depth: the levels in use
stay below a bound that has room for these. -/
def ReadsAs (ts : List Token) (t : Term) (depth : Nat) : Prop :=
  ∀ (b : Option Bracket) (content : Content) (floor height : Nat) (outer : List Layer)
    (level bound : Nat), content.TakesExpressions → level ≤ bound →
    floor + bracketLevels * depth ≤ bound →
    ∃ fresh size level', size ≤ depth + 1 ∧ level' ≤ bound ∧
      ts.foldlM Reader.step ⟨.ready b content floor height, outer, level⟩ =
        some ⟨.holding b content floor height t fresh size, outer, level'⟩

/-- Tokens that take one content of a bracket to another one, which both a comma and the closing
bracket find complete. -/
def Adds (b : Bracket) (ts : List Token) (c c' : Content) (depth : Nat) : Prop :=
  ∀ (floor height : Nat) (outer : List Layer) (level bound : Nat), level ≤ bound →
    floor + bracketLevels * depth ≤ bound →
    ∃ l level', l.total ≤ max height (depth + 1) ∧ level' ≤ bound ∧
      ts.foldlM Reader.step ⟨.ready (some b) c floor height, outer, level⟩ =
        some ⟨l, outer, level'⟩ ∧
      l.content.TakesExpressions ∧ l.bracket = some b ∧
      l.comma? = some (.ready (some b) c' floor l.total) ∧
      l.close? = (Layer.ready (some b) c' floor l.total).contents?

/-- Tokens with which a bracket that has just been opened is closed as a term. -/
def Fills (b : Bracket) (ts : List Token) (t : Term) (depth : Nat) : Prop :=
  ∀ (floor : Nat) (outer : List Layer) (level bound : Nat), level ≤ bound →
    floor + bracketLevels * depth ≤ bound →
    ∃ l level', l.total ≤ depth + 1 ∧ level' ≤ bound ∧
      ts.foldlM Reader.step ⟨.ready (some b) b.content floor 0, outer, level⟩ =
        some ⟨l, outer, level'⟩ ∧
      l.content.TakesExpressions ∧ l.bracket = some b ∧ l.close? = some (.value t)

theorem room_of_le {floor d e bound : Nat} (hle : d ≤ e)
    (h : floor + bracketLevels * e ≤ bound) : floor + bracketLevels * d ≤ bound :=
  Nat.le_trans (Nat.add_le_add_left (Nat.mul_le_mul_left _ hle) _) h

theorem readsAs_text (codes : List Nat) : ReadsAs [.text codes] (.text codes) 0 := by
  intro b content floor height outer level bound hcontent hlevel hfloor
  refine ⟨true, 1, max level floor, Nat.le_refl _, by omega, ?_⟩
  rw [List.foldlM_cons, Reader.step_eq hcontent]
  rfl

/-! ## Items and entries -/

theorem Adds.separate {b : Bracket} {ts ts' : List Token} {c c' c'' : Content} {d d' : Nat}
    (h : Adds b ts c c' d) (h' : Adds b ts' c' c'' d') :
    Adds b (ts ++ .comma :: ts') c c'' (max d d') := by
  intro floor height outer level bound hlevel hfloor
  have hfloor₁ := room_of_le (Nat.le_max_left d d') hfloor
  have hfloor₂ := room_of_le (Nat.le_max_right d d') hfloor
  obtain ⟨l, level₁, htotal, hlevel₁, hrun, hcontent, -, hcomma, -⟩ :=
    h floor height outer level bound hlevel hfloor₁
  obtain ⟨l', level₂, htotal', hlevel₂, hrun', hlast⟩ :=
    h' floor l.total outer (max level₁ floor) bound (by omega) hfloor₂
  refine ⟨l', level₂, by omega, hlevel₂, ?_, hlast⟩
  have hstep : Reader.step ⟨l, outer, level₁⟩ .comma =
      some ⟨.ready (some b) c' floor l.total, outer, max level₁ floor⟩ := by
    rw [Reader.step_eq hcontent, Reader.exprStep, Reader.withLayer?, hcomma]
    rfl
  rw [List.foldlM_append, hrun, Option.bind_eq_bind, Option.bind_some, List.foldlM_cons, hstep,
    Option.bind_eq_bind, Option.bind_some, hrun']

/-- An item of a list. -/
theorem ReadsAs.adds_item {ts : List Token} {t : Term} {d : Nat} (h : ReadsAs ts t d)
    (items : List Term) : Adds .square ts (.items items) (.items (t :: items)) d := by
  intro floor height outer level bound hlevel hfloor
  obtain ⟨fresh, size, level', hsize, hlevel', hrun⟩ := h (some .square) (.items items) floor height
    outer level bound (takesExpressions_items items) hlevel hfloor
  refine ⟨_, level', ?_, hlevel', hrun, takesExpressions_items items, rfl, rfl, ?_⟩
  · rw [Layer.total_holding]
    omega
  · cases items <;> rfl

/-- An entry of a dictionary: its value is read behind the colon, with the key in the content. The
colon makes the key a part of the content, so the value is read like an item. -/
theorem ReadsAs.adds_entry {ts ts' : List Token} {k t : Term} {d d' : Nat} (hk : ReadsAs ts k d)
    (ht : ReadsAs ts' t d') (entries : List (Term × Term)) :
    Adds .curly (ts ++ .colon :: ts') (.entries entries none) (.entries ((k, t) :: entries) none)
      (max d d') := by
  intro floor height outer level bound hlevel hfloor
  have hfloor₁ := room_of_le (Nat.le_max_left d d') hfloor
  have hfloor₂ := room_of_le (Nat.le_max_right d d') hfloor
  obtain ⟨fresh, size, level₁, hsize, hlevel₁, hkey⟩ := hk (some .curly) (.entries entries none)
    floor height outer level bound (takesExpressions_entries entries none) hlevel hfloor₁
  have hcolon : Reader.step
        ⟨.holding (some .curly) (.entries entries none) floor height k fresh size, outer, level₁⟩
        .colon =
      some ⟨.ready (some .curly) (.entries entries (some k)) floor (max height size), outer,
        max level₁ floor⟩ := rfl
  obtain ⟨fresh', size', level₂, hsize', hlevel₂, hvalue⟩ := ht (some .curly)
    (.entries entries (some k)) floor (max height size) outer (max level₁ floor) bound
    (takesExpressions_entries entries (some k)) (by omega) hfloor₂
  refine ⟨.holding (some .curly) (.entries entries (some k)) floor (max height size) t fresh' size',
    level₂, ?_, hlevel₂, ?_, takesExpressions_entries entries (some k), rfl, rfl, rfl⟩
  · rw [Layer.total_holding]
    omega
  · rw [List.foldlM_append, hkey, Option.bind_eq_bind, Option.bind_some, List.foldlM_cons, hcolon,
      Option.bind_eq_bind, Option.bind_some, hvalue]

/-! ## Brackets -/

section Joined

variable {α β : Type} {b : Bracket} {tokens : α → List Token} {depth : α → Nat}
  (content : β → Content) {add : β → α → β}

/-- Items with commas between them add to the content one after the other. -/
theorem adds_joinTokens {xs : List α} (hne : xs ≠ [])
    (h : ∀ x ∈ xs, ∀ sofar, Adds b (tokens x) (content sofar) (content (add sofar x)) (depth x))
    (sofar : β) :
    Adds b (joinTokens (xs.map tokens)) (content sofar) (content (xs.foldl add sofar))
      (greatest (xs.map depth)) := by
  induction xs generalizing sofar with
  | nil => exact absurd rfl hne
  | cons x xs ih =>
    have hx := h x List.mem_cons_self sofar
    cases xs with
    | nil =>
      rw [List.map_singleton, List.map_singleton, greatest, List.foldr_cons, List.foldr_nil,
        Nat.max_zero]
      exact hx
    | cons y ys =>
      exact hx.separate (ih (List.cons_ne_nil y ys) (fun z hz => h z (List.mem_cons_of_mem _ hz))
        (add sofar x))

/-- Items with commas between them fill a bracket, also if there are none. -/
theorem fills_joinTokens (first : β) (build : β → Term) {xs : List α}
    (h : ∀ x ∈ xs, ∀ sofar, Adds b (tokens x) (content sofar) (content (add sofar x)) (depth x))
    (hfirst : content first = b.content)
    (hcontents : ∀ sofar floor height,
      (Layer.ready (some b) (content sofar) floor height).contents? = some (.value (build sofar)))
    (hempty : ∀ floor, (Layer.ready (some b) b.content floor 0).close? =
      (Layer.ready (some b) b.content floor 0).contents?) :
    Fills b (joinTokens (xs.map tokens)) (build (xs.foldl add first))
      (greatest (xs.map depth)) := by
  intro floor outer level bound hlevel hfloor
  by_cases hne : xs = []
  · subst hne
    refine ⟨_, level, Nat.zero_le _, hlevel, rfl, takesExpressions_content b, rfl, ?_⟩
    rw [hempty, ← hfirst, hcontents, List.foldl_nil]
  · obtain ⟨l, level', htotal, hlevel', hrun, hcontent, hbracket, -, hclose⟩ :=
      adds_joinTokens content hne h first floor 0 outer level bound hlevel hfloor
    rw [hfirst] at hrun
    exact ⟨l, level', by omega, hlevel', hrun, hcontent, hbracket, hclose.trans (hcontents _ _ _)⟩

end Joined

/-- A pair of brackets is read as what it holds. The layer around the bracket waits on top of the
outer ones, and receives the value. -/
theorem Fills.readsAs {b : Bracket} {ts : List Token} {t : Term} {d : Nat} (h : Fills b ts t d) :
    ReadsAs (.opening b :: (ts ++ [.closing b])) t (d + 1) := by
  intro b' content floor height outer level bound hcontent hlevel hfloor
  rw [Nat.mul_add, Nat.mul_one, Nat.add_comm _ bracketLevels, ← Nat.add_assoc] at hfloor
  obtain ⟨l, level₁, htotal, hlevel₁, hrun, hinner, hbracket, hclose⟩ :=
    h (floor + bracketLevels) (.ready b' content floor height :: outer)
      (max level (floor + bracketLevels)) bound (by omega) hfloor
  have hopen : Reader.step ⟨.ready b' content floor height, outer, level⟩ (.opening b) =
      some ⟨.ready (some b) b.content (floor + bracketLevels) 0,
        .ready b' content floor height :: outer, max level (floor + bracketLevels)⟩ := by
    rw [Reader.step_eq hcontent]
    cases b <;> rfl
  have hleave : Reader.step ⟨l, .ready b' content floor height :: outer, level₁⟩ (.closing b) =
      some ⟨.holding b' content floor height t false (l.total + 1), outer, max level₁ floor⟩ := by
    rw [Reader.step_eq hinner, Reader.exprStep, Reader.leave?]
    simp only [hbracket, hclose]
    rfl
  refine ⟨false, l.total + 1, max level₁ floor, by omega, by omega, ?_⟩
  rw [List.foldlM_cons, hopen, Option.bind_eq_bind, Option.bind_some, List.foldlM_append, hrun,
    Option.bind_eq_bind, Option.bind_some, List.foldlM_cons, hleave]
  rfl

/-- **The tokens of a structured literal** are read as its term. -/
theorem readsAs_tokens {l : Literal} (h : l.Structured) : ReadsAs l.tokens l.term l.depth := by
  induction h with
  | string s =>
    rw [tokens, term, depth_string]
    exact readsAs_text _
  | @list items _ ih =>
    rw [tokens, term, depth, itemTokens_eq_map, itemDepths_eq_map, itemTerms_eq_map]
    have hfills := fills_joinTokens .items [] (fun ts => .list ts.reverse)
      (fun l hl sofar => (ih l hl).adds_item sofar) rfl (fun _ _ _ => rfl) (fun _ => rfl)
    rw [foldl_cons_map, List.append_nil, List.reverse_reverse] at hfills
    exact hfills.readsAs
  | @dict fields _ _ ih =>
    rw [tokens, term, depth, entryTokens_eq_map, entryDepths_eq_map, entryTerms_eq_map]
    have hentry : ∀ f ∈ fields, ∀ sofar, Adds .curly ((string f.1).tokens ++ .colon :: f.2.tokens)
        (.entries sofar none) (.entries (((string f.1).term, f.2.term) :: sofar) none)
        f.2.depth := by
      intro f hf sofar
      have hadds := (readsAs_text (f.1.toList.map Char.toNat)).adds_entry (ih f hf) sofar
      rw [Nat.zero_max] at hadds
      rw [tokens, term]
      exact hadds
    have hfills := fills_joinTokens (fun es => .entries es none) []
      (fun es => .dict es.reverse) hentry rfl (fun _ _ _ => rfl) (fun _ => rfl)
    rw [foldl_cons_map, List.append_nil, List.reverse_reverse] at hfills
    exact hfills.readsAs

/-! ## Values -/

theorem ofCodes_toNat (s : String) : ofCodes (s.toList.map Char.toNat) = .string s := by
  have hcodes : (s.toList.map Char.toNat).all Text.isCharCode = true := by
    rw [List.all_eq_true]
    intro code hcode
    obtain ⟨c, -, rfl⟩ := List.mem_map.1 hcode
    rcases c.valid with h | h
    · exact Bool.or_eq_true_iff.2 (.inl (decide_eq_true h))
    · exact Bool.or_eq_true_iff.2 (.inr (by simpa using h))
  rw [ofCodes, if_pos hcodes, List.map_map]
  simp [Function.comp_def]

theorem evalItems_map {items : List Literal} (h : ∀ l ∈ items, l.term.eval = .ok l) :
    Term.evalItems (items.map term) = .ok items := by
  induction items with
  | nil => rfl
  | cons l ls ih =>
    rw [List.map_cons, Term.evalItems, h l List.mem_cons_self,
      ih fun l hl => h l (List.mem_cons_of_mem _ hl)]
    rfl

/-- A key that is not there yet is written at the end. -/
theorem putEntry_of_not_mem {fields : Fields Literal} {name : String} (h : name ∉ fields.names)
    (value : Literal) :
    putEntry (.string name) value (fields.map fun f => (.string f.1, f.2)) =
      (fields ++ [(name, value)]).map fun f => (.string f.1, f.2) := by
  induction fields with
  | nil => rfl
  | cons f fields ih =>
    rw [Fields.names_cons, List.mem_cons, not_or] at h
    have hkey : sameKey (.string f.1) (.string name) = false := by
      rw [sameKey]
      exact beq_false_of_ne (Ne.symm h.1)
    rw [List.map_cons, putEntry, hkey, if_neg Bool.false_ne_true, ih h.2]
    rfl

/-- Entries with distinct keys are added one after the other. A key differs from those before it, so
its entry does not take the place of another one. -/
theorem evalEntries_map (sofar : Fields Literal) {fields : Fields Literal}
    (hnames : (sofar ++ fields).names.Nodup)
    (h : ∀ f ∈ fields, f.2.term.eval = .ok f.2) :
    Term.evalEntries (sofar.map fun f => (.string f.1, f.2))
        (fields.map fun f => ((string f.1).term, f.2.term)) =
      .ok ((sofar ++ fields).map fun f => (.string f.1, f.2)) := by
  induction fields generalizing sofar with
  | nil =>
    rw [List.append_nil]
    rfl
  | cons f fields ih =>
    have hnew : f.1 ∉ sofar.names := by
      rw [Fields.names_append, Fields.names_cons] at hnames
      intro hmem
      exact (List.nodup_append.1 hnames).2.2 _ hmem _ List.mem_cons_self rfl
    have hrest := ih (sofar ++ [f]) (by simpa using hnames)
      fun g hg => h g (List.mem_cons_of_mem _ hg)
    rw [List.append_assoc, List.singleton_append] at hrest
    rw [List.map_cons, Term.evalEntries, h f List.mem_cons_self, term, Term.eval, ofCodes_toNat,
      ← hrest, ← putEntry_of_not_mem hnew]
    rfl

/-- The value of the term of a structured literal. -/
theorem eval_term {l : Literal} (h : l.Structured) : l.term.eval = .ok l := by
  induction h with
  | string s => rw [term, Term.eval, ofCodes_toNat]
  | @list items _ ih =>
    rw [term, Term.eval, itemTerms_eq_map, evalItems_map ih]
    rfl
  | @dict fields hnames _ ih =>
    have hentries := evalEntries_map [] hnames ih
    rw [term, Term.eval, entryTerms_eq_map]
    exact congrArg (Except.map Literal.dict) hentries

/-! ## Reading -/

theorem unifyNewlineChars_of_not_mem {cs : List Char} (h : '\r' ∉ cs) :
    Text.unifyNewlineChars false cs = cs := by
  induction cs with
  | nil => rfl
  | cons c cs ih =>
    obtain ⟨hc, hcs⟩ := not_or.1 (mt List.mem_cons.2 h)
    rw [Text.unifyNewlineChars, if_neg (Ne.symm hc), Bool.and_false, if_neg Bool.false_ne_true,
      ih hcs]

/-- The text of a structured literal is taken as it stands, without blanks in front. -/
theorem parse?_text (dialect : Dialect) {l : Literal} (h : l.Structured) :
    parse? dialect l.text = if l.depth ≤ maxDepth then parseTokens? l.tokens else none := by
  have hfront : (l.text.toList.dropWhile fun c => c = ' ' || c = '\t') = l.text.toList := by
    obtain ⟨c, cs, htext, hc⟩ := exists_text_cons h
    rw [htext]
    simp only [List.mem_cons, List.not_mem_nil, or_false] at hc
    rcases hc with rfl | rfl | rfl | rfl <;> rfl
  rw [parse?, hfront, unifyNewlineChars_of_not_mem (return_not_mem_text h), tokenize?_text h]
  split <;> rfl

/-- The expression that the tokens of a structured literal are read as. Two hundred brackets take
fewer levels than the standard dialect has. -/
theorem exists_parseTokens? {l : Literal} (h : l.Structured) (hdepth : l.depth ≤ maxDepth) :
    ∃ height level, height ≤ heightLimit ∧ level ≤ levelLimit ∧
      parseTokens? l.tokens = some ⟨l.term, height, level⟩ := by
  have hroom : 0 + bracketLevels * l.depth ≤ levelLimit := by
    simp only [bracketLevels, levelLimit, maxDepth] at hdepth ⊢
    omega
  obtain ⟨fresh, size, level, hsize, hlevel, hrun⟩ :=
    readsAs_tokens h none (.items []) 0 0 [] 0 levelLimit (takesExpressions_items [])
      (Nat.zero_le _) hroom
  refine ⟨max 0 size, level, ?_, hlevel, ?_⟩
  · simp only [heightLimit, maxDepth] at hdepth ⊢
    omega
  · change (l.tokens.foldlM Reader.step ⟨.ready none (.items []) 0 0, [], 0⟩).bind _ = _
    rw [hrun]
    rfl

/-- The standard dialect gives no written form up. -/
theorem limit?_text {l : Literal} (h : l.Structured) : Dialect.standard.limit? l.text = none := by
  change (parse? Dialect.unlimited l.text).bind Expression.limit? = none
  rw [parse?_text _ h]
  split
  · rename_i hdepth
    obtain ⟨height, level, hheight, hlevel, hparse⟩ := exists_parseTokens? h hdepth
    rw [hparse, Option.bind_some, Expression.limit?, if_neg (Nat.not_lt.2 hlevel),
      if_neg (Nat.not_lt.2 hheight)]
  · rfl

/-- **Reading undoes writing.** The written form of a structured literal is read as the literal
itself by every dialect that does not give it up, and as no literal if its brackets are nested too
deeply. -/
theorem read_text {dialect : Dialect} {l : Literal} (h : l.Structured)
    (hlimit : dialect.limit? l.text = none) :
    read dialect l.text = if l.depth ≤ maxDepth then .ok l else .error .malformed := by
  rw [read, hlimit, parse?_text _ h]
  by_cases hdepth : l.depth ≤ maxDepth
  · obtain ⟨height, level, -, -, hparse⟩ := exists_parseTokens? h hdepth
    rw [if_pos hdepth, if_pos hdepth, hparse]
    exact eval_term h
  · rw [if_neg hdepth, if_neg hdepth]

end WorkflowDocs.Literal
