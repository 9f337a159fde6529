import WorkflowDocs.Literal.Scan
import Mathlib.Data.List.Basic

/-!
# Quoted texts read back

Between its marks each character of a text is spelled in one of three ways: as itself, by a letter
after a backslash, or by the digits of its code after a backslash and a letter. The scanner takes
none of them for the closing mark or the end of the line, and the decoder gives the character back.

An empty text has its two marks only, and the scanner waits for the next character to see that it
is not a third one. So what is scanned is said together with what follows it.

## Main definitions

* `IsPlain`: the characters that stand for themselves
* `Spells`: the ways in which a character is spelled between two marks
* `Scan.tokensFrom`: the tokens when the rest of a text is scanned

## Main results

* `spells_quotedChar`: how a quoted text spells its characters
* `decode?_quoted`: what stands between the marks is decoded to the codes of the text
* `Scan.tokensFrom_quoted`: a quoted text is scanned as one token
-/

namespace WorkflowDocs.Literal

/-! ## Spellings -/

/-- The characters that stand for themselves between two marks. -/
structure IsPlain (mark c : Char) : Prop where
  ne_mark : c ≠ mark
  ne_escape : c ≠ '\\'
  ne_newline : c ≠ '\n'
  ne_return : c ≠ '\r'
  ne_zero : c.toNat ≠ 0

instance (mark c : Char) : Decidable (IsPlain mark c) :=
  decidable_of_iff (c ≠ mark ∧ c ≠ '\\' ∧ c ≠ '\n' ∧ c ≠ '\r' ∧ c.toNat ≠ 0)
    ⟨fun h => ⟨h.1, h.2.1, h.2.2.1, h.2.2.2.1, h.2.2.2.2⟩,
      fun h => ⟨h.ne_mark, h.ne_escape, h.ne_newline, h.ne_return, h.ne_zero⟩⟩

/-- The ways in which a character is spelled between two marks. -/
inductive Spells (mark c : Char) : List Char → Prop where
  | itself (h : IsPlain mark c) : Spells mark c [c]
  | letter (e : Char) (h : simpleEscape? e = some c) : Spells mark c ['\\', e]
  | digits (e : Char) (width : Nat) (h : (e, width) ∈ [('x', 1), ('u', 3), ('U', 7)])
      (hlt : c.toNat < Nat.pow 16 (width + 1)) :
      Spells mark c ('\\' :: e :: Text.hexDigits (width + 1) c.toNat)

theorem isMark_cases {mark : Char} (h : isMark mark = true) : mark = '\'' ∨ mark = '"' := by
  simpa [isMark] using h

theorem isMark_quoteMark (cs : List Char) : isMark (Text.quoteMark cs) = true := by
  rw [Text.quoteMark]
  split <;> decide

theorem toNat_ne_zero_of_isPrintable {c : Char} (h : Text.isPrintable c = true) : c.toNat ≠ 0 := by
  intro hzero
  rw [Text.isPrintable, hzero] at h
  exact absurd h (by decide)

theorem toNat_lt (c : Char) : c.toNat < 0x110000 := by
  rcases c.valid with h | h
  · exact Nat.lt_trans h (by decide)
  · exact h.2

theorem spells_hexEscape (mark c : Char) : Spells mark c (Text.hexEscape c) := by
  rw [Text.hexEscape]
  split
  · rename_i h
    exact .digits 'x' 1 (by decide) h
  · split
    · rename_i h
      exact .digits 'u' 3 (by decide) h
    · exact .digits 'U' 7 (by decide) (Nat.lt_trans (toNat_lt c) (by decide))

/-- A quoted text spells each of its characters. -/
theorem spells_quotedChar {mark : Char} (hmark : isMark mark = true) (c : Char) :
    Spells mark c (Text.quotedChar mark c) := by
  rw [Text.quotedChar]
  split
  · rename_i h
    refine .letter c ?_
    rcases isMark_cases hmark with rfl | rfl <;> rcases (by simpa using h) with rfl | rfl <;> rfl
  rename_i hmark'
  obtain ⟨hne, hescape⟩ := not_or.1 (by simpa using hmark')
  split
  · rename_i h
    exact h ▸ .letter 'n' rfl
  split
  · rename_i h
    exact h ▸ .letter 'r' rfl
  split
  · rename_i h
    exact h ▸ .letter 't' rfl
  split
  · rename_i hline hreturn _ hprintable
    exact .itself ⟨hne, hescape, hline, hreturn, toNat_ne_zero_of_isPrintable hprintable⟩
  · exact spells_hexEscape mark c

/-- The letters of escapes are common characters. -/
theorem letter_of_simpleEscape? {e c : Char} (h : simpleEscape? e = some c) :
    e.toNat ≠ 0 ∧ e ≠ '\r' := by
  rw [simpleEscape?.eq_def] at h
  split at h
  all_goals first | decide | exact absurd h (by simp)

/-! ## Digits -/

theorem hexValue?_hexDigit {d : Nat} (h : d < 16) : hexValue? (Text.hexDigit d) = some d := by
  have hall : ∀ d : Fin 16, hexValue? (Text.hexDigit d) = some d.val := by decide
  exact hall ⟨d, h⟩

theorem isPlain_hexDigit {mark : Char} (hmark : isMark mark = true) {d : Nat} (h : d < 16) :
    IsPlain mark (Text.hexDigit d) := by
  have hall : ∀ d : Fin 16, IsPlain '\'' (Text.hexDigit d) ∧ IsPlain '"' (Text.hexDigit d) := by
    decide
  rcases isMark_cases hmark with rfl | rfl
  · exact (hall ⟨d, h⟩).1
  · exact (hall ⟨d, h⟩).2

theorem isPlain_of_mem_hexDigits {mark : Char} (hmark : isMark mark = true) {width n : Nat}
    {c : Char} (h : c ∈ Text.hexDigits width n) : IsPlain mark c := by
  induction width generalizing n with
  | zero => exact absurd h List.not_mem_nil
  | succ width ih =>
    rcases List.mem_append.1 h with h | h
    · exact ih h
    · rw [List.mem_singleton.1 h]
      exact isPlain_hexDigit hmark (Nat.mod_lt _ (by decide))

/-! ## Carriage returns -/

theorem Spells.return_not_mem {mark c : Char} (hmark : isMark mark = true) {piece : List Char}
    (h : Spells mark c piece) : '\r' ∉ piece := by
  intro hmem
  cases h with
  | itself h => exact h.ne_return (List.mem_singleton.1 hmem).symm
  | letter e h =>
    rcases List.mem_pair.1 hmem with hescape | hletter
    · exact absurd hescape (by decide)
    · exact (letter_of_simpleEscape? h).2 hletter.symm
  | digits e width h hlt =>
    rcases List.mem_cons.1 hmem with hescape | hmem
    · exact absurd hescape (by decide)
    rcases List.mem_cons.1 hmem with rfl | hmem
    · exact absurd h (by simp)
    · exact (isPlain_of_mem_hexDigits hmark hmem).ne_return rfl

/-- A carriage return in a text is written by its escape. -/
theorem return_not_mem_quoted (s : String) : '\r' ∉ (Text.quoted s).toList := by
  have hmark := isMark_quoteMark s.toList
  have hne : '\r' ≠ Text.quoteMark s.toList := by
    rcases isMark_cases hmark with h | h <;> rw [h] <;> decide
  rw [Text.quoted, String.toList_ofList, Text.quotedChars]
  intro hmem
  rcases List.mem_append.1 hmem with hmem | hmem
  · obtain ⟨c, -, hc⟩ := List.mem_flatMap.1 ((List.mem_cons.1 hmem).resolve_left hne)
    exact (spells_quotedChar hmark c).return_not_mem hmark hc
  · exact hne (List.mem_singleton.1 hmem)

/-! ## Decoding -/

namespace Decoding

variable {dialect : Dialect}

/-- A digit that is not the last one. -/
theorem step_hexDigit {left value d : Nat} (h : d < 16) (codes : List Nat) :
    step dialect .characters ⟨.hex (left + 2) value, codes⟩ (Text.hexDigit d) =
      some ⟨.hex (left + 1) (16 * value + d), codes⟩ := by
  simp [step, hexValue?_hexDigit h]

/-- The last digit. -/
theorem step_hexDigit_last {value d : Nat} (h : d < 16) (hcode : 16 * value + d < 0x110000)
    (codes : List Nat) :
    step dialect .characters ⟨.hex 1 value, codes⟩ (Text.hexDigit d) =
      some ⟨.none, (16 * value + d) :: codes⟩ := by
  simp [step, hexValue?_hexDigit h, hcode, push]

/-- The digits of a number are read as that number while more digits are to come. -/
theorem foldlM_hexDigits {width n : Nat} (hn : n < Nat.pow 16 width) (left : Nat)
    (codes : List Nat) :
    (Text.hexDigits width n).foldlM (step dialect .characters)
      ⟨.hex (width + left + 1) 0, codes⟩ = some ⟨.hex (left + 1) n, codes⟩ := by
  induction width generalizing n left with
  | zero =>
    obtain rfl : n = 0 := Nat.lt_one_iff.1 hn
    rw [Nat.zero_add]
    rfl
  | succ width ih =>
    have hfront : n / 16 < Nat.pow 16 width := Nat.div_lt_of_lt_mul (by rwa [Nat.mul_comm])
    have hleft : width + 1 + left + 1 = width + (left + 1) + 1 := by omega
    have hnumber : 16 * (n / 16) + n % 16 = n := Nat.div_add_mod n 16
    rw [Text.hexDigits, List.foldlM_append, hleft, ih hfront, Option.bind_eq_bind,
      Option.bind_some, List.foldlM_cons, step_hexDigit (Nat.mod_lt _ (by decide)), hnumber]
    rfl

/-- The digits of a code give it back. -/
theorem foldlM_hexDigits_code {width n : Nat} (hn : n < Nat.pow 16 (width + 1))
    (hcode : n < 0x110000) (codes : List Nat) :
    (Text.hexDigits (width + 1) n).foldlM (step dialect .characters)
      ⟨.hex (width + 1) 0, codes⟩ = some ⟨.none, n :: codes⟩ := by
  have hfront : n / 16 < Nat.pow 16 width := Nat.div_lt_of_lt_mul (by rwa [Nat.mul_comm])
  have hnumber : 16 * (n / 16) + n % 16 = n := Nat.div_add_mod n 16
  have hdigits := @foldlM_hexDigits dialect _ _ hfront 0 codes
  rw [Nat.add_zero, Nat.zero_add] at hdigits
  rw [Text.hexDigits, List.foldlM_append, hdigits, Option.bind_eq_bind, Option.bind_some,
    List.foldlM_cons, step_hexDigit_last (Nat.mod_lt _ (by decide)) (by rwa [hnumber]), hnumber]
  rfl

/-- The letter after a backslash. -/
theorem step_letter {e c : Char} (h : simpleEscape? e = some c) (codes : List Nat) :
    step dialect .characters ⟨.opened, codes⟩ e = some ⟨.none, c.toNat :: codes⟩ := by
  have hline : e ≠ '\n' := by
    rintro rfl
    exact absurd h (by simp [simpleEscape?])
  simp [step, openedStep, hline, h, push]

/-- The decoder gives a spelled character back. -/
theorem foldlM_spells {mark c : Char} {piece : List Char} (h : Spells mark c piece)
    (codes : List Nat) :
    piece.foldlM (step dialect .characters) ⟨.none, codes⟩ = some ⟨.none, c.toNat :: codes⟩ := by
  cases h with
  | itself h => simp [step, plainStep, h.ne_escape, push]
  | letter e h =>
    rw [List.foldlM_cons]
    change [e].foldlM (step dialect .characters) ⟨.opened, codes⟩ = _
    rw [List.foldlM_cons, step_letter h]
    rfl
  | digits e width h hlt =>
    have hopened : step dialect .characters ⟨.opened, codes⟩ e =
        some ⟨.hex (width + 1) 0, codes⟩ := by
      simp only [List.mem_cons, Prod.mk.injEq, List.not_mem_nil, or_false] at h
      rcases h with ⟨rfl, rfl⟩ | ⟨rfl, rfl⟩ | ⟨rfl, rfl⟩ <;> rfl
    rw [List.foldlM_cons]
    change (e :: Text.hexDigits (width + 1) c.toNat).foldlM (step dialect .characters)
      ⟨.opened, codes⟩ = _
    rw [List.foldlM_cons, hopened]
    exact foldlM_hexDigits_code hlt (toNat_lt c) codes

/-- The decoder gives spelled characters back one after the other. -/
theorem foldlM_flatMap {spell : Char → List Char} {mark : Char} {cs : List Char}
    (h : ∀ c ∈ cs, Spells mark c (spell c)) (codes : List Nat) :
    (cs.flatMap spell).foldlM (step dialect .characters) ⟨.none, codes⟩ =
      some ⟨.none, (cs.map Char.toNat).reverse ++ codes⟩ := by
  induction cs generalizing codes with
  | nil => rfl
  | cons c cs ih =>
    rw [List.flatMap_cons, List.foldlM_append, foldlM_spells (h c List.mem_cons_self),
      Option.bind_eq_bind, Option.bind_some, ih fun c hc => h c (List.mem_cons_of_mem _ hc),
      List.map_cons, List.reverse_cons, List.append_assoc, List.singleton_append]

end Decoding

/-- What stands between the marks of a quoted text is decoded to the codes of the text. -/
theorem decode?_quoted (dialect : Dialect) {mark : Char} (hmark : isMark mark = true)
    (cs : List Char) :
    decode? dialect .characters false (cs.flatMap (Text.quotedChar mark)) =
      some (cs.map Char.toNat) := by
  rw [decode?, if_neg Bool.false_ne_true,
    Decoding.foldlM_flatMap fun c _ => spells_quotedChar hmark c, Option.bind_some]
  simp [Decoding.finish]

/-! ## Scanning -/

namespace Scan

/-- The tokens when the rest of a text is scanned. -/
def tokensFrom (dialect : Dialect) (s : Scan) (cs : List Char) : Option (List Token) :=
  (cs.foldlM (step dialect) s).bind (finish dialect)

variable {dialect : Dialect}

theorem tokensFrom_append {s s' : Scan} {cs : List Char} (h : cs.foldlM (step dialect) s = some s')
    (rest : List Char) : s.tokensFrom dialect (cs ++ rest) = s'.tokensFrom dialect rest := by
  rw [tokensFrom, List.foldlM_append, h]
  rfl

theorem tokensFrom_cons {s s' : Scan} {c : Char} (h : s.step dialect c = some s')
    (rest : List Char) : s.tokensFrom dialect (c :: rest) = s'.tokensFrom dialect rest := by
  rw [tokensFrom, List.foldlM_cons, h]
  rfl

/-- The scanner inside a text. -/
def within (s : Scan) (mark : Char) (read : List Char) : Scan :=
  { s with mode := .body mark false ⟨.text, false⟩ 0 false read }

variable {s : Scan} {mark : Char}

theorem step_within {c : Char} (h : IsPlain mark c) (read : List Char) :
    (s.within mark read).step dialect c = some (s.within mark (c :: read)) := by
  simp [step, within, innerStep, bodyStep, h.ne_zero, h.ne_mark, h.ne_newline, h.ne_escape]

theorem foldlM_within_plain {cs : List Char} (h : ∀ c ∈ cs, IsPlain mark c) (read : List Char) :
    cs.foldlM (step dialect) (s.within mark read) = some (s.within mark (cs.reverse ++ read)) := by
  induction cs generalizing read with
  | nil => rfl
  | cons c cs ih =>
    rw [List.foldlM_cons, step_within (h c List.mem_cons_self), Option.bind_eq_bind,
      Option.bind_some, ih fun c hc => h c (List.mem_cons_of_mem _ hc), List.reverse_cons,
      List.append_assoc, List.singleton_append]

/-- A backslash and the character after it, whatever that is. -/
theorem foldlM_within_escape (hmark : isMark mark = true) {e : Char} (he : e.toNat ≠ 0)
    (read : List Char) :
    ['\\', e].foldlM (step dialect) (s.within mark read) =
      some (s.within mark (e :: '\\' :: read)) := by
  have hopened : (s.within mark read).step dialect '\\' =
      some { s with mode := .body mark false ⟨.text, false⟩ 0 true ('\\' :: read) } := by
    rcases isMark_cases hmark with rfl | rfl <;> rfl
  rw [List.foldlM_cons, hopened]
  simp [step, innerStep, bodyStep, he, within]

/-- The scanner passes a spelled character. -/
theorem foldlM_within (hmark : isMark mark = true) {c : Char} {piece : List Char}
    (h : Spells mark c piece) (read : List Char) :
    piece.foldlM (step dialect) (s.within mark read) =
      some (s.within mark (piece.reverse ++ read)) := by
  cases h with
  | itself h => exact foldlM_within_plain (List.forall_mem_singleton.2 h) read
  | letter e h => exact foldlM_within_escape hmark (letter_of_simpleEscape? h).1 read
  | digits e width h hlt =>
    have he : e.toNat ≠ 0 := by
      simp only [List.mem_cons, Prod.mk.injEq, List.not_mem_nil, or_false] at h
      rcases h with ⟨rfl, -⟩ | ⟨rfl, -⟩ | ⟨rfl, -⟩ <;> decide
    change (['\\', e] ++ Text.hexDigits (width + 1) c.toNat).foldlM (step dialect) _ = _
    rw [List.foldlM_append, foldlM_within_escape hmark he, Option.bind_eq_bind, Option.bind_some,
      foldlM_within_plain fun c hc => isPlain_of_mem_hexDigits hmark hc]
    simp

/-- The scanner passes spelled characters. -/
theorem foldlM_within_flatMap (hmark : isMark mark = true) (cs read : List Char) :
    (cs.flatMap (Text.quotedChar mark)).foldlM (step dialect) (s.within mark read) =
      some (s.within mark ((cs.flatMap (Text.quotedChar mark)).reverse ++ read)) := by
  induction cs generalizing read with
  | nil => rfl
  | cons c cs ih =>
    rw [List.flatMap_cons, List.foldlM_append, foldlM_within hmark (spells_quotedChar hmark c),
      Option.bind_eq_bind, Option.bind_some, ih, List.reverse_append, List.append_assoc]

/-- The closing mark ends a text. -/
theorem step_within_mark (hmark : isMark mark = true) (cs : List Char) :
    (s.within mark (cs.flatMap (Text.quotedChar mark)).reverse).step dialect mark =
      some (s.emit (.text (cs.map Char.toNat))) := by
  have hzero : mark.toNat ≠ 0 := by
    rcases isMark_cases hmark with rfl | rfl <;> decide
  simp [step, within, innerStep, bodyStep, hzero, emitText, TextKind.token?,
    decode?_quoted dialect hmark, emit]

/-- Behind the first mark, a character that is not a mark is inside the text. -/
theorem step_firstMark {c : Char} (hc : c ≠ mark) :
    step dialect { s with mode := .firstMark mark ⟨.text, false⟩ } c =
      (s.within mark []).step dialect c := by
  rw [step, step, within]
  split
  · rfl
  · simp [hc, enter, innerStep, bodyStep]

theorem head_ne_of_spells (hmark : isMark mark = true) {c x : Char} {piece : List Char}
    (h : Spells mark c (x :: piece)) : x ≠ mark := by
  have hescape : '\\' ≠ mark := by
    rcases isMark_cases hmark with rfl | rfl <;> decide
  cases h with
  | itself h => exact h.ne_mark
  | letter => exact hescape
  | digits => exact hescape

/-- **A quoted text is scanned as one token**, whatever follows it that is not a mark. An empty text
is known by what follows its second mark. Of any other text the second character is already inside,
because no spelling begins with the mark. -/
theorem tokensFrom_quoted (hs : s.mode = .gap) (cs : List Char) {rest : List Char}
    (hrest : ∀ c ∈ rest.head?, isMark c = false) :
    s.tokensFrom dialect (Text.quotedChars cs ++ rest) =
      (s.emit (.text (cs.map Char.toNat))).tokensFrom dialect rest := by
  have hmark := isMark_quoteMark cs
  generalize hm : Text.quoteMark cs = mark at hmark
  have hopen : s.step dialect mark = some { s with mode := .firstMark mark ⟨.text, false⟩ } := by
    rw [step, hs]
    rcases isMark_cases hmark with rfl | rfl <;> rfl
  rw [Text.quotedChars, hm, List.append_assoc, List.cons_append, tokensFrom_cons hopen]
  cases cs with
  | nil =>
    have hsecond : step dialect { s with mode := .firstMark mark ⟨.text, false⟩ } mark =
        some { s with mode := .secondMark mark ⟨.text, false⟩ } := by
      rcases isMark_cases hmark with rfl | rfl <;> rfl
    rw [List.flatMap_nil, List.nil_append, List.singleton_append, tokensFrom_cons hsecond]
    cases rest with
    | nil => rfl
    | cons c rest =>
      have hc : c ≠ mark := by
        rintro rfl
        exact absurd (hrest c rfl) (by rw [hmark]; decide)
      rw [tokensFrom, tokensFrom, List.foldlM_cons, List.foldlM_cons]
      congr 2
      simp only [step, emit, if_neg hc]
      rfl
  | cons c cs =>
    have hbody := @foldlM_within_flatMap dialect s mark hmark (c :: cs) []
    rw [List.append_nil] at hbody
    have hfirst : ((c :: cs).flatMap (Text.quotedChar mark)).foldlM (step dialect)
          { s with mode := .firstMark mark ⟨.text, false⟩ } =
        ((c :: cs).flatMap (Text.quotedChar mark)).foldlM (step dialect) (s.within mark []) := by
      have hspells := spells_quotedChar hmark c
      rw [List.flatMap_cons]
      cases hpiece : Text.quotedChar mark c with
      | nil =>
        rw [hpiece] at hspells
        cases hspells
      | cons x piece =>
        rw [hpiece] at hspells
        rw [List.cons_append, List.foldlM_cons, List.foldlM_cons,
          step_firstMark (head_ne_of_spells hmark hspells)]
    rw [tokensFrom_append (hfirst.trans hbody), List.singleton_append,
      tokensFrom_cons (step_within_mark hmark _)]

end Scan

end WorkflowDocs.Literal
