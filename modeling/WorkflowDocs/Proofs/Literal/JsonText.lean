import WorkflowDocs.Literal.Json
import Mathlib.Data.List.Basic

/-!
# Texts inside JSON

Between the marks of a text, the reader goes through the characters one by one and keeps the codes
it has read, apart from escapes that are not complete. What it reads there has no more backslashes
and letters `u` together than the characters it went through, and fewer if there is an escape among
them: an escape that gives a backslash or a `u` takes two of them.

## Main definitions

* `Mode.next?`: one character within a text
* `textBody?`: the text that characters between two marks stand for
* `escapeWeight`: the number of backslashes and letters `u`

## Main results

* `Scan.step_of_inText`: within a text, the reader takes the steps of `Mode.next?`
* `textBody?_of_unescaped`: characters without an escape stand for themselves
* `escapeWeight_lt_of_textBody?`: characters with an escape stand for a text of less weight
-/

namespace WorkflowDocs.Literal

namespace Json

/-! ## Steps within a text -/

/-- Whether the reader stands within a text. -/
def Mode.inText : Mode → Bool
  | .text _ | .escape _ | .unit _ _ _ => true
  | .between | .word _ => false

/-- One character within a text that is not its closing mark. -/
def Mode.next? (m : Mode) (c : Char) : Option Mode :=
  match m with
  | .text cs =>
    if c = '\\' then some (.escape cs) else if c < ' ' then none else some (.text (c.toNat :: cs))
  | .escape cs =>
    if c = 'u' then some (.unit cs 4 0) else (escape? c).map fun e => .text (e.toNat :: cs)
  | .unit cs left value =>
    (hexValue? c).map fun v =>
      if left ≤ 1 then .text ((16 * value + v) :: cs) else .unit cs (left - 1) (16 * value + v)
  | .between | .word _ => none

/-- The text that the characters between two marks stand for. -/
def textBody? (cs : List Char) : Option Literal :=
  match cs.foldlM Mode.next? (.text []) with
  | some (.text read) => some (ofCodes (joinHalves read.reverse))
  | _ => none

theorem Mode.inText_of_next? {m m' : Mode} {c : Char} (h : m.next? c = some m') :
    m'.inText = true := by
  cases m with
  | between => simp [next?] at h
  | word => simp [next?] at h
  | text cs =>
    simp only [next?] at h
    split at h
    · obtain rfl := Option.some.inj h
      rfl
    · split at h
      · simp at h
      · obtain rfl := Option.some.inj h
        rfl
  | escape cs =>
    simp only [next?] at h
    split at h
    · obtain rfl := Option.some.inj h
      rfl
    · obtain ⟨e, -, rfl⟩ := Option.map_eq_some_iff.1 h
      rfl
  | unit cs left value =>
    obtain ⟨v, -, rfl⟩ := Option.map_eq_some_iff.1 h
    split <;> rfl

theorem Scan.step_of_inText {m : Mode} (hm : m.inText = true) {c : Char} (hc : c ≠ '"')
    (tokens : List Token) : Scan.step ⟨m, tokens⟩ c = (m.next? c).map (⟨·, tokens⟩) := by
  cases m with
  | between => simp [Mode.inText] at hm
  | word => simp [Mode.inText] at hm
  | text cs =>
    simp only [step, Mode.next?, if_neg hc]
    split
    · rfl
    · split <;> rfl
  | escape cs =>
    simp only [step, Mode.next?]
    split
    · rfl
    · rw [Option.map_map]
      rfl
  | unit cs left value =>
    simp only [step, Mode.next?, Option.map_map]
    refine congrArg (fun f => Option.map f (hexValue? c)) (funext fun v => ?_)
    simp only [Function.comp_apply]
    split <;> rfl

/-- Within a text, the reader only moves on in the text. -/
theorem Scan.foldlM_of_inText {m : Mode} (hm : m.inText = true) {cs : List Char}
    (hcs : '"' ∉ cs) (tokens : List Token) :
    cs.foldlM Scan.step ⟨m, tokens⟩ = (cs.foldlM Mode.next? m).map (⟨·, tokens⟩) := by
  induction cs generalizing m with
  | nil => rfl
  | cons c cs ih =>
    obtain ⟨hc, hcs⟩ := not_or.1 (mt List.mem_cons.2 hcs)
    rw [List.foldlM_cons, List.foldlM_cons, step_of_inText hm (Ne.symm hc)]
    cases hnext : m.next? c with
    | none => rfl
    | some m' => exact ih (Mode.inText_of_next? hnext) hcs

theorem inText_of_foldlM {m m' : Mode} (hm : m.inText = true) {cs : List Char}
    (h : cs.foldlM Mode.next? m = some m') : m'.inText = true := by
  induction cs generalizing m with
  | nil =>
    obtain rfl := Option.some.inj h
    exact hm
  | cons c cs ih =>
    rw [List.foldlM_cons] at h
    obtain ⟨m₁, hnext, h⟩ := Option.bind_eq_some_iff.1 h
    exact ih (Mode.inText_of_next? hnext) h

/-- Behind the opening mark, a text that can be read is read up to its closing mark. -/
theorem Scan.foldlM_closed {cs : List Char} (hcs : '"' ∉ cs) {v : Literal}
    (h : textBody? cs = some v) (tokens : List Token) :
    (cs ++ ['"']).foldlM Scan.step ⟨.text [], tokens⟩ = some ⟨.between, .text v :: tokens⟩ := by
  rw [List.foldlM_append, foldlM_of_inText rfl hcs]
  unfold textBody? at h
  split at h
  · rename_i read hmode
    rw [hmode, ← Option.some.inj h]
    rfl
  · exact absurd h (by simp)

/-- Behind the opening mark, a text is read if its characters stand for one; a mark, a comma and a
line feed then end it. An escape that is not complete would take the mark, and the line feed cannot
stand in a text. Only the mode of a text without an open escape takes the mark as the end of the
text. -/
theorem Scan.foldlM_text {cs : List Char} (hcs : '"' ∉ cs) (tokens : List Token) :
    (cs ++ ['"', ',', '\n']).foldlM Scan.step ⟨.text [], tokens⟩ =
      (textBody? cs).map fun v => ⟨.between, .comma :: .text v :: tokens⟩ := by
  rw [List.foldlM_append, foldlM_of_inText rfl hcs, textBody?]
  cases hmode : cs.foldlM Mode.next? (.text []) with
  | none => rfl
  | some m =>
    have hm := inText_of_foldlM rfl hmode
    cases m with
    | between => simp [Mode.inText] at hm
    | word => simp [Mode.inText] at hm
    | text codes => rfl
    | escape codes => rfl
    | unit codes left value => rfl

/-! ## Characters without an escape -/

theorem foldlM_next?_of_unescaped {cs : List Char} (hplain : ∀ c ∈ cs, c ≠ '\\' ∧ ' ' ≤ c)
    (codes : List Nat) :
    cs.foldlM Mode.next? (.text codes) = some (.text ((cs.map Char.toNat).reverse ++ codes)) := by
  induction cs generalizing codes with
  | nil => rfl
  | cons c cs ih =>
    obtain ⟨⟨hc, hle⟩, hcs⟩ := List.forall_mem_cons.1 hplain
    have hnext : Mode.next? (.text codes) c = some (.text (c.toNat :: codes)) := by
      rw [Mode.next?, if_neg hc, if_neg (Char.not_lt.2 hle)]
    rw [List.foldlM_cons, hnext, Option.bind_eq_bind, Option.bind_some, ih hcs]
    simp

theorem plain_of_foldlM_next? {cs : List Char} (hcs : '\\' ∉ cs) {codes : List Nat} {m : Mode}
    (h : cs.foldlM Mode.next? (.text codes) = some m) : ∀ c ∈ cs, ' ' ≤ c := by
  induction cs generalizing codes with
  | nil => exact List.forall_mem_nil _
  | cons c cs ih =>
    obtain ⟨hc, hcs⟩ := not_or.1 (mt List.mem_cons.2 hcs)
    rw [List.foldlM_cons, Mode.next?, if_neg (Ne.symm hc)] at h
    by_cases hle : c < ' '
    · rw [if_pos hle] at h
      exact absurd h (by simp)
    · rw [if_neg hle] at h
      exact List.forall_mem_cons.2 ⟨Char.not_lt.1 hle, ih hcs h⟩

theorem isCharCode_toNat (c : Char) : Text.isCharCode c.toNat = true := by
  have hvalid : c.toNat.isValidChar := c.valid
  rw [Nat.isValidChar] at hvalid
  simp only [Text.isCharCode, Bool.or_eq_true, Bool.and_eq_true, decide_eq_true_eq]
  omega

/-- The codes of characters are no halves of pairs. -/
theorem joinHalves_of_isCharCode {codes : List Nat}
    (h : ∀ n ∈ codes, Text.isCharCode n = true) : joinHalves codes = codes := by
  fun_induction joinHalves codes with
  | case1 high low rest hpair ih =>
    have hhigh := h high List.mem_cons_self
    simp only [Text.isCharCode, Bool.or_eq_true, Bool.and_eq_true, decide_eq_true_eq] at hhigh hpair
    omega
  | case2 high low rest hpair ih =>
    rw [ih fun n hn => h n (List.mem_cons_of_mem _ hn)]
  | case3 => rfl

theorem ofCodes_map_toNat (cs : List Char) :
    ofCodes (cs.map Char.toNat) = .string (String.ofList cs) := by
  have hall : (cs.map Char.toNat).all Text.isCharCode = true := by
    rw [List.all_map, List.all_eq_true]
    exact fun c _ => isCharCode_toNat c
  rw [ofCodes, if_pos hall, List.map_map]
  congr 2
  exact (List.map_congr_left fun c _ => Char.ofNat_toNat c).trans (List.map_id cs)

/-- Characters without an escape stand for themselves. -/
theorem textBody?_of_unescaped {cs : List Char} (hplain : ∀ c ∈ cs, c ≠ '\\' ∧ ' ' ≤ c) :
    textBody? cs = some (.string (String.ofList cs)) := by
  have hcodes : ∀ n ∈ cs.map Char.toNat, Text.isCharCode n = true := by
    rw [List.forall_mem_map]
    exact fun c _ => isCharCode_toNat c
  rw [textBody?, foldlM_next?_of_unescaped hplain]
  simp only [List.append_nil, List.reverse_reverse]
  rw [joinHalves_of_isCharCode hcodes, ofCodes_map_toNat]

/-- Characters without an escape that stand for a text have no control character among them. -/
theorem le_of_textBody? {cs : List Char} (hcs : '\\' ∉ cs) {v : Literal}
    (h : textBody? cs = some v) : ∀ c ∈ cs, ' ' ≤ c := by
  cases hmode : cs.foldlM Mode.next? (.text []) with
  | none => simp [textBody?, hmode] at h
  | some m => exact plain_of_foldlM_next? hcs hmode

/-! ## Characters with an escape -/

/-- The number of backslashes and letters `u`, by their codes. -/
def escapeWeight (codes : List Nat) : Nat :=
  codes.countP fun n => n == '\\'.toNat || n == 'u'.toNat

/-- The weight of what was read; the backslash of an escape that is not complete does not count. -/
def Mode.weight : Mode → Nat
  | .text cs | .escape cs => escapeWeight cs
  | .unit cs _ _ => escapeWeight cs + 1
  | .between | .word _ => 0

theorem escapeWeight_cons (n : Nat) (codes : List Nat) :
    escapeWeight (n :: codes) = escapeWeight [n] + escapeWeight codes := by
  rw [escapeWeight, ← List.singleton_append, List.countP_append]
  rfl

theorem escapeWeight_singleton_le (n : Nat) : escapeWeight [n] ≤ 1 :=
  List.countP_le_length

theorem escapeWeight_escape? {c e : Char} (h : escape? c = some e) :
    escapeWeight [e.toNat] ≤ escapeWeight [c.toNat] := by
  unfold escape? at h
  split at h <;> simp_all <;> subst h <;> decide

/-- A character adds at most its own weight. The letter `u` pays for the code that is still to come.
-/
theorem Mode.weight_next? {m m' : Mode} {c : Char} (h : m.next? c = some m') :
    m'.weight ≤ m.weight + escapeWeight [c.toNat] := by
  cases m with
  | between => simp [next?] at h
  | word => simp [next?] at h
  | text cs =>
    simp only [next?] at h
    split at h
    · obtain rfl := Option.some.inj h
      exact Nat.le_add_right _ _
    · split at h
      · simp at h
      · obtain rfl := Option.some.inj h
        rw [weight, weight, escapeWeight_cons]
        omega
  | escape cs =>
    simp only [next?] at h
    split at h
    · rename_i hu
      subst hu
      obtain rfl := Option.some.inj h
      exact Nat.le_refl _
    · obtain ⟨e, he, rfl⟩ := Option.map_eq_some_iff.1 h
      have hle := escapeWeight_escape? he
      rw [weight, weight, escapeWeight_cons]
      omega
  | unit cs left value =>
    obtain ⟨v, -, rfl⟩ := Option.map_eq_some_iff.1 h
    split
    · have hle := escapeWeight_singleton_le (16 * value + v)
      rw [weight, weight, escapeWeight_cons]
      omega
    · exact Nat.le_add_right _ _

theorem Mode.weight_foldlM {m m' : Mode} {cs : List Char} (h : cs.foldlM next? m = some m') :
    m'.weight ≤ m.weight + escapeWeight (cs.map Char.toNat) := by
  induction cs generalizing m with
  | nil =>
    obtain rfl := Option.some.inj h
    exact Nat.le_add_right _ _
  | cons c cs ih =>
    rw [List.foldlM_cons] at h
    obtain ⟨m₁, hnext, h⟩ := Option.bind_eq_some_iff.1 h
    have hfirst := weight_next? hnext
    have hrest := ih h
    rw [List.map_cons, escapeWeight_cons]
    omega

/-- The backslash of the first escape is lost. It counts among the characters and is not kept. -/
theorem Mode.weight_foldlM_lt {codes : List Nat} {m : Mode} {cs : List Char} (hcs : '\\' ∈ cs)
    (h : cs.foldlM next? (.text codes) = some m) :
    m.weight < escapeWeight codes + escapeWeight (cs.map Char.toNat) := by
  induction cs generalizing codes with
  | nil => exact absurd hcs List.not_mem_nil
  | cons c cs ih =>
    rw [List.foldlM_cons] at h
    obtain ⟨m₁, hnext, h⟩ := Option.bind_eq_some_iff.1 h
    rw [List.map_cons, escapeWeight_cons]
    rw [next?] at hnext
    split at hnext
    · rename_i hc
      subst hc
      obtain rfl := Option.some.inj hnext
      have hrest := weight_foldlM h
      have hone : escapeWeight ['\\'.toNat] = 1 := by decide
      rw [weight] at hrest
      omega
    · rename_i hc
      split at hnext
      · simp at hnext
      · obtain rfl := Option.some.inj hnext
        have hrest := ih ((List.mem_cons.1 hcs).resolve_left (Ne.symm hc)) h
        rw [escapeWeight_cons] at hrest
        omega

/-- A pair of halves has no backslash and no `u`, nor has the character it stands for. -/
theorem escapeWeight_joinHalves (codes : List Nat) :
    escapeWeight (joinHalves codes) ≤ escapeWeight codes := by
  fun_induction joinHalves codes with
  | case1 high low rest hpair ih =>
    simp only [Bool.and_eq_true, decide_eq_true_eq] at hpair
    have hjoined : escapeWeight [0x10000 + (high - 0xD800) * 0x400 + (low - 0xDC00)] = 0 := by
      have hslash : 0x10000 + (high - 0xD800) * 0x400 + (low - 0xDC00) ≠ 92 := by omega
      have hletter : 0x10000 + (high - 0xD800) * 0x400 + (low - 0xDC00) ≠ 117 := by omega
      simp [escapeWeight, hslash, hletter]
    rw [escapeWeight_cons, escapeWeight_cons high, escapeWeight_cons low]
    omega
  | case2 high low rest hpair ih =>
    rw [escapeWeight_cons high (joinHalves _), escapeWeight_cons high (low :: rest)]
    omega
  | case3 => exact Nat.le_refl _

theorem eq_of_ofCodes {codes : List Nat} {s : String} (h : ofCodes codes = .string s) :
    codes = s.toList.map Char.toNat := by
  unfold ofCodes at h
  split at h
  · rename_i hall
    obtain rfl := Literal.string.inj h
    rw [String.toList_ofList, List.map_map]
    refine ((List.map_congr_left fun n hn => ?_).trans (List.map_id codes)).symm
    have hvalid : n.isValidChar := by
      have hcode := List.all_eq_true.1 hall n hn
      simp only [Text.isCharCode, Bool.or_eq_true, Bool.and_eq_true, decide_eq_true_eq] at hcode
      exact hcode
    rw [Function.comp_apply, Char.ofNat, dif_pos hvalid]
    rfl
  · exact absurd h (by simp)

/-- Characters with an escape stand for a text with fewer backslashes and letters `u`. -/
theorem escapeWeight_lt_of_textBody? {cs : List Char} (hcs : '\\' ∈ cs) {s : String}
    (h : textBody? cs = some (.string s)) :
    escapeWeight (s.toList.map Char.toNat) < escapeWeight (cs.map Char.toNat) := by
  unfold textBody? at h
  split at h
  · rename_i read hmode
    have hweight := Mode.weight_foldlM_lt hcs hmode
    have hcodes := eq_of_ofCodes (Option.some.inj h)
    have hjoined := escapeWeight_joinHalves read.reverse
    have hreverse : escapeWeight read.reverse = escapeWeight read := List.countP_reverse
    have hempty : escapeWeight [] = 0 := rfl
    rw [Mode.weight] at hweight
    rw [← hcodes]
    omega
  · exact absurd h (by simp)

end Json

end WorkflowDocs.Literal
