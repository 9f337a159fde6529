import WorkflowDocs.Proofs.Literal.Faults
import WorkflowDocs.Proofs.Literal.JsonText
import WorkflowDocs.Proofs.Literal.ReadBack
import WorkflowDocs.Proofs.Results

/-!
# Entries of dictionaries

The entries of a dictionary are written one after the other, and one with the key of an earlier one
takes its place. So what a dictionary has under a text is the value of the last term that is written
under it. Keys that are texts are the same only if their characters are, and no other key is the
same as a text.

## Main definitions

* `entry?`: what a dictionary has under a text
* `Term.entry?`: the term that the display of a dictionary has last under a text

## Main results

* `lookup?_putEntry_self`, `lookup?_putEntry_of_ne`: what is found after an entry is written
* `Term.entry?_of_eval`: what the value of a dictionary has under a text
-/

namespace WorkflowDocs.Literal

/-- What a dictionary has under a text. -/
def entry? (key : String) : Literal → Option Literal
  | .dict entries => lookup? key entries
  | _ => none

/-! ## Keys that are texts -/

theorem sameNumber_string_left (s : String) (v : Literal) : sameNumber (.string s) v = false := by
  rw [sameNumber]
  cases v.asReal <;> rfl

theorem sameNumber_string_right (s : String) (v : Literal) :
    sameNumber v (.string s) = false := by
  rw [sameNumber]
  cases v.asReal <;> simp [asReal, wholeNumber?]

/-- A key that is the same as a text is that text. -/
theorem eq_string_iff_of_sameKey {a b : Literal} (h : sameKey a b = true) (s : String) :
    a = .string s ↔ b = .string s := by
  constructor
  · rintro rfl
    cases b with
    | string t =>
      rw [beq_iff_eq.1 h]
    | _ => exact absurd h (by simp [sameKey, sameNumber_string_left])
  · rintro rfl
    cases a with
    | string t => rw [beq_iff_eq.1 h]
    | _ => exact absurd h (by simp [sameKey, sameNumber_string_right])

theorem lookup?_cons_self (key : String) (v : Literal) (es : List (Literal × Literal)) :
    lookup? key ((.string key, v) :: es) = some v := if_pos rfl

theorem lookup?_cons_of_ne {key : String} {k : Literal} (h : k ≠ .string key) (v : Literal)
    (es : List (Literal × Literal)) : lookup? key ((k, v) :: es) = lookup? key es := by
  cases k with
  | string s => exact if_neg fun heq => h (by rw [heq])
  | _ => rfl

theorem lookup?_putEntry_self (key : String) (v : Literal) (es : List (Literal × Literal)) :
    lookup? key (putEntry (.string key) v es) = some v := by
  induction es with
  | nil => exact lookup?_cons_self key v []
  | cons e es ih =>
    rw [putEntry]
    split
    · rename_i hsame
      rw [(eq_string_iff_of_sameKey hsame key).2 rfl, lookup?_cons_self]
    · rename_i hsame
      have hne : e.1 ≠ .string key := fun heq => hsame (by simp [heq, sameKey])
      rw [lookup?_cons_of_ne hne, ih]

theorem lookup?_putEntry_of_ne {key : String} {k : Literal} (h : k ≠ .string key) (v : Literal)
    (es : List (Literal × Literal)) : lookup? key (putEntry k v es) = lookup? key es := by
  induction es with
  | nil => exact lookup?_cons_of_ne h v []
  | cons e es ih =>
    obtain ⟨k', v'⟩ := e
    rw [putEntry]
    split
    · rename_i hsame
      have hne : k' ≠ .string key := fun heq => h ((eq_string_iff_of_sameKey hsame key).1 heq)
      rw [lookup?_cons_of_ne hne, lookup?_cons_of_ne hne]
    · by_cases hkey : k' = .string key
      · rw [hkey, lookup?_cons_self, lookup?_cons_self]
      · rw [lookup?_cons_of_ne hkey, lookup?_cons_of_ne hkey, ih]

namespace Term

/-! ## The last entry under a key -/

/-- Whether a term is the text `s`. -/
def spells (s : String) : Term → Bool
  | .text cs => cs == s.toList.map Char.toNat
  | _ => false

/-- The term that comes last under a key. -/
def lastUnder? (key : String) : List (Term × Term) → Option Term
  | [] => none
  | (k, t) :: es => (lastUnder? key es).or (if k.spells key then some t else none)

/-- The term that the display of a dictionary has last under a key. -/
def entry? (key : String) : Term → Option Term
  | .dict es => lastUnder? key es
  | _ => none

/-- The terms whose value is a text of characters. -/
theorem eval_eq_string_iff {t : Term} {s : String} :
    t.eval = .ok (.string s) ↔ t = .text (s.toList.map Char.toNat) := by
  constructor
  · intro h
    have htext := isText_of_eval h
    cases t with
    | text cs => rw [Json.eq_of_ofCodes (Except.ok.inj h)]
    | _ => exact absurd htext (by simp [isText, Literal.isText])
  · rintro rfl
    exact congrArg Except.ok (ofCodes_toNat s)

theorem spells_iff {t : Term} {v : Literal} (h : t.eval = .ok v) (s : String) :
    t.spells s = true ↔ v = .string s := by
  have hspells : t.spells s = true ↔ t = .text (s.toList.map Char.toNat) := by
    cases t <;> simp [spells]
  rw [hspells, ← eval_eq_string_iff, h]
  exact ⟨Except.ok.inj, congrArg _⟩

/-- Of several entries under a key the last one counts. -/
theorem lookup?_of_evalEntries (key : String) {es : List (Term × Term)}
    {sofar vs : List (Literal × Literal)} (h : evalEntries sofar es = .ok vs) :
    lookup? key vs = (lastUnder? key es).elim (lookup? key sofar) (·.eval.toOption) := by
  induction es generalizing sofar with
  | nil =>
    obtain rfl := Except.ok.inj h
    rfl
  | cons e es ih =>
    obtain ⟨k, t⟩ := e
    obtain ⟨kv, hk, h⟩ := exists_of_bind_eq_ok h
    obtain ⟨v, hv, h⟩ := exists_of_bind_eq_ok h
    split at h
    · rw [ih h, lastUnder?]
      cases lastUnder? key es with
      | some t' => rfl
      | none =>
        by_cases hspells : k.spells key = true
        · obtain rfl := (spells_iff hk key).1 hspells
          rw [if_pos hspells]
          simp only [Option.elim, Option.or, lookup?_putEntry_self, hv, Except.toOption]
        · have hne : kv ≠ .string key := fun heq => hspells ((spells_iff hk key).2 heq)
          rw [if_neg hspells]
          exact lookup?_putEntry_of_ne hne v sofar
    · exact absurd h (by simp)

/-- What a value has under a key is the value of what its term has last under it. -/
theorem entry?_of_eval (key : String) {t : Term} {v : Literal} (h : t.eval = .ok v) :
    v.entry? key = (t.entry? key).bind (·.eval.toOption) := by
  cases evaluates_of_eval h with
  | scalar ht hv =>
    have hvalue : v.entry? key = none := by
      cases v with
      | dict => exact absurd hv (by simp [Literal.isScalar])
      | _ => rfl
    rw [hvalue]
    cases t with
    | dict => exact absurd ht (by simp [isScalar])
    | _ => rfl
  | text cs =>
    rw [ofCodes]
    split <;> rfl
  | list | tuple | set => rfl
  | @dict es vs hentries =>
    rw [Literal.entry?, lookup?_of_evalEntries key hentries, entry?]
    cases lastUnder? key es <;> rfl

end Term

end WorkflowDocs.Literal
