import WorkflowDocs.Decimal.Notation

/-!
# The characters of written numbers

A whole number is written with digits and a sign. A number with a fraction has a point besides, an
exponent behind the letter `e`, or is one of the words `inf` and `nan`.

## Main results

* `not_mem_natText`, `not_mem_intText`: whole numbers
* `not_mem_write`: numbers with a fraction
-/

namespace WorkflowDocs.Decimal

variable {c : Char}

theorem ne_zero_of_isDigit (h : c.isDigit = false) : c ≠ '0' := by
  rintro rfl
  cases h

theorem not_mem_digitChars (h : c.isDigit = false) (n : Nat) : c ∉ digitChars n := by
  intro hc
  rw [Nat.isDigit_of_mem_toDigits (by decide) (Nat.le_refl 10) hc] at h
  cases h

/-- The text of a number has nothing but digits. -/
theorem not_mem_natText (h : c.isDigit = false) (n : Nat) : c ∉ (natText n).toList := by
  rw [natText, String.toList_ofList]
  exact not_mem_digitChars h n

theorem not_mem_intText (h : c.isDigit = false) (hsign : c ≠ '-') (n : Int) :
    c ∉ (intText n).toList := by
  have hdigits := not_mem_natText h n.natAbs
  unfold intText
  split
  · simp [hsign, hdigits]
  · exact hdigits

theorem not_mem_padLeft (h : c.isDigit = false) (width n : Nat) :
    c ∉ padLeft width (digitChars n) := by
  simp [padLeft, ne_zero_of_isDigit h, not_mem_digitChars h]

theorem not_mem_positional (h : c.isDigit = false) (hpoint : c ≠ '.') (n : Nat) (e : Int) :
    c ∉ positional (digitChars n) e := by
  unfold positional
  split
  · simp [ne_zero_of_isDigit h, hpoint, not_mem_digitChars h]
  · have hpad := not_mem_padLeft h ((-e).toNat + 1) n
    rw [List.mem_append, List.mem_cons, not_or, not_or]
    exact ⟨mt List.mem_of_mem_take hpad, hpoint, mt List.mem_of_mem_drop hpad⟩

theorem not_mem_scientific (h : c.isDigit = false) (hsigns : c ∉ ['.', 'e', '-', '+'])
    (layout : Layout) (n : Nat) (lead : Int) : c ∉ scientific layout (digitChars n) lead := by
  have hdigits := not_mem_digitChars h n
  have hexponent := not_mem_padLeft h layout.exponentWidth lead.natAbs
  simp only [List.mem_cons, List.not_mem_nil, or_false, not_or] at hsigns
  obtain ⟨hpoint, he, hminus, hplus⟩ := hsigns
  have hsign : c ≠ if lead < 0 then '-' else '+' := by
    split
    · exact hminus
    · exact hplus
  unfold scientific
  rw [List.mem_append, List.mem_cons, List.mem_cons, not_or, not_or, not_or]
  refine ⟨?_, he, hsign, hexponent⟩
  generalize digitChars n = digits at hdigits
  split
  · exact List.not_mem_nil
  · exact hdigits
  · rw [List.mem_cons, not_or] at hdigits
    rw [List.mem_cons, List.mem_cons, not_or, not_or]
    exact ⟨hdigits.1, hpoint, hdigits.2⟩

/-- A number is written with digits, a point, signs and the letters of `e`, `inf` and `nan`. -/
theorem not_mem_write (h : c.isDigit = false)
    (hsigns : c ∉ ['.', 'e', '-', '+', 'i', 'n', 'f', 'a']) (layout : Layout) (x : Binary64) :
    c ∉ (layout.write x).toList := by
  simp only [List.mem_cons, List.not_mem_nil, or_false, not_or] at hsigns
  obtain ⟨hpoint, he, hminus, hplus, hi, hn, hf, ha⟩ := hsigns
  have hsign : ∀ negative, c ∉ (signText negative).toList := by
    intro negative
    cases negative <;> simp [signText, hminus]
  cases x with
  | nan => simp [Layout.write, hn, ha]
  | infinite s => simp [Layout.write, hsign, hi, hn, hf]
  | finite s m q =>
    have hmagnitude : c ∉ layout.writeMagnitude m q := by
      unfold Layout.writeMagnitude
      split
      · simp [ne_zero_of_isDigit h, hpoint]
      · dsimp only
        split
        · exact not_mem_positional h hpoint _ _
        · exact not_mem_scientific h (by simp [hpoint, he, hminus, hplus]) layout _ _
    simp [Layout.write, hsign, hmagnitude]

end WorkflowDocs.Decimal
