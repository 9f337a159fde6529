import WorkflowDocs.Proofs.Path.Text

/-!
# Where a piece of text stands

How often a piece stands in a text is not the sum of how often it stands in two parts of the text,
because it may stand across the place where the parts meet. It is the sum if the first part does not
end with an unfinished piece. Parts of this kind can be put together in any number, and whether a
text is one of them can be computed.

## Main definitions

* `occurrences`, `occurrencesIn`: the number of places where a piece stands
* `Settled`: a text that does not end with an unfinished piece
* `Holds`: a settled text with a given number of pieces
* `holdsChars`: a test for it

## Main results

* `occurrences_append`, `Holds.append`: putting settled texts together
* `occurrences_joinWith`: texts with a separator between them
* `Holds.append_left`: any text before one that cannot go on with a piece
* `holdsChars_iff`: the test is right
-/

namespace WorkflowDocs.Text

variable {p a b cs : List Char} {j k : Nat}

/-- The number of places in a text where the piece `p` stands. -/
def occurrences (p : List Char) : List Char → Nat
  | [] => 0
  | c :: cs => (if p.isPrefixOf (c :: cs) then 1 else 0) + occurrences p cs

/-- The number of places in any of the texts where the piece `p` stands. -/
def occurrencesIn (p : List Char) : List String → Nat
  | [] => 0
  | s :: texts => occurrences p s.toList + occurrencesIn p texts

/-- The text does not end with an unfinished piece: no end of it is the beginning of `p`, unless it
is empty or all of `p`. -/
def Settled (p cs : List Char) : Prop :=
  ∀ t, t <:+ cs → t <+: p → t = [] ∨ t = p

/-- The piece stands `k` times in the text, and the text does not end with an unfinished one. -/
structure Holds (p : List Char) (k : Nat) (cs : List Char) : Prop where
  count : occurrences p cs = k
  settled : Settled p cs

theorem occurrences_cons_of_begins {c : Char} (h : p <+: c :: cs) :
    occurrences p (c :: cs) = occurrences p cs + 1 := by
  rw [occurrences, if_pos (List.isPrefixOf_iff_prefix.2 h), Nat.add_comm]

theorem occurrences_cons_of_not_begins {c : Char} (h : ¬ p <+: c :: cs) :
    occurrences p (c :: cs) = occurrences p cs := by
  rw [occurrences, if_neg (mt List.isPrefixOf_iff_prefix.1 h), Nat.zero_add]

theorem Settled.nil : Settled p [] :=
  fun _ ht _ => .inl (List.suffix_nil.1 ht)

theorem settled_cons_iff {c : Char} :
    Settled p (c :: cs) ↔ (c :: cs <+: p → c :: cs = p) ∧ Settled p cs := by
  constructor
  · intro h
    refine ⟨fun hp => ?_, fun t ht => h t (ht.trans (List.suffix_cons c cs))⟩
    exact (h _ List.suffix_rfl hp).resolve_left (List.cons_ne_nil c cs)
  · rintro ⟨hfirst, hrest⟩ t ht hp
    rcases List.suffix_cons_iff.1 ht with rfl | ht
    · exact .inr (hfirst hp)
    · exact hrest t ht hp

/-! ## Putting texts together -/

/-- In a settled text, no piece stands across its end. The whole text would be the beginning of the
piece, and so all of it. -/
theorem Settled.begins_append_iff {c : Char} (h : Settled p (c :: cs)) :
    p <+: c :: (cs ++ b) ↔ p <+: c :: cs := by
  have hlonger : c :: cs <+: c :: (cs ++ b) := List.prefix_append (c :: cs) b
  refine ⟨fun hp => ?_, fun hp => hp.trans hlonger⟩
  rcases List.prefix_or_prefix_of_prefix hp hlonger with hp | hp
  · exact hp
  · rw [(settled_cons_iff.1 h).1 hp]

/-- Where no piece stands across the place where two texts meet, both are counted on their own. -/
theorem occurrences_append_of_across
    (hacross : ∀ c cs, c :: cs <:+ a → p <+: c :: (cs ++ b) → p <+: c :: cs) :
    occurrences p (a ++ b) = occurrences p a + occurrences p b := by
  induction a with
  | nil => rw [List.nil_append, occurrences, Nat.zero_add]
  | cons c cs ih =>
    have ih := ih fun x xs hx => hacross x xs (hx.trans (List.suffix_cons c cs))
    rw [List.cons_append]
    by_cases hp : p <+: c :: cs
    · have hlonger : p <+: c :: (cs ++ b) := hp.trans (List.prefix_append (c :: cs) b)
      rw [occurrences_cons_of_begins hlonger, occurrences_cons_of_begins hp, ih,
        Nat.add_right_comm]
    · rw [occurrences_cons_of_not_begins (mt (hacross c cs List.suffix_rfl) hp),
        occurrences_cons_of_not_begins hp, ih]

theorem Settled.of_suffix (h : Settled p a) (hb : b <:+ a) : Settled p b :=
  fun t ht => h t (ht.trans hb)

theorem occurrences_append (h : Settled p a) :
    occurrences p (a ++ b) = occurrences p a + occurrences p b :=
  occurrences_append_of_across fun _ _ hsuffix => (h.of_suffix hsuffix).begins_append_iff.1

/-- A character that no piece has in it separates what is counted. -/
theorem occurrences_append_cons {x : Char} (hne : p ≠ []) (hx : x ∉ p) (a b : List Char) :
    occurrences p (a ++ x :: b) = occurrences p a + occurrences p b := by
  have hbegins : ¬ p <+: x :: b := fun h =>
    hne (List.prefix_nil.1 ((prefix_append_cons_iff [] hx).1 h))
  rw [occurrences_append_of_across fun c cs _ => (prefix_append_cons_iff (c :: cs) hx).1,
    occurrences_cons_of_not_begins hbegins]

theorem occurrencesIn_append (p : List Char) (texts texts' : List String) :
    occurrencesIn p (texts ++ texts') = occurrencesIn p texts + occurrencesIn p texts' := by
  induction texts with
  | nil => rw [List.nil_append, occurrencesIn, Nat.zero_add]
  | cons s texts ih => rw [List.cons_append, occurrencesIn, occurrencesIn, ih, Nat.add_assoc]

/-- In a joined text, each of the texts is counted on its own. -/
theorem occurrences_joinWith {sep : Char} (hne : p ≠ []) (hsep : sep ∉ p) (texts : List String) :
    occurrences p (joinWith (String.singleton sep) texts).toList = occurrencesIn p texts := by
  induction texts with
  | nil => rfl
  | cons s texts ih =>
    cases texts with
    | nil => rfl
    | cons second rest =>
      rw [toList_joinWith_cons, occurrences_append_cons hne hsep, ih, ← occurrencesIn]

/-- Where the beginning of a piece goes on into the second part, the first is a beginning of it too,
and so all of it. -/
theorem Settled.append (ha : Settled p a) (hb : Settled p b) : Settled p (a ++ b) := by
  induction a with
  | nil => exact hb
  | cons c cs ih =>
    obtain ⟨hfirst, hrest⟩ := settled_cons_iff.1 ha
    refine settled_cons_iff.2 ⟨fun hp => ?_, ih hrest⟩
    have hlonger : c :: cs <+: c :: (cs ++ b) := List.prefix_append (c :: cs) b
    have hall : c :: cs = p := hfirst (hlonger.trans hp)
    exact hp.eq_of_length_le (hall ▸ hlonger.length_le)

theorem Holds.append (ha : Holds p j a) (hb : Holds p k b) : Holds p (j + k) (a ++ b) :=
  ⟨by rw [occurrences_append ha.settled, ha.count, hb.count], ha.settled.append hb.settled⟩

theorem Holds.nil : Holds p 0 [] :=
  ⟨rfl, .nil⟩

/-- A text without the first character of a piece holds none. -/
theorem Holds.of_not_mem {x : Char} {q : List Char} (h : x ∉ cs) : Holds (x :: q) 0 cs := by
  induction cs with
  | nil => exact .nil
  | cons c cs ih =>
    obtain ⟨hx, hcs⟩ := not_or.1 (mt List.mem_cons.2 h)
    refine ⟨?_, settled_cons_iff.2 ⟨fun hp => ?_, (ih hcs).settled⟩⟩
    · rw [occurrences_cons_of_not_begins fun hp => hx (List.cons_prefix_cons.1 hp).1,
        (ih hcs).count]
    · exact absurd (List.cons_prefix_cons.1 hp).1 (Ne.symm hx)

/-- A text that holds no piece begins with none, and the rest of it holds none. -/
theorem Holds.of_cons {c : Char} (h : Holds p 0 (c :: cs)) : ¬ p <+: c :: cs ∧ Holds p 0 cs := by
  have hnot : ¬ p <+: c :: cs := by
    intro hbegins
    have hcount := h.count
    rw [occurrences_cons_of_begins hbegins] at hcount
    omega
  refine ⟨hnot, ?_, (settled_cons_iff.1 h.settled).2⟩
  rw [← occurrences_cons_of_not_begins hnot, h.count]

theorem Holds.not_mem {x : Char} (h : Holds [x] 0 cs) : x ∉ cs := by
  induction cs with
  | nil => exact List.not_mem_nil
  | cons c cs ih =>
    obtain ⟨hnot, hrest⟩ := h.of_cons
    rw [List.mem_cons, not_or]
    refine ⟨?_, ih hrest⟩
    rintro rfl
    exact hnot ⟨cs, rfl⟩

/-- A text that a piece does not stand in does not hold a longer one either. The text and the
shorter piece are both beginnings of the longer one. -/
theorem Holds.of_begins {q : List Char} (hq : q <+: p) (h : Holds q 0 cs) :
    Holds p 0 cs := by
  induction cs with
  | nil => exact .nil
  | cons c cs ih =>
    obtain ⟨hnot, hrest⟩ := h.of_cons
    have hfirst := (settled_cons_iff.1 h.settled).1
    have ih := ih hrest
    refine ⟨?_, settled_cons_iff.2 ⟨fun hp => ?_, ih.settled⟩⟩
    · rw [occurrences_cons_of_not_begins fun hp => hnot (hq.trans hp), ih.count]
    · rcases List.prefix_or_prefix_of_prefix hp hq with hshort | hlong
      · exact absurd (hfirst hshort ▸ List.prefix_rfl) hnot
      · exact absurd hlong hnot

theorem occurrencesIn_of_not_mem {x : Char} {q : List Char} {texts : List String}
    (h : ∀ s ∈ texts, x ∉ s.toList) : occurrencesIn (x :: q) texts = 0 := by
  induction texts with
  | nil => rfl
  | cons s texts ih =>
    obtain ⟨hs, htexts⟩ := List.forall_mem_cons.1 h
    rw [occurrencesIn, (Holds.of_not_mem hs).count, ih htexts]

/-- Any text may stand before one that a piece cannot go on with: it begins with a character that
stands nowhere in the piece but at its beginning. A piece that begins in the first part ends there,
because it would have `x` inside it. -/
theorem Holds.append_left {x y : Char} {q : List Char} (hx : x ∉ q)
    (hb : Holds (y :: q) k (x :: b)) (a : List Char) :
    Holds (y :: q) (occurrences (y :: q) a + k) (a ++ x :: b) := by
  constructor
  · rw [occurrences_append_of_across, hb.count]
    intro c cs _ hp
    rwa [List.cons_prefix_cons, prefix_append_cons_iff cs hx, ← List.cons_prefix_cons] at hp
  · induction a with
    | nil => exact hb.settled
    | cons c cs ih =>
      refine settled_cons_iff.2 ⟨fun hp => ?_, ih⟩
      have hinside : x ∈ q := (List.cons_prefix_cons.1 hp).2.subset (by simp)
      exact absurd hinside hx

/-- A text between two others that a piece cannot stand in or go on with. -/
theorem occurrences_between {x y : Char} {q front back : List Char} (hx : x ∉ q)
    (hfront : y ∉ front) (hback : y ∉ x :: back) (a : List Char) :
    occurrences (y :: q) (front ++ (a ++ x :: back)) = occurrences (y :: q) a := by
  have hfirst := Holds.of_not_mem (q := q) hfront
  rw [occurrences_append hfirst.settled, hfirst.count, Nat.zero_add,
    (Holds.append_left hx (.of_not_mem hback) a).count, Nat.add_zero]

/-! ## A test -/

/-- Whether a piece stands `k` times in a text that does not end with an unfinished one. -/
def holdsChars (p : List Char) : Nat → List Char → Bool
  | k, [] => k == 0
  | k, c :: cs =>
    if p.isPrefixOf (c :: cs) then k != 0 && holdsChars p (k - 1) cs
    else !(c :: cs).isPrefixOf p && holdsChars p k cs

theorem holdsChars_iff : holdsChars p k cs = true ↔ Holds p k cs := by
  induction cs generalizing k with
  | nil =>
    rw [holdsChars, beq_iff_eq]
    exact ⟨fun h => h ▸ .nil, fun h => h.count.symm⟩
  | cons c cs ih =>
    rw [holdsChars]
    by_cases hp : p <+: c :: cs
    · rw [if_pos (List.isPrefixOf_iff_prefix.2 hp), Bool.and_eq_true, bne_iff_ne, ih]
      constructor
      · rintro ⟨hk, h⟩
        refine ⟨by rw [occurrences_cons_of_begins hp, h.count]; omega, settled_cons_iff.2
          ⟨fun hp' => hp'.eq_of_length_le hp.length_le, h.settled⟩⟩
      · rintro ⟨hcount, hsettled⟩
        rw [occurrences_cons_of_begins hp] at hcount
        exact ⟨by omega, by omega, (settled_cons_iff.1 hsettled).2⟩
    · rw [if_neg (mt List.isPrefixOf_iff_prefix.1 hp), Bool.and_eq_true, Bool.not_eq_true',
        Bool.eq_false_iff, ne_eq, List.isPrefixOf_iff_prefix, ih]
      constructor
      · rintro ⟨hfirst, h⟩
        exact ⟨by rw [occurrences_cons_of_not_begins hp, h.count],
          settled_cons_iff.2 ⟨fun hp' => absurd hp' hfirst, h.settled⟩⟩
      · rintro ⟨hcount, hsettled⟩
        rw [occurrences_cons_of_not_begins hp] at hcount
        obtain ⟨hfirst, hrest⟩ := settled_cons_iff.1 hsettled
        exact ⟨fun hp' => hp (hfirst hp' ▸ List.prefix_rfl), hcount, hrest⟩

/-- What a text holds, from its characters. -/
theorem Holds.ofList (h : holdsChars p k cs = true) : Holds p k (String.ofList cs).toList := by
  rw [String.toList_ofList]
  exact holdsChars_iff.1 h

end WorkflowDocs.Text
