import WorkflowDocs.Literal.Reader
import WorkflowDocs.Proofs.Decimal.Range
import WorkflowDocs.Proofs.Results

/-!
# What is wrong with a literal

A text that cannot be read as a literal may have several things wrong with it, and reading it stops
at one of them. Here the faults of a term are listed without evaluating it, in the order in which
its parts are evaluated; evaluation fails with the first of them, and if there are none it gives a
value. A collection that can change is a fault where a key is expected, after those of the key
itself and of the value that goes with it.

## Main definitions

* `Term.blocker?`: the collection that keeps a term from standing as a key
* `Term.faults`, `faultsOf`: the faults of a term and of a text
* `Term.Evaluates`: the kinds of terms that have values, and of what kind these are

## Main results

* `Term.isText_of_eval`: the terms whose values are texts
* `Term.eval_reports`: evaluating a term fails with its first fault
* `read_reports`: reading a text fails with its first fault
-/

namespace WorkflowDocs.Literal

/-! ## Kinds of values -/

/-- Whether a value is neither a text nor a collection. -/
def isScalar : Literal → Bool
  | .null | .ellipsis | .boolean _ | .int _ | .float _ | .complex _ _ | .bytes _ => true
  | _ => false

/-- Whether a value is a text. -/
def isText : Literal → Bool
  | .string _ | .codes _ => true
  | _ => false

namespace Term

/-! ## The faults of a term -/

mutual

/-- The collection that keeps a term from standing as a key. -/
def blocker? : Term → Option Collection
  | .list _ => some .list
  | .set _ => some .set
  | .dict _ => some .dict
  | .tuple items => blockerOf? items
  | _ => none

/-- The first collection among the terms that keeps them from standing as keys. -/
def blockerOf? : List Term → Option Collection
  | [] => none
  | t :: ts => t.blocker?.or (blockerOf? ts)

end

/-- What is wrong with a term as a key. -/
def keyFaults (t : Term) : List Fault :=
  t.blocker?.toList.map .unhashable

/-- The number that a term is, with or without a sign. -/
def number? : Term → Option Number
  | .number x => some x
  | .signed _ (.number x) => some x
  | _ => none

/-- What is wrong with a number as a real part: it must not be imaginary, nor beyond double
precision. -/
def realFaults : Number → List Fault
  | .int n => if Decimal.tooLargeWhole ≤ n then [.tooLarge] else []
  | .float _ => []
  | .imaginary _ => [.malformed]

/-- What is wrong with a sum: it has to be that of a real and an imaginary number. -/
def sumFaults (left right : Term) : List Fault :=
  match right with
  | .number (.imaginary _) => left.number?.elim [.malformed] realFaults
  | _ => [.malformed]

mutual

/-- What is wrong with a term, in the order in which its parts are evaluated. -/
def faults : Term → List Fault
  | .null | .ellipsis | .boolean _ | .number _ | .text _ | .bytes _ | .signed _ (.number _) => []
  | .sum _ left right => sumFaults left right
  | .list items | .tuple items => itemFaults items
  | .set items => memberFaults items
  | .dict entries => entryFaults entries
  | .name _ | .signed _ _ | .starred _ | .foreign _ => [.malformed]

/-- What is wrong with the items of a list. -/
def itemFaults : List Term → List Fault
  | [] => []
  | t :: ts => t.faults ++ itemFaults ts

/-- What is wrong with the members of a set. -/
def memberFaults : List Term → List Fault
  | [] => []
  | t :: ts => t.faults ++ (t.keyFaults ++ memberFaults ts)

/-- What is wrong with the entries of a dictionary. -/
def entryFaults : List (Term × Term) → List Fault
  | [] => []
  | (k, t) :: es => k.faults ++ (t.faults ++ (k.keyFaults ++ entryFaults es))

end

/-! ## Values and their terms -/

/-- Whether a term is neither a text nor a collection. -/
def isScalar : Term → Bool
  | .null | .ellipsis | .boolean _ | .number _ | .bytes _ | .signed _ _ | .sum _ _ _ => true
  | _ => false

/-- Whether a term is a text. -/
def isText : Term → Bool
  | .text _ => true
  | _ => false

/-- The kinds of terms that have values, each with the values it has. -/
inductive Evaluates : Term → Literal → Prop where
  | scalar {t : Term} {v : Literal} (ht : t.isScalar = true) (hv : v.isScalar = true) :
    Evaluates t v
  | text (cs : List Nat) : Evaluates (.text cs) (ofCodes cs)
  | list {ts : List Term} {vs : List Literal} (h : evalItems ts = .ok vs) :
    Evaluates (.list ts) (.list vs)
  | tuple {ts : List Term} {vs : List Literal} (h : evalItems ts = .ok vs) :
    Evaluates (.tuple ts) (.tuple vs)
  | set {ts : List Term} {vs : List Literal} (h : evalMembers [] ts = .ok vs) :
    Evaluates (.set ts) (.set vs)
  | dict {es : List (Term × Term)} {vs : List (Literal × Literal)}
    (h : evalEntries [] es = .ok vs) : Evaluates (.dict es) (.dict vs)

theorem isScalar_signedValue (negative : Bool) (x : Number) :
    (x.signedValue negative).isScalar = true := by
  cases negative <;> cases x <;> rfl

theorem isScalar_of_sumValue {negative : Bool} {left right : Term} {v : Literal}
    (h : sumValue negative left right = .ok v) : v.isScalar = true := by
  unfold sumValue at h
  split at h
  · obtain ⟨real, -, h⟩ := exists_of_bind_eq_ok h
    obtain ⟨re, -, h⟩ := exists_of_bind_eq_ok h
    obtain rfl := Except.ok.inj h
    cases negative <;> rfl
  · exact absurd h (by simp)

theorem evaluates_of_eval {t : Term} {v : Literal} (h : t.eval = .ok v) : Evaluates t v := by
  cases t with
  | null | ellipsis | boolean | bytes =>
    obtain rfl := Except.ok.inj h
    exact .scalar rfl rfl
  | number x =>
    obtain rfl := Except.ok.inj h
    exact .scalar rfl (isScalar_signedValue false x)
  | signed negative t =>
    cases t with
    | number x =>
      obtain rfl := Except.ok.inj h
      exact .scalar rfl (isScalar_signedValue negative x)
    | _ => exact absurd h (by simp [eval])
  | sum => exact .scalar rfl (isScalar_of_sumValue h)
  | text cs =>
    obtain rfl := Except.ok.inj h
    exact .text cs
  | list =>
    obtain ⟨vs, hvs, rfl⟩ := exists_of_map_eq_ok h
    exact .list hvs
  | tuple =>
    obtain ⟨vs, hvs, rfl⟩ := exists_of_map_eq_ok h
    exact .tuple hvs
  | set =>
    obtain ⟨vs, hvs, rfl⟩ := exists_of_map_eq_ok h
    exact .set hvs
  | dict =>
    obtain ⟨vs, hvs, rfl⟩ := exists_of_map_eq_ok h
    exact .dict hvs
  | name | starred | foreign => exact absurd h (by simp [eval])

mutual

/-- A value is kept from being a key by the same collection as its term. -/
theorem keyBlocker?_of_eval {t : Term} {v : Literal} (h : t.eval = .ok v) :
    v.keyBlocker? = t.blocker? := by
  cases evaluates_of_eval h with
  | scalar ht hv =>
    have hvalue : v.keyBlocker? = none := by
      cases v with
      | list | set | dict | tuple => exact absurd hv (by simp [Literal.isScalar])
      | _ => rfl
    rw [hvalue]
    cases t with
    | list | set | dict | tuple => exact absurd ht (by simp [isScalar])
    | _ => rfl
  | text cs =>
    rw [ofCodes]
    split <;> rfl
  | list | set | dict => rfl
  | tuple hitems => exact keyBlockerOf?_of_evalItems hitems

theorem keyBlockerOf?_of_evalItems {ts : List Term} {vs : List Literal}
    (h : evalItems ts = .ok vs) : keyBlockerOf? vs = blockerOf? ts := by
  cases ts with
  | nil =>
    obtain rfl := Except.ok.inj h
    rfl
  | cons t ts =>
    obtain ⟨v, hv, h⟩ := exists_of_bind_eq_ok h
    obtain ⟨ws, hws, h⟩ := exists_of_bind_eq_ok h
    obtain rfl := Except.ok.inj h
    rw [keyBlockerOf?, blockerOf?, keyBlocker?_of_eval hv, keyBlockerOf?_of_evalItems hws]

end

/-- The value of a term is a text if the term is. -/
theorem isText_of_eval {t : Term} {v : Literal} (h : t.eval = .ok v) : v.isText = t.isText := by
  cases evaluates_of_eval h with
  | scalar ht hv =>
    have hvalue : v.isText = false := by
      cases v with
      | string | codes => exact absurd hv (by simp [Literal.isScalar])
      | _ => rfl
    rw [hvalue]
    cases t with
    | text => exact absurd ht (by simp [isScalar])
    | _ => rfl
  | text cs =>
    rw [ofCodes]
    split <;> rfl
  | list | tuple | set | dict => rfl

/-! ## Evaluation -/

/-- A whole number is the real part of a complex one unless it is beyond double precision. A value
that is not infinite is that of a number in range. -/
theorem realPart_int_reports (n : Int) :
    Reports (realPart (.int n))
      (if Decimal.tooLargeWhole ≤ n.natAbs then [.tooLarge] else []) := by
  have hinfinite := fun s => Decimal.Binary64.ofQuotient_one_eq_infinite_iff (n < 0) s n.natAbs
  rw [realPart]
  cases hx : Decimal.Binary64.ofQuotient (n < 0) n.natAbs 1 with
  | infinite s =>
    rw [if_pos ((hinfinite s).1 hx).2]
    exact .error _
  | _ =>
    have hsmall : ¬ Decimal.tooLargeWhole ≤ n.natAbs := fun hlarge =>
      absurd (hx.symm.trans ((hinfinite _).2 ⟨rfl, hlarge⟩)) (by simp)
    rw [if_neg hsmall]
    exact .ok _

theorem realPart_signedValue_reports (negative : Bool) : ∀ x : Number,
    Reports (realPart (x.signedValue negative)) (realFaults x)
  | .int n => by
    have hvalue : ∃ k : Int, (Number.int n).signedValue negative = .int k ∧ k.natAbs = n := by
      cases negative
      · exact ⟨n, rfl, Int.natAbs_natCast n⟩
      · exact ⟨-(n : Int), rfl, by rw [Int.natAbs_neg, Int.natAbs_natCast]⟩
    obtain ⟨k, hk, habs⟩ := hvalue
    rw [hk, realFaults, ← habs]
    exact realPart_int_reports k
  | .float x => by cases negative <;> exact .ok _
  | .imaginary x => by cases negative <;> exact .error _

theorem realPart_signedNumber_reports (t : Term) :
    Reports (t.signedNumber >>= realPart) (t.number?.elim [.malformed] realFaults) := by
  cases t with
  | number x => exact realPart_signedValue_reports false x
  | signed negative t =>
    cases t with
    | number x => exact realPart_signedValue_reports negative x
    | _ => exact .error _
  | _ => exact .error _

theorem sumValue_reports (negative : Bool) (left right : Term) :
    Reports (sumValue negative left right) (sumFaults left right) := by
  cases right with
  | number y =>
    cases y with
    | imaginary im =>
      rw [sumValue, sumFaults, ← bind_assoc, ← List.append_nil (left.number?.elim _ _)]
      exact (realPart_signedNumber_reports left).bind fun _ _ => .ok _
    | _ => exact .error _
  | _ => exact .error _

/-- A key reports what keeps it from being one. -/
theorem reports_of_key {α : Type} {t : Term} {v : Literal} (h : t.eval = .ok v)
    {next : Except Fault α} {fs : List Fault} (hnext : Reports next fs) :
    Reports (match v.keyBlocker? with
      | none => next
      | some kind => .error (.unhashable kind)) (t.keyFaults ++ fs) := by
  rw [keyFaults, ← keyBlocker?_of_eval h]
  cases v.keyBlocker? with
  | none => exact hnext
  | some kind => exact fun f => by simp

mutual

/-- Evaluating a term fails with its first fault. What was written before is left open for sets and
dictionaries, since their members and entries are evaluated with what is there already. -/
theorem eval_reports : ∀ t : Term, Reports t.eval t.faults
  | .null | .ellipsis | .boolean _ | .number _ | .text _ | .bytes _ => .ok _
  | .signed _ t => by
    cases t with
    | number x => exact .ok _
    | _ => exact .error _
  | .sum negative left right => sumValue_reports negative left right
  | .list items => (evalItems_reports items).map
  | .tuple items => (evalItems_reports items).map
  | .set items => (evalMembers_reports items []).map
  | .dict entries => (evalEntries_reports entries []).map
  | .name _ | .starred _ | .foreign _ => .error _

/-- The items of a list are evaluated from left to right. -/
theorem evalItems_reports : ∀ ts : List Term, Reports (evalItems ts) (itemFaults ts)
  | [] => .ok _
  | t :: ts => (eval_reports t).bind fun _ _ => by
    rw [← List.append_nil (itemFaults ts)]
    exact (evalItems_reports ts).bind fun _ _ => .ok _

/-- A member of a set is added before the next one is evaluated. -/
theorem evalMembers_reports : ∀ (ts : List Term) (sofar : List Literal),
    Reports (evalMembers sofar ts) (memberFaults ts)
  | [], _ => .ok _
  | t :: ts, _ => (eval_reports t).bind fun _ hv =>
    reports_of_key hv (evalMembers_reports ts _)

/-- The key and the value of an entry are evaluated before it is written. -/
theorem evalEntries_reports : ∀ (es : List (Term × Term)) (sofar : List (Literal × Literal)),
    Reports (evalEntries sofar es) (entryFaults es)
  | [], _ => .ok _
  | (k, t) :: es, _ => (eval_reports k).bind fun _ hk => (eval_reports t).bind fun _ _ =>
    reports_of_key hk (evalEntries_reports es _)

end

end Term

/-! ## Texts -/

/-- What is wrong with a text as a literal: whether it is given up is found out before its parts are
evaluated. -/
def faultsOf (dialect : Dialect) (raw : String) : List Fault :=
  match dialect.limit? raw with
  | some limit => [.beyond limit]
  | none =>
    match parse? dialect raw with
    | some e => e.term.faults
    | none => [.malformed]

/-- **Reading a text fails with its first fault**, and gives a value if there are none. -/
theorem read_reports (dialect : Dialect) (raw : String) :
    Reports (read dialect raw) (faultsOf dialect raw) := by
  rw [read, faultsOf]
  cases dialect.limit? raw with
  | some limit => exact .error _
  | none =>
    cases parse? dialect raw with
    | none => exact .error _
    | some e => exact Term.eval_reports e.term

/-- The term whose value is read is that of the expression. -/
theorem exists_term_of_read {dialect : Dialect} {raw : String} {v : Literal}
    (h : read dialect raw = .ok v) : ∃ e, parse? dialect raw = some e ∧ e.term.eval = .ok v := by
  rw [read] at h
  split at h
  · exact absurd h (by simp)
  · split at h
    · rename_i e he
      exact ⟨e, he, h⟩
    · exact absurd h (by simp)

end WorkflowDocs.Literal
