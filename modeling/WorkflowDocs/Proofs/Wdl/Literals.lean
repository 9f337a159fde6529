import WorkflowDocs.Proofs.Lists
import WorkflowDocs.Proofs.Wdl.Mentions
import WorkflowDocs.Wdl.Expr.Literal

/-!
# Expressions without a literal value

An expression that has to be computed has no literal value, and neither has a string with an
interpolated expression in it. The items of an array and the members of a struct are asked one after
the other, and the first one that has none, or none that fits, ends the question. So an array or a
struct has no literal value because of one of its parts, or because it cannot be asked at all.

## Main definitions

* `Expr.HasLiteral`, `Expr.HasLiteralOf`: expressions with a literal value, of a type
* `Expr.isComputed`: the kinds of expressions that have no literal value
* `Expr.LacksLiteral`: expressions that are asked for a literal value and have none

## Main results

* `Expr.literal_eq_absent_iff`: which expressions have no literal value when they are asked
-/

namespace WorkflowDocs

namespace Expr

/-- The expression has a literal value. -/
def HasLiteral (e : Expr) : Prop :=
  ∃ v, e.literal = .ok v

/-- The expression has a literal value that can be brought to a type. -/
def HasLiteralOf (type : WdlType) (e : Expr) : Prop :=
  ∃ v v', e.literal = .ok v ∧ v.coerce? type = some v'

/-- The kinds of expressions that have no literal value. -/
def isComputed : Expr → Bool
  | .null | .placeholder _ _ | .ifThenElse _ _ _ | .ident _ | .get _ _ | .apply _ _ => true
  | _ => false

/-- The expression has no literal value when it is asked for one: it has to be computed, something
is interpolated into it, or this is so of the first of its parts without a value that can be
used. -/
inductive LacksLiteral : Expr → Prop
  | computed {e : Expr} (h : e.isComputed = true) : LacksLiteral e
  | interpolated {pieces : List Piece} {p : Piece} (hp : p ∈ pieces.tail.dropLast)
      (h : p.value?.isSome = true) : LacksLiteral (.string pieces)
  | item {type : WdlType} {nonempty optional : Bool} {before after : List Expr} {e : Expr}
      (hbefore : ∀ x ∈ before, HasLiteralOf type x) (h : LacksLiteral e) :
      LacksLiteral (.array (before ++ e :: after) (some (.array type nonempty optional)))
  | member {before after : List (String × Expr)} {name : String} {e : Expr}
      (hbefore : ∀ m ∈ before, m.2.HasLiteral) (h : LacksLiteral e) :
      LacksLiteral (.struct (before ++ (name, e) :: after))

theorem plainText?_eq_none_iff {pieces : List Piece} :
    Piece.plainText? pieces = none ↔ ∃ p ∈ pieces, p.value?.isSome = true := by
  induction pieces with
  | nil => simp [Piece.plainText?]
  | cons p pieces ih => cases p <;> simp [Piece.plainText?, Piece.value?, ih]

theorem lacksLiteral_string_iff {pieces : List Piece} :
    (string pieces).LacksLiteral ↔ ∃ p ∈ pieces.tail.dropLast, p.value?.isSome = true := by
  constructor
  · intro h
    cases h with
    | computed h => cases h
    | interpolated hp h => exact ⟨_, hp, h⟩
  · rintro ⟨p, hp, h⟩
    exact .interpolated hp h

theorem lacksLiteral_array_iff {items : List Expr} {type : WdlType} {nonempty optional : Bool} :
    (array items (some (.array type nonempty optional))).LacksLiteral ↔
      ∃ before e after, items = before ++ e :: after ∧ (∀ x ∈ before, HasLiteralOf type x) ∧
        e.LacksLiteral := by
  constructor
  · intro h
    cases h with
    | computed h => cases h
    | item hbefore h => exact ⟨_, _, _, rfl, hbefore, h⟩
  · rintro ⟨before, e, after, rfl, hbefore, h⟩
    exact .item hbefore h

theorem lacksLiteral_struct_iff {members : List (String × Expr)} :
    (struct members).LacksLiteral ↔
      ∃ before m after, members = before ++ m :: after ∧ (∀ m ∈ before, m.2.HasLiteral) ∧
        m.2.LacksLiteral := by
  constructor
  · intro h
    cases h with
    | computed h => cases h
    | member hbefore h => exact ⟨_, _, _, rfl, hbefore, h⟩
  · rintro ⟨before, ⟨name, e⟩, after, rfl, hbefore, h⟩
    exact .member hbefore h

mutual

/-- Which expressions have no literal value when they are asked for one. Without a type for its
items, an array cannot be asked. -/
theorem literal_eq_absent_iff : ∀ e : Expr, e.literal = .error .absent ↔ e.LacksLiteral
  | .boolean _ | .int _ | .float _ | .pair _ _ | .map _ => by
    refine iff_of_false (fun h => nomatch h) fun h => ?_
    cases h with
    | computed h => cases h
  | .null | .placeholder _ _ | .ifThenElse _ _ _ | .ident _ | .get _ _ | .apply _ _ =>
    iff_of_true rfl (.computed rfl)
  | .string pieces => by
    rw [lacksLiteral_string_iff, ← plainText?_eq_none_iff, literal]
    cases Piece.plainText? pieces.tail.dropLast <;> simp
  | .array items type => by
    rcases type with _ | _ | ⟨type, nonempty, optional⟩ | _ | _ | _
    case some.array =>
      rw [lacksLiteral_array_iff, ← itemLiterals_eq_absent_iff type items, literal]
      cases itemLiterals type items <;> simp [Except.map]
    all_goals
      refine iff_of_false (fun h => nomatch h) fun h => ?_
      cases h with
      | computed h => cases h
  | .struct members => by
    rw [lacksLiteral_struct_iff, ← checkMembers_eq_absent_iff members, literal]
    cases checkMembers members <;> simp [bind, Except.bind]

theorem itemLiterals_eq_absent_iff (type : WdlType) :
    ∀ items : List Expr, itemLiterals type items = .error .absent ↔
      ∃ before e after, items = before ++ e :: after ∧ (∀ x ∈ before, HasLiteralOf type x) ∧
        e.LacksLiteral
  | [] => by simp [itemLiterals]
  | e :: items => by
    rw [exists_first_cons_iff, ← itemLiterals_eq_absent_iff type items, ← literal_eq_absent_iff e,
      itemLiterals, HasLiteralOf]
    cases e.literal with
    | error err => simp [bind, Except.bind]
    | ok v =>
      cases hv : v.coerce? type with
      | none => simp [bind, Except.bind, hv]
      | some v' =>
        cases itemLiterals type items <;> simp [bind, Except.bind, pure, Except.pure, hv]

theorem checkMembers_eq_absent_iff :
    ∀ members : List (String × Expr), checkMembers members = .error .absent ↔
      ∃ before m after, members = before ++ m :: after ∧ (∀ m ∈ before, m.2.HasLiteral) ∧
        m.2.LacksLiteral
  | [] => by simp [checkMembers]
  | (name, e) :: members => by
    rw [exists_first_cons_iff, ← checkMembers_eq_absent_iff members, ← literal_eq_absent_iff e,
      checkMembers, HasLiteral]
    cases e.literal <;> simp [bind, Except.bind]

end

end Expr

end WorkflowDocs
