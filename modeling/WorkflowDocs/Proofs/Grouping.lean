import Mathlib.Data.List.Induction
import Mathlib.Data.List.Nodup
import Mathlib.Data.List.Perm.Basic
import WorkflowDocs.Proofs.Fields

/-!
# Members of a list by key

A list can be taken apart by a key of its members. Where the keys that are asked for are different,
no member is met twice.

Fields gather the members of a list when these are taken up one after the other, each under its key.
Such fields have the keys in order of first occurrence, and under each key what the members with
this key make up, as if there were no others.

## Main definitions

* `Fields.gather`: fields that take up the members of a list
* `Fields.gathered?`: what members with one key make up

## Main results

* `flatMap_filter_perm`: the members with one key after the other
* `Fields.names_gather`, `Fields.get?_gather`: the fields that are gathered, by name
* `Fields.flatMap_gather_perm`: what is gathered is all there is
-/

namespace WorkflowDocs

open scoped List

section Keys

variable {α β : Type} [DecidableEq β] (key : α → β)

/-- Key by key, a list gives its members with one of the keys, each once. Of the members with one of
the keys, those with the first key come first. -/
theorem flatMap_filter_perm {keys : List β} (h : keys.Nodup) (members : List α) :
    (keys.flatMap fun k => members.filter fun a => key a == k) ~
      members.filter fun a => decide (key a ∈ keys) := by
  induction keys with
  | nil => simp
  | cons k keys ih =>
    obtain ⟨hk, hkeys⟩ := List.nodup_cons.1 h
    have hfirst : (members.filter fun a => decide (key a ∈ k :: keys)).filter
        (fun a => key a == k) = members.filter fun a => key a == k := by
      rw [List.filter_filter]
      refine List.filter_congr fun a _ => ?_
      by_cases ha : key a = k <;> simp [ha]
    have hothers : (members.filter fun a => decide (key a ∈ k :: keys)).filter
        (fun a => !(key a == k)) = members.filter fun a => decide (key a ∈ keys) := by
      rw [List.filter_filter]
      refine List.filter_congr fun a _ => ?_
      by_cases ha : key a = k
      · simp [ha, hk]
      · simp [ha]
    calc (k :: keys).flatMap (fun k => members.filter fun a => key a == k)
        = (members.filter fun a => key a == k) ++
            keys.flatMap fun k => members.filter fun a => key a == k := List.flatMap_cons
      _ ~ (members.filter fun a => key a == k) ++
            members.filter fun a => decide (key a ∈ keys) := (ih hkeys).append_left _
      _ ~ members.filter fun a => decide (key a ∈ k :: keys) := by
          rw [← hfirst, ← hothers]
          exact List.filter_append_perm _ _

end Keys

theorem eraseDups_append_singleton (keys : List String) (key : String) :
    (keys ++ [key]).eraseDups =
      if key ∈ keys then keys.eraseDups else keys.eraseDups ++ [key] := by
  rw [List.eraseDups_append]
  by_cases h : key ∈ keys
  · simp [List.removeAll, h]
  · simp [List.removeAll, h, List.eraseDups_cons]

theorem nodup_eraseDups (keys : List String) : keys.eraseDups.Nodup := by
  induction keys using List.reverseRecOn with
  | nil => exact List.nodup_nil
  | append_singleton keys key ih =>
    rw [eraseDups_append_singleton]
    split
    · exact ih
    · rename_i hnew
      rw [← List.concat_eq_append]
      exact ih.concat (mt List.mem_eraseDups.1 hnew)

namespace Fields

/-! ## Gathering -/

variable {α β : Type} (key : β → String) (fresh : β → α) (add : β → α → α)

/-- The fields that take up the members of a list one after the other, each under its key. The first
member with a key opens a field. -/
def gather (members : List β) : Fields α :=
  members.foldl (fun fields b => update (key b) (fresh b) (add b) fields) []

/-- What members with one key make up, if there are any. -/
def gathered? (members : List β) : Option α :=
  members.head?.map fun first => members.foldl (fun a b => add b a) (fresh first)

variable (members : List β)

theorem gather_append_singleton (b : β) :
    gather key fresh add (members ++ [b]) =
      update (key b) (fresh b) (add b) (gather key fresh add members) := by
  rw [gather, List.foldl_append]
  rfl

theorem gathered?_append_singleton (b : β) :
    gathered? fresh add (members ++ [b]) =
      some (add b ((gathered? fresh add members).getD (fresh b))) := by
  simp only [gathered?, List.foldl_append]
  cases members <;> rfl

/-- The names that are gathered are the keys, in order of first occurrence. -/
theorem names_gather : (gather key fresh add members).names = (members.map key).eraseDups := by
  induction members using List.reverseRecOn with
  | nil => rfl
  | append_singleton members b ih =>
    rw [gather_append_singleton, update, names_put, ih, List.map_append, List.map_singleton,
      eraseDups_append_singleton]
    simp only [List.mem_eraseDups]

theorem mem_names_gather {members : List β} {b : β} (h : b ∈ members) :
    key b ∈ (gather key fresh add members).names := by
  rw [names_gather, List.mem_eraseDups]
  exact List.mem_map_of_mem h

theorem nodup_names_gather : (gather key fresh add members).names.Nodup := by
  rw [names_gather]
  exact nodup_eraseDups _

/-- Under a key there is what the members with this key make up. -/
theorem get?_gather (k : String) :
    (gather key fresh add members).get? k =
      gathered? fresh add (members.filter fun b => key b == k) := by
  induction members using List.reverseRecOn with
  | nil => rfl
  | append_singleton members b ih =>
    rw [gather_append_singleton, update, List.filter_append]
    by_cases hk : k = key b
    · subst hk
      rw [get?_put_self, ih, List.filter_cons_of_pos (by simp), List.filter_nil,
        gathered?_append_singleton]
    · rw [get?_put_of_ne hk, ih, List.filter_cons_of_neg (by simpa using Ne.symm hk),
        List.filter_nil, List.append_nil]

/-- A field that is gathered has the key of some member, and what the members with this key make
up. -/
theorem mem_gather {f : String × α} (h : f ∈ gather key fresh add members) :
    ∃ first ∈ members, key first = f.1 ∧
      f.2 = (members.filter fun b => key b == f.1).foldl (fun a b => add b a) (fresh first) := by
  have hget := (get?_eq_some_iff (nodup_names_gather key fresh add members)).2 h
  rw [get?_gather, gathered?, Option.map_eq_some_iff] at hget
  obtain ⟨first, hfirst, hvalue⟩ := hget
  obtain ⟨hmem, hkey⟩ := List.mem_filter.1 (List.mem_of_head? hfirst)
  exact ⟨first, hmem, by simpa using hkey, hvalue.symm⟩

/-- What is gathered is all there is: if the field of each key shows what its members hold, then all
fields together show what all members hold. -/
theorem flatMap_gather_perm {γ : Type} (view : α → List γ) (held : β → List γ)
    (h : ∀ f ∈ gather key fresh add members,
      view f.2 ~ (members.filter fun b => key b == f.1).flatMap held) :
    (gather key fresh add members).flatMap (fun f => view f.2) ~ members.flatMap held := by
  have hall : (members.filter fun b => decide (key b ∈ (gather key fresh add members).names)) =
      members :=
    List.filter_eq_self.2 fun b hb => decide_eq_true (mem_names_gather key fresh add hb)
  calc (gather key fresh add members).flatMap (fun f => view f.2)
      ~ (gather key fresh add members).flatMap
          fun f => (members.filter fun b => key b == f.1).flatMap held :=
        List.Perm.flatMap_left _ h
    _ = ((gather key fresh add members).names.flatMap
          fun k => members.filter fun b => key b == k).flatMap held := by
        rw [List.flatMap_assoc, names, List.flatMap_map]
    _ ~ members.flatMap held := by
        have hperm := flatMap_filter_perm key (nodup_names_gather key fresh add members) members
        rw [hall] at hperm
        exact hperm.flatMap_right _

end Fields

end WorkflowDocs
