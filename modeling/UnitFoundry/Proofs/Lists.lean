import Mathlib.Data.List.Lex
import Mathlib.Data.List.Nodup
import Mathlib.Data.String.Basic

/-! # Looking things up in lists

* **`lookup_of_nodup`**: under distinct keys, whatever is listed is found.
* **`cons_le_cons_iff`**: lists are compared member by member.
* **`FindsLeast.findSome?`**: going through branches in the order of their names, the first result
  is the least one of all branches, if each branch gives its least one. Lists of names are compared
  name by name, and a list comes before those that go on from it. -/

namespace UnitFoundry

/-- A pair is found by its key if no other pair has the key. -/
theorem lookup_of_nodup {α β : Type} [BEq α] [LawfulBEq α] {xs : List (α × β)}
    (hnodup : (xs.map (·.1)).Nodup) {k : α} {x : β} (h : (k, x) ∈ xs) :
    xs.lookup k = some x := by
  obtain ⟨before, after, rfl⟩ := List.append_of_mem h
  refine List.lookup_eq_some_iff.2 ⟨before, after, rfl, fun p hp => ?_⟩
  rw [List.map_append, List.nodup_append] at hnodup
  exact bne_iff_ne.2 fun heq =>
    hnodup.2.2 p.1 (List.mem_map_of_mem hp) k List.mem_cons_self heq.symm

/-! ## The order of lists -/

/-- The empty list comes before all others. -/
theorem nil_le_list {α : Type} [LinearOrder α] (xs : List α) : [] ≤ xs := by
  cases xs with
  | nil => exact le_rfl
  | cons x xs => exact le_of_lt List.Lex.nil

/-- The first members decide the order, unless they are the same. -/
theorem cons_le_cons_iff {α : Type} [LinearOrder α] {x y : α} {xs ys : List α} :
    x :: xs ≤ y :: ys ↔ x < y ∨ x = y ∧ xs ≤ ys := by
  have hlt : y :: ys < x :: xs ↔ y < x ∨ y = x ∧ ys < xs := List.cons_lt_cons_iff
  rw [← not_lt, hlt, not_or, not_lt, le_iff_lt_or_eq, ← not_lt (a := ys)]
  constructor
  · rintro ⟨hfirst | hsame, hrest⟩
    · exact Or.inl hfirst
    · exact Or.inr ⟨hsame, fun hys => hrest ⟨hsame.symm, hys⟩⟩
  · rintro (hfirst | ⟨hsame, hrest⟩)
    · exact ⟨Or.inl hfirst, fun hboth => hfirst.ne' hboth.1⟩
    · exact ⟨Or.inr hsame, fun hboth => hrest hboth.2⟩

/-! ## Least results -/

/-- What a search gives: the result of the least list of names with a property, or nothing if no
list has the property. -/
inductive FindsLeast {β : Type} (P : List String → Prop) (result : List String → β) :
    Option β → Prop where
  /-- No list has the property. -/
  | none : (∀ ks, ¬P ks) → FindsLeast P result none
  /-- A list has the property, and it comes before all others that have it. -/
  | some (ks : List String) {b : β} : P ks → (∀ ks', P ks' → ks ≤ ks') → b = result ks →
    FindsLeast P result (some b)

namespace FindsLeast

variable {α β : Type} {P : List String → Prop} {result : List String → β}

theorem eq_none_iff {o : Option β} (h : FindsLeast P result o) : o = .none ↔ ∀ ks, ¬P ks := by
  cases h with
  | none hnone => exact iff_of_true rfl hnone
  | some ks hks _ _ => exact iff_of_false (by simp) fun hnone => hnone ks hks

/-- **The first result of branches in the order of their names is the least one**, if each branch
gives its least one. -/
theorem findSome? (name : α → String) {search : α → Option β} {branches : List α}
    (hsorted : branches.Pairwise fun a b => name a ≤ name b)
    (hbranch : ∀ a ∈ branches,
      FindsLeast (fun ks => P (name a :: ks)) (fun ks => result (name a :: ks)) (search a))
    (hcover : ∀ ks, P ks → ∃ a ∈ branches, ∃ ks', ks = name a :: ks') :
    FindsLeast P result (branches.findSome? search) := by
  cases hfirst : branches.findSome? search with
  | none =>
      refine .none fun ks hks => ?_
      obtain ⟨a, ha, ks', rfl⟩ := hcover ks hks
      exact (hbranch a ha).eq_none_iff.1 (List.findSome?_eq_none_iff.1 hfirst a ha) ks' hks
  | some b =>
      obtain ⟨before, a, after, rfl, ha, hbefore⟩ := List.findSome?_eq_some_iff.1 hfirst
      have hbranchA := hbranch a (by simp)
      rw [ha] at hbranchA
      cases hbranchA with
      | some ks hks hleast hb =>
          refine .some (name a :: ks) hks (fun ks' hks' => ?_) hb
          obtain ⟨a', ha', ks'', rfl⟩ := hcover ks' hks'
          rcases List.mem_append.1 ha' with ha'' | ha''
          · -- an earlier branch has given nothing
            exact absurd hks' ((hbranch a' ha').eq_none_iff.1 (hbefore a' ha'') ks'')
          · have hle : name a ≤ name a' := by
              rcases List.mem_cons.1 ha'' with rfl | ha''
              · exact le_rfl
              · have htail := (List.pairwise_append.1 hsorted).2.1
                exact (List.pairwise_cons.1 htail).1 a' ha''
            rcases hle.lt_or_eq with hlt | heq
            · exact le_of_lt (.rel hlt)
            · rw [← heq] at hks' ⊢
              exact List.cons_le_cons (name a) (hleast ks'' hks')

end FindsLeast

end UnitFoundry
